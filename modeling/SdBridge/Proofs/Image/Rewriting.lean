import Mathlib.Data.List.Induction
import SdBridge.Proofs.Image.Contents
import SdBridge.Proofs.Image.Reliable

/-!
Images that are written as well as read. In memory and in a file alike they are an array of sectors:
each sector holds what was last written to it, and a call from outside changes nothing.
-/
namespace SdBridge.Image

section Store

variable (bytes : Bytes) (contents : Sector)

theorem sectorAt_store (start : Nat) :
    sectorAt (bytes.store start contents.toArray) start = contents := by
  apply Vector.ext
  intro i inside
  rw [sectorAt, Vector.getElem_ofFn, Bytes.byte_store_add _ _ _ _ (by simpa using inside)]
  rfl

theorem sectorAt_store_of_apart {start other : Nat}
    (apart : other + sectorSize ≤ start ∨ start + sectorSize ≤ other) :
    sectorAt (bytes.store start contents.toArray) other = sectorAt bytes other := by
  apply Vector.ext
  intro i inside
  rw [sectorAt, sectorAt, Vector.getElem_ofFn, Vector.getElem_ofFn]
  rcases apart with before | behind
  · exact Bytes.byte_store_of_lt _ _ _ _ (by simp only; omega)
  · exact Bytes.byte_store_of_le _ _ _ _ (by rw [Vector.size_toArray]; omega)

end Store

theorem sectorsOfSize_eq_ok {size : Nat} {sectors : UInt64}
    (whole : size = sectors.toNat * sectorSize) (filled : 0 < sectors)
    (countable : size < UInt64.size) : sectorsOfSize size.toUInt64 = .ok sectors := by
  have number : size.toUInt64.toNat = size := UInt64.toNat_ofNat_of_lt countable
  have unit : sectorSize.toUInt64.toNat = sectorSize := rfl
  have nonzero : size.toUInt64 ≠ 0 := by
    intro zero
    have none : size = 0 := number.symm.trans (congrArg UInt64.toNat zero)
    have some : 0 < sectors.toNat * sectorSize :=
      Nat.mul_pos (UInt64.lt_iff_toNat_lt.1 filled) (by decide)
    omega
  have aligned : size.toUInt64 % sectorSize.toUInt64 = 0 := by
    apply UInt64.toNat_inj.1
    rw [UInt64.toNat_mod, number, unit, whole, Nat.mul_mod_left]
    rfl
  have count : size.toUInt64 / sectorSize.toUInt64 = sectors := by
    apply UInt64.toNat_inj.1
    rw [UInt64.toNat_div, number, unit, whole, Nat.mul_div_cancel _ (by decide)]
  rw [sectorsOfSize, if_neg nonzero, if_neg (not_not.2 aligned), count]

inductive Call where
  | read (lba : UInt64) (buffer : Sector)
  | write (lba : UInt64) (contents : Sector)

structure Reply where
  result : Except (Failure Error) Unit
  buffer : Option Sector := none

namespace Call

def written? (sector : UInt64) : Call → Option Sector
  | .read _ _ => none
  | .write lba contents => if lba = sector then some contents else none

variable {β : Type} [Store β]

def reply (b : β) : Call → Reply
  | .read lba buffer =>
    let read := Store.read lba buffer b
    ⟨read.result, read.buffer⟩
  | .write lba contents => ⟨(Store.write lba contents b).1, none⟩

def change (b : β) : Call → β
  | .read lba buffer => (Store.read lba buffer b).store
  | .write lba contents => (Store.write lba contents b).2

def after (b : β) (calls : List Call) : β := calls.foldl change b

end Call

namespace Contents

def ofBytes (sectors : UInt64) (bytes : Bytes) : Contents :=
  ⟨sectors, fun lba => sectorAt bytes (lba.toNat * sectorSize)⟩

/-- How an array of sectors answers a call. -/
def reply (c : Contents) : Call → Reply
  | .read lba buffer =>
    if lba < c.sectors then ⟨.ok (), c.sector lba⟩
    else ⟨.error (.error (.outOfRange lba c.sectors)), buffer⟩
  | .write lba _ =>
    if lba < c.sectors then ⟨.ok (), none⟩
    else ⟨.error (.error (.outOfRange lba c.sectors)), none⟩

/-- What is there after some calls: the last contents written to a sector, or else those before. -/
def rewritten (c : Contents) (calls : List Call) : Contents :=
  { c with sector := fun lba => (calls.filterMap (·.written? lba)).getLast?.getD (c.sector lba) }

theorem rewritten_append (c : Contents) (calls more : List Call) :
    c.rewritten (calls ++ more) = (c.rewritten calls).rewritten more := by
  simp only [rewritten, List.filterMap_append, List.getLast?_append, Option.getD_or]

theorem sector_rewritten_self (c : Contents) (lba : UInt64) (contents : Sector) :
    (c.rewritten [.write lba contents]).sector lba = contents := by
  simp [rewritten, Call.written?]

theorem sector_rewritten_of_ne (c : Contents) {lba other : UInt64} (apart : lba ≠ other)
    (contents : Sector) : (c.rewritten [.write lba contents]).sector other = c.sector other := by
  simp [rewritten, Call.written?, apart]

structure In (c : Contents) (bytes : Bytes) : Prop where
  size : bytes.size = c.sectors.toNat * sectorSize
  countable : bytes.size < UInt64.size
  sector : ∀ lba < c.sectors, sectorAt bytes (lba.toNat * sectorSize) = c.sector lba

variable {c : Contents} {bytes : Bytes}

theorem in_ofBytes {sectors : UInt64} (size : bytes.size = sectors.toNat * sectorSize)
    (countable : bytes.size < UInt64.size) : (ofBytes sectors bytes).In bytes :=
  ⟨size, countable, fun _ _ => rfl⟩

theorem In.inside (holds : c.In bytes) {lba : UInt64} (inside : lba < c.sectors) :
    lba.toNat * sectorSize + sectorSize ≤ bytes.size := by
  have := UInt64.lt_iff_toNat_lt.1 inside
  rw [holds.size, ← Nat.succ_mul]
  exact Nat.mul_le_mul_right _ this

theorem In.sectorStart (holds : c.In bytes) {lba : UInt64} (inside : lba < c.sectors) :
    ∃ start : UInt64, Image.sectorStart lba c.sectors = .ok start ∧
      start.toNat = lba.toNat * sectorSize :=
  sectorStart_eq_ok (holds.size ▸ holds.countable) inside

/-- Writing outside leaves all sectors as they were. -/
theorem In.outside (holds : c.In bytes) {lba : UInt64} (outside : ¬lba < c.sectors)
    (contents : Sector) : (c.rewritten [.write lba contents]).In bytes := by
  refine ⟨holds.size, holds.countable, ?_⟩
  intro other inside
  rw [sector_rewritten_of_ne c _ contents]
  · exact holds.sector other inside
  · rintro rfl
    exact outside inside

/-- Writing a sector leaves the others as they were. -/
theorem In.splice (holds : c.In bytes) {lba : UInt64} (inside : lba < c.sectors)
    (contents : Sector) : (c.rewritten [.write lba contents]).In
      (bytes.splice (lba.toNat * sectorSize) contents.toArray) := by
  have room := holds.inside inside
  have stored : bytes.splice (lba.toNat * sectorSize) contents.toArray =
      bytes.store (lba.toNat * sectorSize) contents.toArray := by
    rw [Bytes.splice, if_pos (by simpa using room)]
  rw [stored]
  refine ⟨holds.size, holds.countable, ?_⟩
  intro other present
  by_cases here : lba = other
  · subst here
    rw [sector_rewritten_self, sectorAt_store]
  · rw [sector_rewritten_of_ne c here, ← holds.sector other present, sectorAt_store_of_apart]
    rcases Nat.lt_or_gt_of_ne (mt UInt64.toNat_inj.1 here) with lower | upper
    · have := Nat.mul_le_mul_right sectorSize lower
      rw [Nat.succ_mul] at this
      exact .inr this
    · have := Nat.mul_le_mul_right sectorSize upper
      rw [Nat.succ_mul] at this
      exact .inl this

end Contents

/-- Stores of a type that are arrays of sectors; a relation tells which contents they hold. -/
structure Rewritable {β : Type} [Store β] (Holds : Contents → β → Prop) : Prop where
  sectorCount {c b} : Holds c b → Store.sectorCount b = c.sectors
  read_inside {c b lba} (buffer) : Holds c b → lba < c.sectors →
    Store.read lba buffer b = ⟨.ok (), c.sector lba, b⟩
  read_outside {c b lba} (buffer) : Holds c b → ¬lba < c.sectors →
    Store.read lba buffer b = ⟨.error (.error (.outOfRange lba c.sectors)), buffer, b⟩
  write_inside {c b lba} (contents) : Holds c b → lba < c.sectors →
    ∃ after, Store.write lba contents b = (.ok (), after) ∧
      Holds (c.rewritten [.write lba contents]) after
  write_outside {c b lba} (contents) : Holds c b → ¬lba < c.sectors →
    Store.write lba contents b = (.error (.error (.outOfRange lba c.sectors)), b) ∧
      Holds (c.rewritten [.write lba contents]) b

/-- A store that answers all calls as an array of sectors and that only a write inside changes. -/
structure Mirrors {β : Type} [Store β] (c : Contents) (b : β) : Prop where
  reply : ∀ call : Call, call.reply b = c.reply call
  change_read : ∀ lba buffer, (Call.read lba buffer).change b = b
  change_outside : ∀ lba contents, c.sectors ≤ lba → (Call.write lba contents).change b = b
  sectorCount : Store.sectorCount b = c.sectors
  sizeInBytes : ∃ size, sizeInBytes b = .ok size ∧ size.toNat = c.sectors.toNat * sectorSize

namespace Rewritable

variable {β : Type} [Store β] {Holds : Contents → β → Prop} {c : Contents} {b : β}

theorem reply (store : Rewritable Holds) (holds : Holds c b) (call : Call) :
    call.reply b = c.reply call := by
  cases call with
  | read lba buffer =>
    by_cases inside : lba < c.sectors
    · simp only [Call.reply, Contents.reply, store.read_inside buffer holds inside, if_pos inside]
    · simp only [Call.reply, Contents.reply, store.read_outside buffer holds inside, if_neg inside]
  | write lba contents =>
    by_cases inside : lba < c.sectors
    · obtain ⟨after, written, -⟩ := store.write_inside contents holds inside
      simp only [Call.reply, Contents.reply, written, if_pos inside]
    · obtain ⟨refused, -⟩ := store.write_outside contents holds inside
      simp only [Call.reply, Contents.reply, refused, if_neg inside]

theorem change_read (store : Rewritable Holds) (holds : Holds c b) (lba : UInt64)
    (buffer : Sector) : (Call.read lba buffer).change b = b := by
  by_cases inside : lba < c.sectors
  · rw [Call.change, store.read_inside buffer holds inside]
  · rw [Call.change, store.read_outside buffer holds inside]

theorem change_outside (store : Rewritable Holds) (holds : Holds c b) {lba : UInt64}
    (outside : c.sectors ≤ lba) (contents : Sector) : (Call.write lba contents).change b = b := by
  rw [Call.change, (store.write_outside contents holds (UInt64.not_lt.2 outside)).1]

theorem change (store : Rewritable Holds) (holds : Holds c b) (call : Call) :
    Holds (c.rewritten [call]) (call.change b) := by
  cases call with
  | read lba buffer =>
    rw [store.change_read holds]
    exact holds
  | write lba contents =>
    by_cases inside : lba < c.sectors
    · obtain ⟨after, written, kept⟩ := store.write_inside contents holds inside
      rw [Call.change, written]
      exact kept
    · obtain ⟨refused, kept⟩ := store.write_outside contents holds inside
      rw [Call.change, refused]
      exact kept

theorem after (store : Rewritable Holds) (holds : Holds c b) (calls : List Call) :
    Holds (c.rewritten calls) (Call.after b calls) := by
  induction calls using List.reverseRecOn with
  | nil => exact holds
  | append_singleton calls call ih =>
    rw [Contents.rewritten_append, Call.after, List.foldl_append]
    exact store.change ih call

theorem mirrors (store : Rewritable Holds) (counted : c.sectors.toNat * sectorSize < UInt64.size)
    (holds : Holds c b) : Mirrors c b := by
  have count := store.sectorCount holds
  have unit : sectorSize.toUInt64.toNat = sectorSize := rfl
  refine ⟨store.reply holds, store.change_read holds, ?_, count,
    c.sectors * sectorSize.toUInt64, ?_, ?_⟩
  · intro lba contents outside
    exact store.change_outside holds outside contents
  · rw [Image.sizeInBytes, count]
    exact checkedMul_eq_ok counted
  · rw [UInt64.toNat_mul, unit]
    exact Nat.mod_eq_of_lt counted

end Rewritable

theorem Memory.rewritable : Rewritable fun (c : Contents) (m : Memory) => c.In m.bytes where
  sectorCount holds := sectorCount_of_size holds.size
  read_inside buffer holds inside := by
    simp only [Store.read, start_inside holds.countable holds.size inside, holds.sector _ inside]
  read_outside buffer holds outside := by
    simp only [Store.read, start_outside holds.size outside]
  write_inside contents holds inside := by
    simp only [Store.write, start_inside holds.countable holds.size inside]
    exact ⟨_, rfl, holds.splice inside contents⟩
  write_outside contents holds outside := by
    simp only [Store.write, start_outside holds.size outside]
    exact ⟨trivial, holds.outside outside contents⟩

namespace File

variable {c : Contents} {lba : UInt64} {f : File}

structure Open (c : Contents) (f : File) : Prop where
  holds : c.In f.file.bytes
  sectors : f.sectors = c.sectors
  writable : f.writable = true
  forWriting : f.file.forWriting = true

theorem readAt_of_le {file : OpenFile} {start : Nat} (fits : start + sectorSize ≤ file.bytes.size)
    (buffer : Sector) : readAt file start buffer = (.ok (), sectorAt file.bytes start) :=
  if_pos fits

theorem read_inside (holds : c.In f.file.bytes) (count : f.sectors = c.sectors)
    (inside : lba < c.sectors) (buffer : Sector) :
    Store.read lba buffer f = ⟨.ok (), c.sector lba, f⟩ := by
  obtain ⟨start, ok, place⟩ := holds.sectorStart inside
  simp only [Store.read, count, ok, place, readAt_of_le (holds.inside inside) buffer,
    holds.sector _ inside]

theorem read_outside (count : f.sectors = c.sectors) (outside : ¬lba < c.sectors)
    (buffer : Sector) : Store.read lba buffer f =
      ⟨.error (.error (.outOfRange lba c.sectors)), buffer, f⟩ := by
  simp only [Store.read, count, sectorStart_outside outside]

theorem writeAt_of_forWriting {file : OpenFile} (opened : file.forWriting = true) (start : Nat)
    (contents : Sector) : writeAt file start contents =
      .ok { file with bytes := file.bytes.splice start contents.toArray } :=
  if_pos opened

theorem rewritable : Rewritable Open where
  sectorCount opened := opened.sectors
  read_inside buffer opened inside := read_inside opened.holds opened.sectors inside buffer
  read_outside buffer opened outside := read_outside opened.sectors outside buffer
  write_inside {_ _ lba} contents opened inside := by
    obtain ⟨start, ok, place⟩ := opened.holds.sectorStart inside
    have written := writeAt_of_forWriting opened.forWriting (lba.toNat * sectorSize) contents
    simp only [Store.write, opened.writable, if_true, opened.sectors, ok, place, written]
    exact ⟨_, rfl, opened.holds.splice inside contents, rfl, rfl, opened.forWriting⟩
  write_outside contents opened outside := by
    simp only [Store.write, opened.writable, if_true, opened.sectors, sectorStart_outside outside]
    exact ⟨trivial, opened.holds.outside outside contents, opened.sectors, opened.writable,
      opened.forWriting⟩

theorem reply_read (holds : c.In f.file.bytes) (count : f.sectors = c.sectors) (lba : UInt64)
    (buffer : Sector) : (Call.read lba buffer).reply f = c.reply (.read lba buffer) := by
  by_cases inside : lba < c.sectors
  · simp only [Call.reply, Contents.reply, read_inside holds count inside, if_pos inside]
  · simp only [Call.reply, Contents.reply, read_outside count inside, if_neg inside]

/-- A file that may not be written stays as it is. -/
theorem change_of_locked (locked : f.writable = false) (call : Call) : call.change f = f := by
  cases call with
  | read lba buffer =>
    simp only [Call.change, Store.read]
    split
    · rfl
    · split <;> rfl
  | write lba contents => simp [Call.change, Store.write, locked]

theorem after_of_locked (locked : f.writable = false) (calls : List Call) :
    Call.after f calls = f := by
  induction calls with
  | nil => rfl
  | cons call calls ih =>
    rw [Call.after, List.foldl_cons, change_of_locked locked]
    exact ih

theorem reply_of_locked (locked : f.writable = false) (lba : UInt64) (contents : Sector) :
    (Call.write lba contents).reply f = ⟨.error (.error .readOnly), none⟩ := by
  simp [Call.reply, Store.write, locked]

theorem ofPath_of_file {tree : FileTree} {path : String} {image : Bytes} {sectors : UInt64}
    (found : tree.find path = .ok (.file image))
    (size : sectorsOfSize image.size.toUInt64 = .ok sectors) (writable : Bool) :
    ofPath tree path writable = .ok ⟨⟨image, writable⟩, sectors, writable⟩ := by
  rw [ofPath, found]
  change ofFile ⟨image, writable⟩ writable = _
  rw [ofFile, size]
  rfl

end File

/-- Memory and a file opened for writing answer all calls as one array of sectors does, and a
read-only file never changes. -/
theorem stores_agree {tree : FileTree} {path : String} {image : Bytes} {sectors : UInt64}
    (found : tree.find path = .ok (.file image)) (whole : image.size = sectors.toNat * sectorSize)
    (filled : 0 < sectors) (countable : image.size < UInt64.size) :
    ∃ (memory : Memory) (file locked : File), Memory.ofBytes image = .ok memory ∧
      File.ofPath tree path true = .ok file ∧ File.ofPath tree path = .ok locked ∧
      ∀ calls : List Call,
        let c := Contents.ofBytes sectors image
        Mirrors (c.rewritten calls) (Call.after memory calls) ∧
        Mirrors (c.rewritten calls) (Call.after file calls) ∧
        Call.after locked calls = locked ∧ locked.file.bytes = image ∧
        (∀ lba contents,
          (Call.write lba contents).reply locked = ⟨.error (.error .readOnly), none⟩) ∧
        ∀ lba buffer, (Call.read lba buffer).reply locked = c.reply (.read lba buffer) := by
  have size := sectorsOfSize_eq_ok whole filled countable
  have start := Contents.in_ofBytes whole countable
  refine ⟨⟨image⟩, ⟨⟨image, true⟩, sectors, true⟩, ⟨⟨image, false⟩, sectors, false⟩, ?_, ?_, ?_, ?_⟩
  · rw [Memory.ofBytes, size]
    rfl
  · exact File.ofPath_of_file found size true
  · exact File.ofPath_of_file found size false
  intro calls c
  have counted : (c.rewritten calls).sectors.toNat * sectorSize < UInt64.size := whole ▸ countable
  refine ⟨?_, ?_, File.after_of_locked rfl calls, rfl, File.reply_of_locked rfl,
    File.reply_read start rfl⟩
  · exact Memory.rewritable.mirrors counted (Memory.rewritable.after start calls)
  · exact File.rewritable.mirrors counted (File.rewritable.after ⟨start, rfl, rfl, rfl⟩ calls)

/-- Two sectors of zeros; the second is written, and then one that is not there. -/
theorem stores_agree_card :
    let image := Bytes.zeros 1024
    let tree := FileTree.add {} "card.img" (.file image)
    let sevens : Sector := Vector.replicate sectorSize 7
    let calls : List Call := [.write 1 sevens, .write 2 (Vector.replicate sectorSize 9)]
    let missing : Except (Failure Error) Unit := .error (.error (.outOfRange 2 2))
    tree.find "card.img" = .ok (.file image) ∧ image.size = (2 : UInt64).toNat * sectorSize ∧
    ∃ (memory : Memory) (file : File), Memory.ofBytes image = .ok memory ∧
      File.ofPath tree "card.img" true = .ok file ∧ ∀ buffer,
        (Call.read 1 buffer).reply (Call.after memory calls) = ⟨.ok (), some sevens⟩ ∧
        (Call.read 1 buffer).reply (Call.after file calls) = ⟨.ok (), some sevens⟩ ∧
        (Call.read 2 buffer).reply (Call.after memory calls) = ⟨missing, some buffer⟩ ∧
        (Call.read 2 buffer).reply (Call.after file calls) = ⟨missing, some buffer⟩ := by
  intro image tree sevens calls missing
  have found : tree.find "card.img" = .ok (.file image) := rfl
  have whole : image.size = (2 : UInt64).toNat * sectorSize := rfl
  obtain ⟨memory, file, _, taken, opened, -, agree⟩ :=
    stores_agree found whole (by decide) (by decide)
  obtain ⟨first, second, -⟩ := agree calls
  refine ⟨found, whole, memory, file, taken, opened, ?_⟩
  intro buffer
  exact ⟨first.reply _, second.reply _, first.reply _, second.reply _⟩

end SdBridge.Image
