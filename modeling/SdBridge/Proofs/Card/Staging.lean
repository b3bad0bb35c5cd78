import SdBridge.Card.Data
import SdBridge.Proofs.Card.Posting

/-!
The data half between two looks at the posted word. What it still has to hand out is the rest of
the staged block and then the bytes of the job that is left; staging moves bytes from the second
part to the first, and handing out takes them off the front.
-/
namespace SdBridge.Card

def Job.next (sectors : UInt64) : Job → Job
  | .readBlocks lba => if lba + 1 < sectors then .readBlocks (lba + 1) else .idle
  | _ => .idle

def Job.sector? : Job → Option UInt64
  | .readBlock lba | .readBlocks lba => some lba
  | _ => none

section Sector

variable {job : Job} {lba : UInt64} (starts : job.sector? = some lba)

include starts

theorem Job.lt_of_inRange {sectors : UInt64} (inRange : job.InRange sectors) : lba < sectors := by
  cases job <;> cases starts <;> exact inRange

theorem Job.inRange_next (sectors : UInt64) : (job.next sectors).InRange sectors := by
  cases job <;> cases starts
  · trivial
  · simp only [next]
    split
    · assumption
    · trivial

theorem Job.bytes_of_sector {contents : Image.Contents} (inRange : job.InRange contents.sectors) :
    job.bytes contents =
      (contents.sector lba).toList ++ (job.next contents.sectors).bytes contents := by
  cases job <;> cases starts
  · simp [bytes, next]
  · rw [bytes, Image.Contents.onwards_of_lt inRange, next]
    split <;> rfl

theorem Job.length_of_sector {sectors : UInt64} (inRange : job.InRange sectors) :
    job.length sectors = Image.sectorSize + (job.next sectors).length sectors := by
  let blank : Image.Contents := ⟨sectors, fun _ => Vector.replicate _ 0⟩
  have bytes : job.bytes blank = _ := bytes_of_sector starts inRange
  simpa [length_bytes, blank] using congrArg List.length bytes

end Sector

namespace Data

variable {β : Type}

/-- The staged bytes that are not handed out yet. -/
def unread (d : Data β) : List UInt8 := (d.block.toList.take d.size).drop d.position

/-- All bytes of the ticket at hand that are not handed out yet. -/
def rest (contents : Image.Contents) (d : Data β) : List UInt8 := d.unread ++ d.job.bytes contents

theorem length_unread (d : Data β) : d.unread.length = d.size - d.position := by
  have fits := d.size_le
  simp only [unread, List.length_drop, List.length_take, Vector.length_toList]
  omega

theorem unread_eq_nil_iff (d : Data β) : d.unread = [] ↔ d.size ≤ d.position := by
  rw [← List.length_eq_zero_iff, length_unread]
  omega

section Follow

variable (posted : Ticket) (d : Data β)

@[simp] theorem follow_ticket : (d.follow posted).ticket = posted := by
  simp only [follow]
  split <;> simp_all

@[simp] theorem follow_store : (d.follow posted).store = d.store := by
  simp only [follow]
  split <;> rfl

@[simp] theorem follow_finished : (d.follow posted).finished = d.finished := by
  simp only [follow]
  split <;> rfl

theorem follow_self : d.follow d.ticket = d := by
  simp [follow]

end Follow

variable {posted : Ticket} {d : Data β}

/-- A new ticket drops what was staged and left. -/
theorem follow_new (new : posted ≠ d.ticket) :
    (d.follow posted).unread = [] ∧ (d.follow posted).job = posted.job := by
  simp [follow, new, unread]

theorem follow_inRange {sectors : UInt64} (job : d.job.InRange sectors)
    (new : posted.job.InRange sectors) : (d.follow posted).job.InRange sectors := by
  simp only [follow]
  split
  · exact job
  · exact new

/-- A byte is taken off the front. The last byte of a job tells the command half. -/
theorem next_of_unread {byte : UInt8} {more : List UInt8} (unread : d.unread = byte :: more) :
    ∃ after, d.next = (byte, after) ∧ after.unread = more ∧ after.job = d.job ∧
      after.ticket = d.ticket ∧ after.store = d.store ∧
      after.finished = if more = [] ∧ d.job = .idle then d.ticket else d.finished := by
  have some : d.position < d.size := by
    have length := d.length_unread
    rw [unread, List.length_cons] at length
    omega
  have fits := d.size_le
  have front : d.position < (d.block.toList.take d.size).length := by
    rw [List.length_take, Vector.length_toList]
    omega
  rw [Data.unread, List.drop_eq_getElem_cons front, List.cons.injEq, List.getElem_take,
    Vector.getElem_toList] at unread
  obtain ⟨head, tail⟩ := unread
  have last : more = [] ↔ d.position + 1 = d.size := by
    rw [← tail, List.drop_eq_nil_iff, List.length_take, Vector.length_toList]
    omega
  have byteAt : d.block.get ⟨d.position, Nat.lt_of_lt_of_le some d.size_le⟩ = byte := head
  simp only [next, some, dif_pos, byteAt]
  by_cases ended : d.position + 1 = d.size ∧ d.job = .idle
  · rw [if_pos ended]
    exact ⟨_, rfl, tail, ended.2.symm, rfl, rfl, by simp [finish, last, ended]⟩
  · rw [if_neg ended]
    exact ⟨_, rfl, tail, rfl, rfl, rfl, by simp [last, ended]⟩

theorem next_of_none (unread : d.unread = []) : d.next = (0, d) := by
  have none := (unread_eq_nil_iff d).1 unread
  simp [next, Nat.not_lt.2 none]

/-- The next sector number fits its word, since it is at most the number of sectors. -/
theorem remaining_eq {job : Job} {lba sectors : UInt64} (starts : job.sector? = some lba)
    (inside : lba < sectors) (now : UInt64) : remaining job lba now = .ok (job.next now) := by
  have bound := UInt64.lt_iff_toNat_lt.1 inside
  have limit := sectors.toNat_lt
  have room : lba.toNat + (1 : UInt64).toNat < UInt64.size := by
    simp only [UInt64.toNat_one, UInt64.size]
    omega
  cases job <;> cases starts
  · rfl
  · simp only [remaining, checkedAdd_eq_ok room, Job.next]
    rfl

theorem unread_stage {n : Nat} (bytes : Vector UInt8 n) (fits : n ≤ Image.sectorSize)
    (d : Data β) : (d.stage bytes fits).unread = bytes.toList := by
  simp only [unread, stage, List.drop_zero]
  apply List.ext_getElem
  · simp only [List.length_take, Vector.length_toList]
    omega
  · intro i inLeft inRight
    simp only [Vector.length_toList] at inRight
    simp [overlay, inRight]

variable [Image.Store β]

/-- How asking for a byte can end: a block is at hand, nothing is left, a short block was staged,
or a sector was read, which worked, failed or faulted. -/
inductive Prepared (d : Data β) : Served Bool (Data β) → Prop where
  | waiting (some : d.position < d.size) : Prepared d ⟨.ok true, d, []⟩
  | spent (none : d.unread = []) (job : d.job = .idle) : Prepared d ⟨.ok false, d, []⟩
  | short (none : d.unread = []) (starts : d.job.sector? = .none) (after : Data β)
      (job : after.job = .idle) (bytes : ∀ contents, after.unread = d.job.bytes contents)
      (some : after.unread ≠ []) (ticket : after.ticket = d.ticket) (finished : after.finished = d.finished)
      (store : after.store = d.store) : Prepared d ⟨.ok true, after, []⟩
  | sector (none : d.unread = []) (lba : UInt64) (starts : d.job.sector? = .some lba) (after : Data β)
      (read : (Image.Store.read lba d.block d.store).result = .ok ())
      (bytes : after.unread = (Image.Store.read lba d.block d.store).buffer.toList)
      (store : after.store = (Image.Store.read lba d.block d.store).store)
      (job : after.job = d.job.next (Image.Store.sectorCount after.store))
      (ticket : after.ticket = d.ticket) (finished : after.finished = d.finished) :
      Prepared d ⟨.ok true, after, [Data.staged lba]⟩
  | failed (none : d.unread = []) (lba : UInt64) (starts : d.job.sector? = .some lba) (after : Data β)
      (error : Image.Error)
      (read : (Image.Store.read lba d.block d.store).result = .error (.error error))
      (store : after.store = (Image.Store.read lba d.block d.store).store)
      (job : after.job = .idle) (unread : after.unread = []) (ticket : after.ticket = d.ticket)
      (finished : after.finished = d.ticket) :
      Prepared d ⟨.ok false, after, [readFailed lba error]⟩
  | faulted (none : d.unread = []) (lba : UInt64) (starts : d.job.sector? = .some lba) (after : Data β)
      (fault : Fault)
      (read : (Image.Store.read lba d.block d.store).result = .error (.fault fault))
      (store : after.store = (Image.Store.read lba d.block d.store).store)
      (job : after.job = d.job) (unread : after.unread = []) (ticket : after.ticket = d.ticket)
      (finished : after.finished = d.finished) :
      Prepared d ⟨.error fault, after, []⟩

theorem prepared_loadSector {sectors lba : UInt64} (none : d.unread = [])
    (starts : d.job.sector? = some lba) (inRange : d.job.InRange sectors) :
    Prepared d (d.loadSector lba) := by
  have empty := (unread_eq_nil_iff d).1 none
  have fits := d.size_le
  have still (block : Image.Sector) : ((block.toList.take d.size).drop d.position) = [] := by
    rw [List.drop_eq_nil_iff, List.length_take, Vector.length_toList]
    omega
  simp only [loadSector]
  split
  · rename_i fault read
    exact .faulted none lba starts _ fault read rfl rfl (still _) rfl rfl
  · rename_i error read
    exact .failed none lba starts _ error read rfl rfl (still _) rfl rfl
  · rename_i read
    simp only [remaining_eq starts (Job.lt_of_inRange starts inRange)]
    refine .sector none lba starts _ read ?_ rfl rfl rfl rfl
    simp only [unread, List.drop_zero]
    rw [List.take_of_length_le (by simp)]

theorem prepared_prepare {sectors : UInt64} (inRange : d.job.InRange sectors) :
    Prepared d d.prepare := by
  simp only [prepare]
  split
  · rename_i some
    exact .waiting some
  · rename_i none
    have none := (unread_eq_nil_iff d).2 (Nat.not_lt.1 none)
    simp only [load]
    split
    · rename_i job
      exact .spent none job
    · rename_i lba job
      exact prepared_loadSector none (by rw [job]; rfl) inRange
    · rename_i lba job
      exact prepared_loadSector none (by rw [job]; rfl) inRange
    · rename_i wideBus job
      have bytes := unread_stage (sdStatus wideBus) (by decide) d
      exact .short none (by rw [job]; rfl) _ rfl (fun _ => by rw [bytes, job]; rfl)
        (by rw [bytes]; simp) rfl rfl rfl
    · rename_i job
      have bytes := unread_stage scr (by decide) d
      exact .short none (by rw [job]; rfl) _ rfl (fun _ => by rw [bytes, job]; rfl)
        (by rw [bytes]; simp) rfl rfl rfl

/-- With a store that shows its contents, asking for a byte moves none: the answer tells whether
any is left, and then one is at hand. -/
theorem prepare_shown {contents : Image.Contents} (shown : contents.ShownBy d.store)
    (inRange : d.job.InRange contents.sectors) :
    ∃ after log, d.prepare = ⟨.ok (decide (d.rest contents ≠ [])), after, log⟩ ∧
      after.rest contents = d.rest contents ∧ (d.rest contents ≠ [] → after.unread ≠ []) ∧
      after.ticket = d.ticket ∧ contents.ShownBy after.store ∧
      after.job.InRange contents.sectors := by
  have prepared := prepared_prepare inRange
  generalize result : d.prepare = served at prepared
  cases prepared with
  | waiting some =>
    have front : d.unread ≠ [] := by
      rw [Ne, unread_eq_nil_iff]
      omega
    have left : d.rest contents ≠ [] := by simp [rest, front]
    exact ⟨d, [], by simp [left], rfl, fun _ => front, rfl, shown, inRange⟩
  | spent none job =>
    have left : d.rest contents = [] := by simp [rest, none, job, Job.bytes]
    exact ⟨d, [], by simp [left], rfl, fun some => absurd left some, rfl, shown, inRange⟩
  | short none starts after job bytes some ticket finished store =>
    have same : after.rest contents = d.rest contents := by
      simp [rest, none, bytes contents, job, Job.bytes]
    have left : d.rest contents ≠ [] := by
      rw [← same]
      simp [rest, some]
    exact ⟨after, [], by simp [left], same, fun _ => some, ticket, store ▸ shown,
      by rw [job]; trivial⟩
  | sector none lba starts after read bytes store job ticket finished =>
    obtain ⟨next, reads, still⟩ := shown.read (Job.lt_of_inRange starts inRange) d.block
    simp only [reads] at bytes store
    subst store
    rw [still.sectorCount] at job
    have front : after.unread ≠ [] := by simp [bytes]
    have same : after.rest contents = d.rest contents := by
      simp [rest, none, bytes, job, Job.bytes_of_sector starts inRange]
    have left : d.rest contents ≠ [] := by
      rw [← same]
      simp [rest, front]
    exact ⟨after, [Data.staged lba], by simp [left], same, fun _ => front, ticket, still,
      job ▸ Job.inRange_next starts _⟩
  | failed none lba starts after error read =>
    obtain ⟨next, reads, still⟩ := shown.read (Job.lt_of_inRange starts inRange) d.block
    simp [reads] at read
  | faulted none lba starts after fault read =>
    obtain ⟨next, reads, still⟩ := shown.read (Job.lt_of_inRange starts inRange) d.block
    simp [reads] at read

end Data
end SdBridge.Card
