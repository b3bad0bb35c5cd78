import SdBridge.Proofs.Image.Contents
import SdBridge.Proofs.Image.Reliable

/-!
Stores that may fail to read a sector, at any time and for any reason, and may leave anything in the
buffer then. What can be read in a row ends at the first sector that fails.
-/
namespace SdBridge.Image

section Store

variable {β : Type} [Store β]

/-- A store that keeps its number of sectors and never faults on one of them. Nothing is said of
what a read gives, or of whether it works. -/
def Fallible (sectors : UInt64) (image : β) : Prop :=
  ∃ keeps : β → Prop, keeps image ∧ ∀ b, keeps b → Store.sectorCount b = sectors ∧
    ∀ lba < sectors, ∀ buffer : Sector,
      (∀ fault, (Store.read lba buffer b).result ≠ .error (.fault fault)) ∧
        keeps (Store.read lba buffer b).store

variable {sectors lba : UInt64} {image : β}

theorem Fallible.sectorCount (fallible : Fallible sectors image) :
    Store.sectorCount image = sectors := by
  obtain ⟨_, holds, closed⟩ := fallible
  exact (closed image holds).1

theorem Fallible.read (fallible : Fallible sectors image) (inside : lba < sectors)
    (buffer : Sector) : Fallible sectors (Store.read lba buffer image).store := by
  obtain ⟨keeps, holds, closed⟩ := fallible
  exact ⟨keeps, ((closed image holds).2 lba inside buffer).2, closed⟩

theorem Fallible.answers (fallible : Fallible sectors image) (inside : lba < sectors)
    (buffer : Sector) (fault : Fault) :
    (Store.read lba buffer image).result ≠ .error (.fault fault) := by
  obtain ⟨_, holds, closed⟩ := fallible
  exact ((closed image holds).2 lba inside buffer).1 fault

/-- The sectors from one on that can be read in a row, at most so many of them. All reads share one
buffer. -/
def readable : (count : Nat) → (first : UInt64) → (buffer : Sector) → β → List Sector
  | 0, _, _, _ => []
  | more + 1, first, buffer, b =>
    let read := Store.read first buffer b
    match read.result with
    | .ok () => read.buffer :: readable more (first + 1) read.buffer read.store
    | .error _ => []

theorem readable_of_ok {more : Nat} {buffer : Sector} {b : β}
    (ok : (Store.read lba buffer b).result = .ok ()) :
    readable (more + 1) lba buffer b = (Store.read lba buffer b).buffer ::
      readable more (lba + 1) (Store.read lba buffer b).buffer (Store.read lba buffer b).store := by
  simp only [readable, ok]

theorem readable_of_error {count : Nat} {buffer : Sector} {b : β} {failure : Failure Error}
    (failed : (Store.read lba buffer b).result = .error failure) :
    readable count lba buffer b = [] := by
  cases count with
  | zero => rfl
  | succ more => simp only [readable, failed]

end Store

section Shown

variable {β : Type} [Store β] {contents : Contents} {image : β}

/-- A store that shows its contents does not fail. -/
theorem Contents.ShownBy.fallible (shown : contents.ShownBy image) :
    Fallible contents.sectors image := by
  obtain ⟨shows, holds, closed⟩ := shown
  refine ⟨shows, holds, fun b keeps => ⟨(closed b keeps).1, fun lba inside buffer => ?_⟩⟩
  obtain ⟨after, read, still⟩ := (closed b keeps).2 lba inside buffer
  rw [read]
  exact ⟨nofun, still⟩

theorem Contents.ShownBy.readable_eq (shown : contents.ShownBy image) {count : Nat} {first : UInt64}
    (inside : first.toNat + count ≤ contents.sectors.toNat) (buffer : Sector) :
    readable count first buffer image =
      (List.range' first.toNat count).map fun lba => contents.sector lba.toUInt64 := by
  induction count generalizing first buffer image with
  | zero => rfl
  | succ more ih =>
    have limit := contents.sectors.toNat_lt
    have here : first < contents.sectors := UInt64.lt_iff_toNat_lt.2 (by omega)
    obtain ⟨after, read, still⟩ := shown.read here buffer
    have next : (first + 1).toNat = first.toNat + 1 ∨ more = 0 := by
      rw [UInt64.toNat_add, UInt64.toNat_one]
      omega
    rw [readable_of_ok (by rw [read]), read, List.range'_succ, List.map_cons]
    congr 1
    · exact congrArg contents.sector UInt64.ofNat_toNat.symm
    · rcases next with next | rfl
      · rw [ih still (by omega), next]
      · rfl

/-- All sectors from one on can be read in a row. -/
theorem Contents.ShownBy.flatMap_readable (shown : contents.ShownBy image) {first : UInt64}
    (inside : first < contents.sectors) (buffer : Sector) :
    (readable (contents.sectors.toNat - first.toNat) first buffer image).flatMap Vector.toList =
      contents.onwards first := by
  have bound := UInt64.lt_iff_toNat_lt.1 inside
  rw [shown.readable_eq (by omega), List.flatMap_map]
  rfl

end Shown

theorem length_flatMap_toList (sectors : List Sector) :
    (sectors.flatMap Vector.toList).length = sectorSize * sectors.length := by
  simp [List.length_flatMap, List.map_const', Nat.mul_comm]

/-- A file may have become shorter since it was opened. -/
theorem fallible_file {f : File} (counted : f.sectors.toNat * sectorSize < UInt64.size) :
    Fallible f.sectors f := by
  refine ⟨(· = f), rfl, ?_⟩
  rintro b rfl
  refine ⟨rfl, fun lba inside buffer => ?_⟩
  obtain ⟨start, ok, -⟩ := sectorStart_eq_ok counted inside
  simp only [Store.read, ok]
  split <;> exact ⟨by simp, rfl⟩

end SdBridge.Image
