import Mathlib.Tactic.Common
import SdBridge.Image.File
import SdBridge.Image.Memory

/-!
Images of less than 2^64 bytes. The first byte of every sector can be counted by a word, so that no
read faults, whatever is asked for. A file may still be shorter than it was when it was opened; then
a read fails, which is no fault.
-/
namespace SdBridge.Image

/-- The bytes can be counted by a word, and a read neither changes the store nor faults. -/
structure Reliable {β : Type} [Store β] (b : β) : Prop where
  counted : (Store.sectorCount b).toNat * sectorSize < UInt64.size
  still : ∀ lba buffer, (Store.read lba buffer b).store = b
  answers : ∀ lba buffer fault, (Store.read lba buffer b).result ≠ .error (.fault fault)

inductive Accepted : Memory ⊕ File → Prop where
  | memory {bytes : Bytes} {m : Memory} (small : bytes.size < UInt64.size)
      (made : Memory.ofBytes bytes = .ok m) : Accepted (.inl m)
  | file {file : OpenFile} {writable : Bool} {f : File} (small : file.bytes.size < UInt64.size)
      (made : File.ofFile file writable = .ok f) : Accepted (.inr f)

section

variable {lba sectors size : UInt64} {error : Failure Error}

/-- A whole number of sectors. -/
theorem toNat_sectorsOfSize (whole : sectorsOfSize size = .ok sectors) :
    sectors.toNat * sectorSize = size.toNat := by
  simp only [sectorsOfSize] at whole
  split at whole
  · contradiction
  · split at whole
    · contradiction
    · rename_i aligned
      cases whole
      have aligned := congrArg UInt64.toNat (not_not.1 aligned)
      have unit : (sectorSize.toUInt64).toNat = 512 := rfl
      rw [UInt64.toNat_mod, unit, UInt64.toNat_zero] at aligned
      rw [UInt64.toNat_div, unit]
      exact Nat.div_mul_cancel (Nat.dvd_of_mod_eq_zero aligned)

/-- The first byte of a sector can be counted wherever the last byte of all can. -/
theorem sectorStart_eq_ok (counted : sectors.toNat * sectorSize < UInt64.size)
    (inside : lba < sectors) : ∃ start : UInt64, sectorStart lba sectors = .ok start ∧
      start.toNat = lba.toNat * sectorSize := by
  have below := UInt64.lt_iff_toNat_lt.1 inside
  have unit : (sectorSize.toUInt64).toNat = sectorSize := rfl
  have room : lba.toNat * (sectorSize.toUInt64).toNat < UInt64.size := by
    rw [unit]
    exact Nat.lt_of_le_of_lt (Nat.mul_le_mul_right _ (Nat.le_of_lt below)) counted
  refine ⟨lba * sectorSize.toUInt64, ?_, ?_⟩
  · rw [sectorStart, if_neg (UInt64.not_le.2 inside), checkedMul_eq_ok room]
    rfl
  · rw [UInt64.toNat_mul, unit]
    rw [unit] at room
    exact Nat.mod_eq_of_lt room

theorem sectorStart_outside (outside : ¬lba < sectors) :
    sectorStart lba sectors = .error (.error (.outOfRange lba sectors)) :=
  if_pos (UInt64.not_lt.1 outside)

theorem sectorStart_answers (counted : sectors.toNat * sectorSize < UInt64.size) (fault : Fault) :
    sectorStart lba sectors ≠ .error (.fault fault) := by
  by_cases inside : lba < sectors
  · obtain ⟨start, ok, -⟩ := sectorStart_eq_ok counted inside
    simp [ok]
  · simp [sectorStart_outside inside]

end

/-- The bytes of an accepted image are those of its sectors. -/
theorem sectors_of_accepted {bytes : Nat} (small : bytes < UInt64.size) {sectors : UInt64}
    (whole : sectorsOfSize bytes.toUInt64 = .ok sectors) : sectors.toNat * sectorSize = bytes := by
  rw [toNat_sectorsOfSize whole]
  exact UInt64.toNat_ofNat_of_lt small

namespace Memory

variable {m : Memory} {lba sectors : UInt64}

theorem sectorCount_of_size (size : m.bytes.size = sectors.toNat * sectorSize) :
    m.sectorCount = sectors := by
  rw [sectorCount, size, Nat.mul_div_cancel _ (by decide)]
  exact UInt64.ofNat_toNat

/-- A sector that is in range lies inside the bytes. -/
theorem start_inside (small : m.bytes.size < UInt64.size)
    (size : m.bytes.size = sectors.toNat * sectorSize) (inside : lba < sectors) :
    m.start lba = .ok (lba.toNat * sectorSize) := by
  obtain ⟨start, ok, place⟩ := sectorStart_eq_ok (size ▸ small) inside
  have below := UInt64.lt_iff_toNat_lt.1 inside
  have room : lba.toNat * sectorSize + sectorSize ≤ m.bytes.size := by
    rw [size, ← Nat.succ_mul]
    exact Nat.mul_le_mul_right _ below
  simp [Memory.start, sectorCount_of_size size, ok, place, room, bind, Except.bind]

theorem start_outside (size : m.bytes.size = sectors.toNat * sectorSize)
    (outside : ¬lba < sectors) : m.start lba = .error (.error (.outOfRange lba sectors)) := by
  rw [Memory.start, sectorCount_of_size size, sectorStart_outside outside]
  rfl

theorem start_answers (small : m.bytes.size < UInt64.size)
    (size : m.bytes.size = sectors.toNat * sectorSize) (lba : UInt64) (fault : Fault) :
    m.start lba ≠ .error (.fault fault) := by
  by_cases inside : lba < sectors
  · simp [start_inside small size inside]
  · simp [start_outside size inside]

end Memory

theorem reliable_memory {bytes : Bytes} {m : Memory} (small : bytes.size < UInt64.size)
    (made : Memory.ofBytes bytes = .ok m) : Reliable m := by
  cases whole : sectorsOfSize bytes.size.toUInt64 with
  | error e => simp [Memory.ofBytes, whole, Except.map] at made
  | ok sectors =>
    simp only [Memory.ofBytes, whole, Except.map, Except.ok.injEq] at made
    subst made
    have size := sectors_of_accepted small whole
    have count : Store.sectorCount (Memory.mk bytes) = sectors :=
      Memory.sectorCount_of_size size.symm
    refine ⟨?_, fun lba buffer => ?_, fun lba buffer fault => ?_⟩
    · rw [count, size]
      exact small
    · simp only [Store.read]
      split <;> rfl
    · simp only [Store.read]
      split
      · simp
      · rename_i failure missed
        simp only [ne_eq, Except.error.injEq]
        rintro rfl
        exact Memory.start_answers small size.symm lba fault missed

theorem reliable_file {file : OpenFile} {writable : Bool} {f : File}
    (small : file.bytes.size < UInt64.size) (made : File.ofFile file writable = .ok f) :
    Reliable f := by
  cases whole : sectorsOfSize file.bytes.size.toUInt64 with
  | error e => simp [File.ofFile, whole, Except.map] at made
  | ok sectors =>
    simp only [File.ofFile, whole, Except.map, Except.ok.injEq] at made
    subst made
    have size := sectors_of_accepted small whole
    have counted : sectors.toNat * sectorSize < UInt64.size := by
      rw [size]
      exact small
    refine ⟨counted, fun lba buffer => ?_, fun lba buffer fault => ?_⟩
    · simp only [Store.read]
      split
      · rfl
      · split <;> rfl
    · simp only [Store.read]
      split
      · rename_i failure missed
        simp only [ne_eq, Except.error.injEq]
        rintro rfl
        exact sectorStart_answers counted fault missed
      · split <;> simp

theorem Accepted.reliable {image : Memory ⊕ File} (accepted : Accepted image) : Reliable image := by
  cases accepted with
  | memory small made =>
    obtain ⟨counted, still, answers⟩ := reliable_memory small made
    exact ⟨counted, fun lba buffer => congrArg Sum.inl (still lba buffer), answers⟩
  | file small made =>
    obtain ⟨counted, still, answers⟩ := reliable_file small made
    exact ⟨counted, fun lba buffer => congrArg Sum.inr (still lba buffer), answers⟩

end SdBridge.Image
