import Mathlib.Tactic.Common
import SdBridge.Image.File
import SdBridge.Image.Made
import SdBridge.Image.Memory

/-!
Two promises that a store of sectors can make: that reading does not change how many sectors there
are, and that every existing sector can be read and always has the same bytes.
-/
namespace SdBridge.Image

/-- Reading leaves the number of sectors alone. The result of a read may be anything. -/
class LawfulStore (β : Type) [Store β] : Prop where
  sectorCount_read : ∀ (lba : UInt64) (buffer : Sector) (b : β),
    Store.sectorCount (Store.read lba buffer b).store = Store.sectorCount b

instance : LawfulStore Memory where
  sectorCount_read lba buffer m := by
    simp only [Store.read]
    split <;> rfl

instance : LawfulStore File where
  sectorCount_read lba buffer f := by
    simp only [Store.read]
    split
    · rfl
    · split <;> rfl

instance : LawfulStore Made where
  sectorCount_read lba buffer m := by
    simp only [Store.read]
    split <;> rfl

instance {β γ : Type} [Store β] [Store γ] [LawfulStore β] [LawfulStore γ] :
    LawfulStore (β ⊕ γ) where
  sectorCount_read lba buffer b := by
    cases b with
    | inl b => exact LawfulStore.sectorCount_read lba buffer b
    | inr c => exact LawfulStore.sectorCount_read lba buffer c

structure Contents where
  sectors : UInt64
  sector : UInt64 → Sector

namespace Contents

variable {β : Type} [Store β]

def onwards (c : Contents) (first : UInt64) : List UInt8 :=
  (List.range' first.toNat (c.sectors.toNat - first.toNat)).flatMap fun lba =>
    (c.sector lba.toUInt64).toList

/-- A read of a sector succeeds, gives its bytes and leaves a store that shows the same. Nothing is
said of other reads. -/
def ShownBy (c : Contents) (image : β) : Prop :=
  ∃ shows : β → Prop, shows image ∧ ∀ b, shows b → Store.sectorCount b = c.sectors ∧
    ∀ lba < c.sectors, ∀ buffer : Sector,
      ∃ after, Store.read lba buffer b = ⟨.ok (), c.sector lba, after⟩ ∧ shows after

theorem ShownBy.sectorCount {c : Contents} {image : β} (shown : c.ShownBy image) :
    Store.sectorCount image = c.sectors := by
  obtain ⟨_, holds, closed⟩ := shown
  exact (closed image holds).1

theorem ShownBy.read {c : Contents} {image : β} (shown : c.ShownBy image) {lba : UInt64}
    (inside : lba < c.sectors) (buffer : Sector) :
    ∃ after, Store.read lba buffer image = ⟨.ok (), c.sector lba, after⟩ ∧ c.ShownBy after := by
  obtain ⟨shows, holds, closed⟩ := shown
  obtain ⟨after, read, still⟩ := (closed image holds).2 lba inside buffer
  exact ⟨after, read, shows, still, closed⟩

/-- An image made on demand shows what it makes, if none of its sectors is broken. -/
theorem shownBy_made (c : Contents) : c.ShownBy (⟨c.sectors, c.sector, []⟩ : Made) := by
  refine ⟨(· = ⟨c.sectors, c.sector, []⟩), rfl, ?_⟩
  rintro b rfl
  refine ⟨rfl, fun lba inside buffer => ⟨⟨c.sectors, c.sector, []⟩, ?_, rfl⟩⟩
  simp [Store.read, UInt64.not_le.2 inside]

/-- One sector and then the rest. -/
theorem onwards_of_lt {c : Contents} {first : UInt64} (inside : first < c.sectors) :
    c.onwards first = (c.sector first).toList ++
      if first + 1 < c.sectors then c.onwards (first + 1) else [] := by
  have bound := UInt64.lt_iff_toNat_lt.1 inside
  have limit := c.sectors.toNat_lt
  have next : (first + 1).toNat = first.toNat + 1 := by
    rw [UInt64.toNat_add]
    simp only [UInt64.toNat_one]
    omega
  obtain ⟨more, count⟩ : ∃ more, c.sectors.toNat - first.toNat = more + 1 :=
    ⟨c.sectors.toNat - first.toNat - 1, by omega⟩
  have rest : c.sectors.toNat - (first.toNat + 1) = more := by omega
  have here : first.toNat.toUInt64 = first := UInt64.ofNat_toNat
  simp only [onwards, count, List.range'_succ, List.flatMap_cons, here, next, rest]
  split
  · rfl
  · rename_i last
    have none : more = 0 := by
      have := mt UInt64.lt_iff_toNat_lt.2 last
      omega
    simp [none]

theorem length_onwards (c : Contents) (first : UInt64) :
    (c.onwards first).length = sectorSize * (c.sectors.toNat - first.toNat) := by
  simp [onwards, List.length_flatMap, List.map_const', Nat.mul_comm]

/-- The sectors that follow come one by one. -/
theorem take_drop_onwards {c : Contents} {first : UInt64} {k : Nat}
    (inside : first.toNat + k < c.sectors.toNat) :
    ((c.onwards first).drop (sectorSize * k)).take sectorSize =
      (c.sector (first + k.toUInt64)).toList := by
  have limit := c.sectors.toNat_lt
  induction k generalizing first with
  | zero =>
    have here : first < c.sectors := UInt64.lt_iff_toNat_lt.2 inside
    rw [onwards_of_lt here, Nat.mul_zero, List.drop_zero,
      List.take_left' (Vector.length_toList ..)]
    exact congrArg (fun lba => (c.sector lba).toList) (UInt64.add_zero first).symm
  | succ k ih =>
    have here : first < c.sectors := UInt64.lt_iff_toNat_lt.2 (by omega)
    have next : (first + 1).toNat = first.toNat + 1 := by
      rw [UInt64.toNat_add, UInt64.toNat_one]
      omega
    have more : first + 1 < c.sectors := UInt64.lt_iff_toNat_lt.2 (by omega)
    have skip : sectorSize * (k + 1) = (c.sector first).toList.length + sectorSize * k := by
      rw [Vector.length_toList, Nat.mul_succ, Nat.add_comm]
    have place : first + (k + 1).toUInt64 = first + 1 + k.toUInt64 := by
      apply UInt64.toNat_inj.1
      simp only [UInt64.toNat_add, Nat.toUInt64_eq, UInt64.toNat_ofNat', UInt64.toNat_one]
      omega
    rw [onwards_of_lt here, if_pos more, skip, List.drop_length_add_append, place]
    exact ih (by omega)

end Contents
end SdBridge.Image
