import Mathlib.Tactic.Common
import SdBridge.Register.Layout

/-! Words as sets of bits: what is written to a write-one-to-clear register, and what it keeps. -/
namespace SdBridge

def bit (w : UInt32) (i : Nat) : Bool := w.toBitVec.getLsbD i

section

variable (a b : UInt32) (i : Nat)

@[simp] theorem bit_and : bit (a &&& b) i = (bit a i && bit b i) := by
  simp [bit]

@[simp] theorem bit_or : bit (a ||| b) i = (bit a i || bit b i) := by
  simp [bit]

@[simp] theorem bit_zero : bit 0 i = false := by
  simp [bit]

theorem bit_shiftRight : bit (a >>> b) i = bit a (b.toNat % 32 + i) := by
  simp [bit]

theorem bit_shiftLeft_of_lt {b : UInt32} {i : Nat} (low : i < b.toNat % 32) :
    bit (a <<< b) i = false := by
  simp only [bit, UInt32.toBitVec_shiftLeft, BitVec.shiftLeft_eq', BitVec.getLsbD_shiftLeft]
  simp
  omega

theorem bit_not (inside : i < 32) : bit (~~~a) i = !bit a i := by
  simp [bit, inside]

end

theorem eq_of_bits {a b : UInt32} (same : ∀ i < 32, bit a i = bit b i) : a = b :=
  UInt32.eq_of_toBitVec_eq (BitVec.eq_of_getLsbD_eq same)

theorem eq_zero_iff_bits {a : UInt32} : a = 0 ↔ ∀ i < 32, bit a i = false := by
  constructor
  · rintro rfl i -
    exact bit_zero i
  · intro clear
    exact eq_of_bits fun i inside => by rw [clear i inside, bit_zero]

/-- All bits of a word are set in another. -/
def BitsIn (a b : UInt32) : Prop := a &&& ~~~b = 0

theorem bitsIn_iff {a b : UInt32} : BitsIn a b ↔ ∀ i < 32, bit a i = true → bit b i = true := by
  rw [BitsIn, eq_zero_iff_bits]
  refine forall_congr' fun i => forall_congr' fun inside => ?_
  rw [bit_and, bit_not b i inside]
  cases bit a i <;> cases bit b i <;> simp

def IsFlag (flag : UInt32) (i : Nat) : Prop := i < 32 ∧ ∀ j < 32, bit flag j = decide (j = i)

theorem and_flag_ne_zero_iff {flag : UInt32} {i : Nat} (single : IsFlag flag i) (w : UInt32) :
    w &&& flag ≠ 0 ↔ bit w i = true := by
  obtain ⟨inside, bits⟩ := single
  rw [Ne, eq_zero_iff_bits]
  constructor
  · intro some
    by_contra clear
    refine some fun j below => ?_
    rw [bit_and, bits j below]
    by_cases same : j = i
    · simpa [same] using clear
    · simp [same]
  · intro set none
    have at_ := none i inside
    rw [bit_and, bits i inside, set] at at_
    simp at at_

theorem isFlag_newCommand : IsFlag Status.newCommand 0 := by
  refine ⟨by decide, ?_⟩
  decide

theorem isFlag_complete : IsFlag Status.complete 1 := by
  refine ⟨by decide, ?_⟩
  decide

theorem isFlag_send : IsFlag DataControl.send 1 := by
  refine ⟨by decide, ?_⟩
  decide

end SdBridge
