import Mathlib.Algebra.CharP.Two
import Mathlib.Algebra.Field.ZMod
import Mathlib.Algebra.Polynomial.Div
import Mathlib.Tactic.LinearCombination
import SdBridge.Proofs.Crc.Serial

/-!
Long division of polynomials over the field of two elements. A shift register with feedback carries
it out: what it holds after a message is what the message leaves when it is multiplied by the
leading term of the generator and divided by the generator.
-/
namespace SdBridge.Crc

open Polynomial

def coefficient (bit : Bool) : ZMod 2 := if bit then 1 else 0

theorem coefficient_xor (a b : Bool) : coefficient (a ^^ b) = coefficient a + coefficient b := by
  cases a <;> cases b <;> decide

/-- The polynomial that has these coefficients, the leading one first. -/
noncomputable def polynomial : List Bool → (ZMod 2)[X]
  | [] => 0
  | bit :: bits => C (coefficient bit) * X ^ bits.length + polynomial bits

theorem coeff_polynomial (bits : List Bool) (i : Nat) :
    (polynomial bits).coeff i = coefficient (bits.reverse.getD i false) := by
  induction bits with
  | nil => rfl
  | cons bit bits ih =>
    rw [polynomial, coeff_add, ih, coeff_C_mul_X_pow, List.reverse_cons]
    by_cases leading : i = bits.length
    · simp [leading, coefficient]
    · rw [if_neg leading, zero_add]
      by_cases inside : i < bits.length
      · rw [List.getD_append _ _ _ _ (by simpa using inside)]
      · rw [List.getD_eq_default _ _ (by simp; omega), List.getD_eq_default _ _ (by simp; omega)]

section Words

variable {n : Nat}

noncomputable def ofWord (word : BitVec n) : (ZMod 2)[X] := polynomial (msbFirst word)

theorem coeff_ofWord (word : BitVec n) (i : Nat) :
    (ofWord word).coeff i = coefficient (word.getLsbD i) := by
  rw [ofWord, coeff_polynomial]
  by_cases inside : i < n
  · rw [List.getD_eq_getElem?_getD, List.getElem?_reverse (by simpa using inside),
      length_msbFirst, getElem?_msbFirst _ (by omega), Option.getD_some,
      BitVec.getLsbD_eq_getMsbD]
    have place : n - 1 - i = n - (i + 1) := by omega
    simp [inside, place]
  · rw [List.getD_eq_default _ _ (by simpa using inside), BitVec.getLsbD_of_ge _ _ (by omega)]

theorem degree_ofWord_lt (word : BitVec n) : (ofWord word).degree < n := by
  rw [degree_lt_iff_coeff_zero]
  intro i past
  rw [coeff_ofWord, BitVec.getLsbD_of_ge _ _ past]
  rfl

@[simp] theorem ofWord_zero : ofWord (0#n) = 0 := by
  ext i
  simp [coeff_ofWord, coefficient]

theorem ofWord_xor (a b : BitVec n) : ofWord (a ^^^ b) = ofWord a + ofWord b := by
  ext i
  rw [coeff_add, coeff_ofWord, coeff_ofWord, coeff_ofWord, BitVec.getLsbD_xor, coefficient_xor]

/-- A word that moves up loses its leading term. -/
theorem ofWord_shiftLeft_one (word : BitVec n) :
    ofWord (word <<< 1) + C (coefficient word.msb) * X ^ n = ofWord word * X := by
  ext i
  rw [coeff_add, coeff_ofWord, coeff_C_mul_X_pow, BitVec.getLsbD_shiftLeft]
  cases i with
  | zero =>
    cases n with
    | zero => simp [coefficient, BitVec.msb_eq_getMsbD_zero]
    | succ n => simp [coefficient]
  | succ i =>
    rw [coeff_mul_X, coeff_ofWord]
    by_cases leading : i + 1 = n
    · subst leading
      simp [BitVec.msb_eq_getLsbD_last, coefficient]
    · rw [if_neg leading, add_zero]
      by_cases inside : i + 1 < n
      · simp [inside]
      · rw [BitVec.getLsbD_of_ge _ _ (by omega : n ≤ i)]
        simp [inside]

/-- A generator, with the leading term that its word does not show. -/
noncomputable def divisor (generator : BitVec n) : (ZMod 2)[X] := X ^ n + ofWord generator

theorem monic_divisor (generator : BitVec n) : (divisor generator).Monic :=
  monic_X_pow_add (degree_ofWord_lt generator)

theorem degree_divisor (generator : BitVec n) : (divisor generator).degree = n := by
  have less := degree_ofWord_lt generator
  rw [← degree_X_pow (R := ZMod 2) n] at less
  rw [divisor, degree_add_eq_left_of_degree_lt less, degree_X_pow]

/-- One step of the division: the next bit is taken down to the remainder, and the divisor is taken
off if there is a leading term. -/
theorem ofWord_takeBit (generator remainder : BitVec n) (bit : Bool) :
    ofWord (takeBit generator remainder bit) =
      ofWord remainder * X + C (coefficient bit) * X ^ n +
        C (coefficient (remainder.msb ^^ bit)) * divisor generator := by
  have fed : ofWord (bif remainder.msb ^^ bit then generator else 0#n) =
      C (coefficient (remainder.msb ^^ bit)) * ofWord generator := by
    cases remainder.msb ^^ bit <;> simp [coefficient]
  rw [takeBit, ofWord_xor, fed, ← ofWord_shiftLeft_one, divisor, coefficient_xor, C_add]
  have twice := CharTwo.add_self_eq_zero ((C (coefficient remainder.msb) +
    C (coefficient bit) : (ZMod 2)[X]) * X ^ n)
  linear_combination -twice

/-- What a register holds after a message differs from what was put in by a multiple of the
divisor. -/
theorem divisor_dvd_takeBits (generator remainder : BitVec n) (bits : List Bool) :
    divisor generator ∣ ofWord remainder * X ^ bits.length + polynomial bits * X ^ n -
      ofWord (takeBits generator remainder bits) := by
  induction bits generalizing remainder with
  | nil => simp [takeBits, polynomial]
  | cons bit bits ih =>
    obtain ⟨quotient, rest⟩ := ih (takeBit generator remainder bit)
    refine ⟨quotient - C (coefficient (remainder.msb ^^ bit)) * X ^ bits.length, ?_⟩
    change _ - ofWord (takeBits generator (takeBit generator remainder bit) bits) = _
    rw [ofWord_takeBit] at rest
    rw [polynomial, List.length_cons]
    linear_combination rest

/-- A cleared register holds the remainder of a division after a message. -/
theorem ofWord_takeBits (generator : BitVec n) (bits : List Bool) :
    ofWord (takeBits generator 0#n bits) = polynomial bits * X ^ n %ₘ divisor generator := by
  have multiple := divisor_dvd_takeBits generator 0#n bits
  rw [ofWord_zero, zero_mul, zero_add] at multiple
  rw [modByMonic_eq_of_dvd_sub (monic_divisor generator) multiple, eq_comm,
    modByMonic_eq_self_iff (monic_divisor generator), degree_divisor]
  exact degree_ofWord_lt _

end Words
end SdBridge.Crc
