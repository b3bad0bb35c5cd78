import Mathlib.Data.Nat.Bitwise
import SdBridge.Crc

/-!
Remainders of any width that take in a message bit by bit, as a shift register with feedback does.
The feedback is linear, and a generator with a constant term loses nothing: a remainder can only be
cleared by its own bits. So a difference that is no longer than the remainder never cancels.
-/
namespace SdBridge.Crc

def msbFirst {n : Nat} (word : BitVec n) : List Bool := (List.range n).map word.getMsbD

def bits (bytes : List UInt8) : List Bool := bytes.flatMap fun byte => msbFirst byte.toBitVec

section Bits

variable {n : Nat}

@[simp] theorem length_msbFirst (word : BitVec n) : (msbFirst word).length = n := by
  simp [msbFirst]

theorem getElem?_msbFirst (word : BitVec n) {i : Nat} (inside : i < n) :
    (msbFirst word)[i]? = some (word.getMsbD i) := by
  simp [msbFirst, inside]

theorem getD_msbFirst (word : BitVec n) (i : Nat) :
    (msbFirst word).getD i false = word.getMsbD i := by
  rw [List.getD_eq_getElem?_getD]
  by_cases inside : i < n
  · rw [getElem?_msbFirst word inside, Option.getD_some]
  · rw [List.getElem?_eq_none (by simpa using inside), BitVec.getMsbD_of_ge _ _ (by omega)]
    rfl

theorem eq_msbFirst_iff {bits : List Bool} (length : bits.length = n) (word : BitVec n) :
    bits = msbFirst word ↔ ∀ i, word.getMsbD i = bits.getD i false := by
  constructor
  · rintro rfl i
    exact (getD_msbFirst word i).symm
  · intro same
    apply List.ext_getElem? fun i => ?_
    by_cases inside : i < n
    · rw [getElem?_msbFirst word inside, same i, List.getD_eq_getElem?_getD,
        List.getElem?_eq_getElem (length ▸ inside)]
      rfl
    · rw [List.getElem?_eq_none (by omega), List.getElem?_eq_none (by simpa using inside)]

theorem msbFirst_injective : Function.Injective (msbFirst (n := n)) := by
  intro a b same
  apply BitVec.eq_of_getMsbD_eq
  intro i _
  rw [← getD_msbFirst a, same, getD_msbFirst]

theorem bits_cons (byte : UInt8) (bytes : List UInt8) :
    bits (byte :: bytes) = msbFirst byte.toBitVec ++ bits bytes :=
  List.flatMap_cons

@[simp] theorem length_bits (bytes : List UInt8) : (bits bytes).length = 8 * bytes.length := by
  simp [bits, List.length_flatMap, List.map_const', Nat.mul_comm]

theorem getElem?_bits (bytes : List UInt8) (i : Nat) :
    (bits bytes)[i]? = bytes[i / 8]?.map fun byte => byte.toBitVec.getMsbD (i % 8) := by
  induction bytes generalizing i with
  | nil => simp [bits]
  | cons byte bytes ih =>
    rw [bits_cons]
    by_cases here : i < 8
    · rw [List.getElem?_append_left (by simpa using here), getElem?_msbFirst _ here,
        Nat.div_eq_of_lt here, Nat.mod_eq_of_lt here]
      rfl
    · obtain ⟨past, rfl⟩ := Nat.exists_eq_add_of_le (Nat.not_lt.1 here)
      rw [List.getElem?_append_right (by simp), length_msbFirst, Nat.add_sub_cancel_left, ih,
        Nat.add_mod_left, Nat.add_div_left past (by decide)]
      rfl

theorem bits_injective : Function.Injective bits := by
  intro a b same
  induction a generalizing b with
  | nil =>
    cases b with
    | nil => rfl
    | cons => simpa using congrArg List.length same
  | cons byte a ih =>
    cases b with
    | nil => simpa using congrArg List.length same
    | cons other b =>
      rw [bits_cons, bits_cons] at same
      obtain ⟨first, rest⟩ := List.append_inj same (by simp)
      rw [UInt8.toBitVec_inj.1 (msbFirst_injective first), ih rest]

end Bits

section Register

variable {n : Nat} {generator : BitVec n}

def takeBit (generator remainder : BitVec n) (bit : Bool) : BitVec n :=
  (remainder <<< 1) ^^^ bif remainder.msb ^^ bit then generator else 0#n

def takeBits (generator remainder : BitVec n) (bits : List Bool) : BitVec n :=
  bits.foldl (takeBit generator) remainder

theorem takeBits_append (r : BitVec n) (bits more : List Bool) :
    takeBits generator r (bits ++ more) = takeBits generator (takeBits generator r bits) more :=
  List.foldl_append

theorem takeBit_xor (r s : BitVec n) (a b : Bool) :
    takeBit generator (r ^^^ s) (a ^^ b) = takeBit generator r a ^^^ takeBit generator s b := by
  have top : ((r ^^^ s).msb ^^ (a ^^ b)) = ((r.msb ^^ a) ^^ (s.msb ^^ b)) := by
    rw [BitVec.msb_xor, Bool.xor_assoc, Bool.xor_assoc, Bool.xor_left_comm s.msb]
  have split (c d : Bool) : (bif c ^^ d then generator else 0#n) =
      (bif c then generator else 0#n) ^^^ bif d then generator else 0#n := by
    cases c <;> cases d <;> simp
  rw [takeBit, top, split, BitVec.shiftLeft_xor_distrib, takeBit, takeBit]
  ac_rfl

theorem takeBits_xor (r s : BitVec n) {as bs : List Bool} (same : as.length = bs.length) :
    takeBits generator (r ^^^ s) (List.zipWith xor as bs) =
      takeBits generator r as ^^^ takeBits generator s bs := by
  induction as generalizing r s bs with
  | nil =>
    cases bs with
    | nil => rfl
    | cons => simp at same
  | cons a as ih =>
    cases bs with
    | nil => simp at same
    | cons b bs =>
      simp only [takeBits, List.zipWith_cons_cons, List.foldl_cons, takeBit_xor] at ih ⊢
      exact ih _ _ (by simpa using same)

/-- A remainder that takes in its own first bit only moves up. -/
theorem takeBit_msb (r : BitVec n) : takeBit generator r r.msb = r <<< 1 := by
  rw [takeBit, Bool.xor_self, cond_false, BitVec.xor_zero]

/-- The constant term of the generator shows whether there was feedback. -/
theorem getLsbD_takeBit (constant : generator.getLsbD 0 = true) (r : BitVec n) (bit : Bool) :
    (takeBit generator r bit).getLsbD 0 = (r.msb ^^ bit) := by
  cases fed : r.msb ^^ bit <;> simp [takeBit, fed, constant]

/-- Bits clear a remainder if it starts with them and is clear behind them. -/
theorem takeBits_eq_zero_iff (constant : generator.getLsbD 0 = true) {r : BitVec n}
    {bits : List Bool} (few : bits.length ≤ n) :
    takeBits generator r bits = 0#n ↔ ∀ i, r.getMsbD i = bits.getD i false := by
  induction bits generalizing r with
  | nil =>
    simp only [takeBits, List.foldl_nil, List.getD_nil]
    constructor
    · rintro rfl i
      exact BitVec.getMsbD_zero
    · intro clear
      apply BitVec.eq_of_getMsbD_eq
      intro i _
      rw [clear i, BitVec.getMsbD_zero]
  | cons bit bits ih =>
    have few : bits.length < n := few
    change takeBits generator (takeBit generator r bit) bits = 0#n ↔ _
    rw [ih (Nat.le_of_lt few)]
    constructor
    · intro same
      -- The last bit is past those to come, so it is clear and there was no feedback.
      have last : (takeBit generator r bit).getMsbD (n - 1) = (r.msb ^^ bit) := by
        rw [← getLsbD_takeBit constant, BitVec.getMsbD_eq_getLsbD]
        simp
        omega
      have first : r.msb = bit := by
        have fed := same (n - 1)
        rw [last, List.getD_eq_getElem?_getD, List.getElem?_eq_none (by omega)] at fed
        simpa using fed
      rw [← first, takeBit_msb] at same
      intro i
      cases i with
      | zero => exact (BitVec.msb_eq_getMsbD_zero r).symm.trans first
      | succ i => rw [List.getD_cons_succ, ← same i, BitVec.getMsbD_shiftLeft]
    · intro same i
      have first : r.msb = bit := (BitVec.msb_eq_getMsbD_zero r).trans (same 0)
      rw [← first, takeBit_msb, BitVec.getMsbD_shiftLeft]
      exact same (i + 1)

/-- A remainder is cleared by its own bits, and by no others of that number. -/
theorem takeBits_eq_zero_iff_eq_msbFirst (constant : generator.getLsbD 0 = true) {r : BitVec n}
    {bits : List Bool} (length : bits.length = n) :
    takeBits generator r bits = 0#n ↔ bits = msbFirst r :=
  (takeBits_eq_zero_iff constant (Nat.le_of_eq length)).trans (eq_msbFirst_iff length r).symm

/-- Bits that follow tell remainders apart as before. -/
theorem takeBits_left_injective (constant : generator.getLsbD 0 = true) {r s : BitVec n}
    {bits : List Bool} (equal : takeBits generator r bits = takeBits generator s bits) :
    r = s := by
  have wide : [false].length ≤ n := BitVec.lt_of_getLsbD constant
  induction bits generalizing r s with
  | nil => exact equal
  | cons bit bits ih =>
    have equal : takeBit generator r bit = takeBit generator s bit := ih equal
    have cleared : takeBits generator (r ^^^ s) [false] = 0#n := by
      change takeBit generator (r ^^^ s) false = 0#n
      rw [← Bool.xor_self bit, takeBit_xor, equal, BitVec.xor_self]
    have clear := (takeBits_eq_zero_iff constant wide).1 cleared
    apply BitVec.xor_eq_zero_iff.1
    apply BitVec.eq_of_getMsbD_eq
    intro i _
    rw [clear i, BitVec.getMsbD_zero]
    cases i <;> rfl

/-- A remainder tells messages apart that are no longer than it. -/
theorem takeBits_right_injective (constant : generator.getLsbD 0 = true) {r : BitVec n}
    {as bs : List Bool} (same : as.length = bs.length) (few : as.length ≤ n)
    (equal : takeBits generator r as = takeBits generator r bs) : as = bs := by
  have cleared : takeBits generator (0#n) (List.zipWith xor as bs) = 0#n := by
    rw [← BitVec.xor_self (x := r), takeBits_xor r r same, equal, BitVec.xor_self, BitVec.xor_self]
  have clear := (takeBits_eq_zero_iff constant (by rw [List.length_zipWith]; omega)).1 cleared
  apply List.ext_getElem same
  intro i inA inB
  have apart := clear i
  rw [BitVec.getMsbD_zero, List.getD_eq_getElem?_getD,
    List.getElem?_eq_getElem (by rw [List.length_zipWith]; omega), List.getElem_zipWith] at apart
  simpa using apart.symm

/-- Messages that differ in one place, and there in no more bits than the remainder has. -/
theorem takeBits_ne_of_burst (constant : generator.getLsbD 0 = true) (r : BitVec n)
    {as bs : List Bool} (same : as.length = bs.length) (differ : as ≠ bs) {first : Nat}
    (within : ∀ i, as[i]? ≠ bs[i]? → first ≤ i ∧ i < first + n) :
    takeBits generator r as ≠ takeBits generator r bs := by
  intro equal
  apply differ
  have before : as.take first = bs.take first := by
    apply List.ext_getElem?
    intro i
    rw [List.getElem?_take, List.getElem?_take]
    split
    · by_contra other
      have := within i other
      omega
    · rfl
  have after : (as.drop first).drop n = (bs.drop first).drop n := by
    apply List.ext_getElem?
    intro i
    simp only [List.getElem?_drop]
    by_contra other
    have := within _ other
    omega
  have parts (bits : List Bool) :
      bits.take first ++ ((bits.drop first).take n ++ (bits.drop first).drop n) = bits := by
    simp only [List.take_append_drop]
  have burst : (as.drop first).take n = (bs.drop first).take n := by
    rw [← parts as, ← parts bs, before, after] at equal
    simp only [takeBits_append] at equal
    exact takeBits_right_injective constant (by simp [same])
      (List.length_take_le n _) (takeBits_left_injective constant equal)
  rw [← parts as, ← parts bs, before, burst, after]

theorem takeBit_xor_false (r s : BitVec n) :
    takeBit generator (r ^^^ s) false = takeBit generator r s.msb ^^^ (s <<< 1) := by
  rw [← Bool.xor_self s.msb, takeBit_xor, takeBit_msb]

end Register

section Sixteen

variable (polynomial remainder : UInt16)

theorem and_top_bne_zero : (remainder &&& 0x8000 != 0) = remainder.toBitVec.msb := by
  rw [BitVec.msb_eq_getLsbD_last, ← BitVec.testBit_toNat, Bool.eq_iff_iff, bne_iff_ne, ne_eq,
    ← UInt16.toNat_inj, UInt16.toNat_and]
  change ¬remainder.toNat &&& 2 ^ 15 = 0 ↔ remainder.toNat.testBit 15 = true
  rw [Nat.and_two_pow]
  cases remainder.toNat.testBit 15 <;> decide

theorem toBitVec_shift16 : (shift16 polynomial remainder).toBitVec =
    takeBit polynomial.toBitVec remainder.toBitVec false := by
  rw [shift16, takeBit, Bool.xor_false, and_top_bne_zero]
  cases remainder.toBitVec.msb <;> simp

/-- A byte put in at the top is taken in bit by bit as it is moved out. -/
theorem toBitVec_repeat_shift16 (byte : UInt8) (count : Nat) :
    (Nat.repeat (shift16 polynomial) count (remainder ^^^ (byte.toUInt16 <<< 8))).toBitVec =
      takeBits polynomial.toBitVec remainder.toBitVec
          ((List.range count).map byte.toBitVec.getMsbD) ^^^
        (byte.toBitVec.setWidth 16 <<< (8 + count)) := by
  induction count with
  | zero => simp [takeBits, Nat.repeat]
  | succ count ih =>
    have front : (byte.toBitVec.setWidth 16 <<< (8 + count)).msb = byte.toBitVec.getMsbD count := by
      simp [BitVec.msb_shiftLeft]
    rw [Nat.repeat, toBitVec_shift16, ih, takeBit_xor_false, front, ← BitVec.shiftLeft_add,
      List.range_succ, List.map_append, takeBits_append]
    rfl

theorem toBitVec_feed16 (byte : UInt8) : (feed16 polynomial remainder byte).toBitVec =
    takeBits polynomial.toBitVec remainder.toBitVec (msbFirst byte.toBitVec) := by
  have out : byte.toBitVec.setWidth 16 <<< (8 + 8) = 0#16 := BitVec.shiftLeft_eq_zero (by decide)
  rw [feed16, toBitVec_repeat_shift16, out, BitVec.xor_zero, msbFirst]

theorem toBitVec_update16 (bytes : List UInt8) : (update16 polynomial remainder bytes).toBitVec =
    takeBits polynomial.toBitVec remainder.toBitVec (bits bytes) := by
  induction bytes generalizing remainder with
  | nil => rfl
  | cons byte bytes ih =>
    rw [bits_cons, takeBits_append, ← toBitVec_feed16, ← ih]
    rfl

theorem getLsbD_polynomial16 : polynomial16.toBitVec.getLsbD 0 = true := by decide

end Sixteen

end SdBridge.Crc
