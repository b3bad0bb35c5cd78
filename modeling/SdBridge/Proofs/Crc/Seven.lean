import SdBridge.Proofs.Crc.Division

/-!
The seven-bit remainder of command frames and registers. It lies in the low bits of a byte, and
there it is fed as a register of its own width is.
-/
namespace SdBridge.Crc

open Polynomial

/-- The generator of CRC7 below its leading term, in as many bits as the remainder has. -/
def generator7 : BitVec 7 := polynomial7.toBitVec.setWidth 7

theorem getLsbD_generator7 : generator7.getLsbD 0 = true := by decide

theorem divisor_generator7 : divisor generator7 = X ^ 7 + X ^ 3 + 1 := by
  have terms : msbFirst generator7 = [false, false, false, true, false, false, true] := by decide
  have low : ofWord generator7 = X ^ 3 + 1 := by
    rw [ofWord, terms]
    simp [polynomial, coefficient]
  rw [divisor, low, add_assoc]

theorem and_one_bne_zero (word : UInt8) : (word &&& 1 != 0) = word.toBitVec.getLsbD 0 := by
  have one : (1 : UInt8).toBitVec = 1#8 := rfl
  rw [Bool.eq_iff_iff, bne_iff_ne, ne_eq, ← UInt8.toBitVec_inj, UInt8.toBitVec_and, one,
    BitVec.and_one_eq_setWidth_ofBool_getLsbD]
  cases word.toBitVec.getLsbD 0 <;> decide

section Byte

variable {remainder : UInt8} {register : BitVec 7}

theorem toBitVec_carried (same : remainder.toBitVec = register.setWidth 8) :
    ((remainder <<< 1) &&& 0x7f).toBitVec = (register <<< 1).setWidth 8 := by
  have moved : ∀ register : BitVec 7,
      (register.setWidth 8 <<< 1) &&& 0x7f#8 = (register <<< 1).setWidth 8 := by decide
  rw [UInt8.toBitVec_and, UInt8.toBitVec_shiftLeft, same]
  exact moved register

theorem toBitVec_shift7 (same : remainder.toBitVec = register.setWidth 8) (bit : UInt8) :
    (shift7 remainder bit).toBitVec =
      (takeBit generator7 register (bit.toBitVec.getLsbD 0)).setWidth 8 := by
  have fed : ((bit ^^^ (remainder >>> 6)) &&& 1 != 0) =
      (register.msb ^^ bit.toBitVec.getLsbD 0) := by
    rw [and_one_bne_zero, BitVec.msb_eq_getLsbD_last]
    simp [same, Bool.xor_comm]
  have generator : polynomial7.toBitVec = generator7.setWidth 8 := by decide
  rw [shift7, fed, takeBit]
  cases register.msb ^^ bit.toBitVec.getLsbD 0 with
  | false => simp [toBitVec_carried same]
  | true => simp [toBitVec_carried same, generator]

/-- Bits of a byte, each one moved to the end before it is taken. -/
theorem toBitVec_foldl_shift7 (same : remainder.toBitVec = register.setWidth 8) (byte : UInt8)
    (places : List UInt8) :
    (places.foldl (fun r place => shift7 r (byte >>> place)) remainder).toBitVec =
      (takeBits generator7 register
        (places.map fun place => byte.toBitVec.getLsbD (place.toNat % 8))).setWidth 8 := by
  induction places generalizing remainder register with
  | nil => exact same
  | cons place places ih =>
    have next := toBitVec_shift7 same (byte >>> place)
    rw [UInt8.toBitVec_shiftRight, BitVec.ushiftRight_eq', BitVec.getLsbD_ushiftRight,
      Nat.add_zero] at next
    exact ih next

theorem toBitVec_feed7 (same : remainder.toBitVec = register.setWidth 8) (byte : UInt8) :
    (feed7 remainder byte).toBitVec =
      (takeBits generator7 register (msbFirst byte.toBitVec)).setWidth 8 :=
  toBitVec_foldl_shift7 same byte [7, 6, 5, 4, 3, 2, 1, 0]

theorem toBitVec_foldl_feed7 (same : remainder.toBitVec = register.setWidth 8)
    (bytes : List UInt8) : (bytes.foldl feed7 remainder).toBitVec =
      (takeBits generator7 register (bits bytes)).setWidth 8 := by
  induction bytes generalizing remainder register with
  | nil => exact same
  | cons byte bytes ih =>
    rw [bits_cons, takeBits_append]
    exact ih (toBitVec_feed7 same byte)

end Byte

def register7 (bytes : List UInt8) : BitVec 7 := takeBits generator7 0#7 (bits bytes)

theorem toBitVec_crc7 (bytes : List UInt8) :
    (crc7 bytes).toBitVec = (register7 bytes).setWidth 8 := by
  have clear : (0 : UInt8).toBitVec = (0#7).setWidth 8 := rfl
  exact toBitVec_foldl_feed7 clear bytes

theorem crc7_lt (bytes : List UInt8) : crc7 bytes < 128 := by
  have wide := (register7 bytes).isLt
  rw [UInt8.lt_iff_toNat_lt, ← UInt8.toNat_toBitVec, toBitVec_crc7, BitVec.toNat_setWidth]
  exact Nat.lt_of_le_of_lt (Nat.mod_le _ _) wide

/-- The bits of a CRC7 are the coefficients of the remainder of a division. -/
theorem coeff_modByMonic_eq (bytes : List UInt8) (i : Nat) :
    (polynomial (bits bytes) * X ^ 7 %ₘ (X ^ 7 + X ^ 3 + 1)).coeff i =
      coefficient ((crc7 bytes).toBitVec.getLsbD i) := by
  rw [← divisor_generator7, ← ofWord_takeBits, coeff_ofWord, toBitVec_crc7, register7]
  by_cases inside : i < 8
  · simp [inside]
  · rw [BitVec.getLsbD_of_ge _ _ (by omega), BitVec.getLsbD_of_ge _ _ (by omega)]

theorem register7_congr {sent received : List UInt8} (same : crc7 sent = crc7 received) :
    register7 sent = register7 received := by
  have same := congrArg (fun remainder => remainder.toBitVec.setWidth 7) same
  simpa [toBitVec_crc7] using same

/-- The byte that carries a remainder is made of the bits of the remainder and the end bit. -/
theorem msbFirst_sealing7 (bytes : List UInt8) :
    msbFirst (sealing7 bytes).toBitVec = msbFirst (register7 bytes) ++ [true] := by
  have sealed : ∀ register : BitVec 7,
      msbFirst ((register.setWidth 8 <<< 1) ||| 1#8) = msbFirst register ++ [true] := by
    decide
  rw [sealing7, UInt8.toBitVec_or, UInt8.toBitVec_shiftLeft, toBitVec_crc7]
  exact sealed _

theorem crc7_append_sealing7 (bytes : List UInt8) :
    crc7 (bytes ++ [sealing7 bytes]) = 0x09 := by
  have whole : bits (bytes ++ [sealing7 bytes]) =
      bits bytes ++ (msbFirst (register7 bytes) ++ [true]) := by
    rw [← msbFirst_sealing7, bits, List.flatMap_append, List.flatMap_singleton]
    rfl
  have cleared : takeBits generator7 (register7 bytes) (msbFirst (register7 bytes)) = 0#7 :=
    (takeBits_eq_zero_iff_eq_msbFirst getLsbD_generator7 (length_msbFirst _)).2 rfl
  have last : register7 (bytes ++ [sealing7 bytes]) = takeBits generator7 0#7 [true] := by
    rw [register7, whole, takeBits_append, ← register7, takeBits_append, cleared]
  rw [← UInt8.toBitVec_inj, toBitVec_crc7, last]
  decide

/-- CRC7 is what a message, as a polynomial multiplied by `x^7`, leaves when it is divided by `x^7 +
x^3 + 1`. -/
theorem crc7_remainder :
    (∀ bytes : List UInt8, crc7 bytes < 128 ∧ ∀ i,
      (polynomial (bits bytes) * X ^ 7 %ₘ (X ^ 7 + X ^ 3 + 1)).coeff i =
        if (crc7 bytes).toNat.testBit i then 1 else 0) ∧
    (∀ sent received : List UInt8, sent.length = received.length → sent ≠ received →
      ∀ first, (∀ i, (bits sent)[i]? ≠ (bits received)[i]? → first ≤ i ∧ i < first + 7) →
        crc7 sent ≠ crc7 received) ∧
    ∀ bytes : List UInt8, crc7 (bytes ++ [(crc7 bytes <<< 1) ||| 1]) = 0x09 := by
  refine ⟨fun bytes => ⟨crc7_lt bytes, fun i => ?_⟩, ?_, crc7_append_sealing7⟩
  · rw [coeff_modByMonic_eq, ← BitVec.testBit_toNat, UInt8.toNat_toBitVec]
    rfl
  · intro sent received same differ first within equal
    have lengths : (bits sent).length = (bits received).length := by
      rw [length_bits, length_bits, same]
    exact takeBits_ne_of_burst getLsbD_generator7 0#7 lengths (bits_injective.ne differ) within
      (register7_congr equal)

/-- Seven wrong bits across the end of a byte, in the frame of the command that resets a card. -/
theorem crc7_remainder_reset :
    (∀ i, (bits [0x40, 0, 0, 0, 0])[i]? ≠ (bits [0x40, 0, 0x07, 0xf0, 0])[i]? →
      21 ≤ i ∧ i < 21 + 7) ∧
    crc7 [0x40, 0, 0, 0, 0] ≠ crc7 [0x40, 0, 0x07, 0xf0, 0] ∧
    (polynomial (bits [0x40, 0, 0, 0, 0]) * X ^ 7 %ₘ (X ^ 7 + X ^ 3 + 1)).coeff 6 = 1 ∧
    crc7 ([0x40, 0, 0, 0, 0] ++ [0x95]) = 0x09 := by
  have within : ∀ i, (bits [0x40, 0, 0, 0, 0])[i]? ≠ (bits [0x40, 0, 0x07, 0xf0, 0])[i]? →
      21 ≤ i ∧ i < 21 + 7 := by
    have near : ∀ i < 40, (bits [0x40, 0, 0, 0, 0])[i]? ≠ (bits [0x40, 0, 0x07, 0xf0, 0])[i]? →
        21 ≤ i ∧ i < 21 + 7 := by decide +kernel
    intro i differ
    apply near i _ differ
    by_contra past
    apply differ
    rw [List.getElem?_eq_none (by simpa using past), List.getElem?_eq_none (by simpa using past)]
  have remainder : crc7 [0x40, 0, 0, 0, 0] = 0x4a := by decide +kernel
  obtain ⟨divides, tells, sealed⟩ := crc7_remainder
  refine ⟨within, tells _ _ rfl (by decide) 21 within, ?_, ?_⟩
  · rw [(divides _).2 6, remainder]
    rfl
  · have frame := sealed [0x40, 0, 0, 0, 0]
    rwa [remainder] at frame

end SdBridge.Crc
