import SdBridge.Proofs.Crc.Serial

/-!
A block with two bytes behind it. The remainder of the block is cleared by the two bytes that are
its own bits, so that the CRC16 of the whole is zero exactly if the block's CRC16 was sent behind
it.
-/
namespace SdBridge.Crc

theorem bits_bytes16 (remainder : UInt16) :
    bits (bytes16 remainder) = msbFirst remainder.toBitVec := by
  have upper : msbFirst (remainder >>> 8).toUInt8.toBitVec =
      (List.range 8).map remainder.toBitVec.getMsbD := by
    apply List.map_congr_left
    intro i inside
    have inside := List.mem_range.1 inside
    have place : 8 + (7 - i) = 15 - i := by omega
    have low : 7 - i < 8 := by omega
    have high : i < 16 := by omega
    simp [BitVec.getMsbD_eq_getLsbD, inside, place, low, high]
  have lower : msbFirst remainder.toUInt8.toBitVec =
      (List.range 8).map fun i => remainder.toBitVec.getMsbD (8 + i) := by
    apply List.map_congr_left
    intro i inside
    have inside := List.mem_range.1 inside
    have place : 15 - (8 + i) = 7 - i := by omega
    have low : 7 - i < 8 := by omega
    have high : 8 + i < 16 := by omega
    simp [BitVec.getMsbD_eq_getLsbD, inside, place, low, high]
  rw [bytes16, bits_cons, bits_cons, upper, lower]
  rfl

/-- The two bytes that clear a remainder are its own. -/
theorem update16_eq_zero_iff (remainder : UInt16) {trailer : List UInt8}
    (two : trailer.length = 2) :
    update16 polynomial16 remainder trailer = 0 ↔ trailer = bytes16 remainder := by
  rw [← UInt16.toBitVec_inj, toBitVec_update16, ← bits_injective.eq_iff, bits_bytes16]
  exact takeBits_eq_zero_iff_eq_msbFirst getLsbD_polynomial16 (by rw [length_bits, two])

/-- A block that carries its CRC16 has the CRC16 zero. -/
theorem crc16_append_bytes16 (bytes : List UInt8) : crc16 (bytes ++ bytes16 (crc16 bytes)) = 0 := by
  rw [crc16, update16_append]
  exact (update16_eq_zero_iff (crc16 bytes) rfl).2 rfl

/-- Two bytes behind a block bring its CRC16 to zero exactly if they are the CRC16 of the block. -/
theorem crc16_append_eq_zero_iff :
    (∀ (bytes : List UInt8) (upper lower : UInt8),
      crc16 (bytes ++ [upper, lower]) = 0 ↔ [upper, lower] = bytes16 (crc16 bytes)) ∧
    ∀ frame : List UInt8, 2 ≤ frame.length → (crc16 frame = 0 ↔
      frame.drop (frame.length - 2) = bytes16 (crc16 (frame.take (frame.length - 2)))) := by
  have verifies (bytes trailer : List UInt8) (two : trailer.length = 2) :
      crc16 (bytes ++ trailer) = 0 ↔ trailer = bytes16 (crc16 bytes) := by
    rw [crc16, update16_append]
    exact update16_eq_zero_iff (crc16 bytes) two
  constructor
  · intro bytes upper lower
    exact verifies bytes [upper, lower] rfl
  · intro frame long
    have two : (frame.drop (frame.length - 2)).length = 2 := by
      rw [List.length_drop]
      omega
    rw [← verifies _ _ two, List.take_append_drop]

/-- The same two bytes, in the right order and in the wrong one. -/
theorem crc16_append_eq_zero_iff_digit :
    2 ≤ [0x31, 0x26, 0x72].length ∧ crc16 [0x31, 0x26, 0x72] = 0 ∧
      crc16 [0x31, 0x72, 0x26] ≠ 0 := by
  refine ⟨by decide, (crc16_append_eq_zero_iff.2 _ (by decide)).2 (by decide), ?_⟩
  intro verified
  have trailer := (crc16_append_eq_zero_iff.2 _ (by decide)).1 verified
  revert trailer
  decide

end SdBridge.Crc
