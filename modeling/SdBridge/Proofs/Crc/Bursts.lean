import SdBridge.Proofs.Crc.Serial

/-! Blocks that were damaged in one place, which a CRC16 always tells from the undamaged ones. -/
namespace SdBridge.Crc

theorem getElem?_bits_set {bytes : List UInt8} {byte : UInt8} {i place : Nat}
    (elsewhere : place / 8 ≠ i) : (bits (bytes.set i byte))[place]? = (bits bytes)[place]? := by
  rw [getElem?_bits, getElem?_bits, List.getElem?_set_ne (Ne.symm elsewhere)]

theorem crc16_ne_of_burst {sent received : List UInt8} (same : sent.length = received.length)
    (differ : sent ≠ received) (first : Nat)
    (within : ∀ i, (bits sent)[i]? ≠ (bits received)[i]? → first ≤ i ∧ i < first + 16) :
    crc16 sent ≠ crc16 received := by
  intro equal
  have equal := congrArg UInt16.toBitVec equal
  rw [crc16, crc16, toBitVec_update16, toBitVec_update16] at equal
  exact takeBits_ne_of_burst getLsbD_polynomial16 _ (by rw [length_bits, length_bits, same])
    (bits_injective.ne differ) within equal

/-- Blocks whose differing bits lie within sixteen places, in the order they are sent, have
different CRC16s. -/
theorem crc16_tells_bursts :
    (∀ sent received : List UInt8, sent.length = received.length → sent ≠ received →
      ∀ first, (∀ i, (bits sent)[i]? ≠ (bits received)[i]? → first ≤ i ∧ i < first + 16) →
        crc16 sent ≠ crc16 received) ∧
    ∀ (sent : List UInt8) (i : Nat) (_ : i < sent.length) (k : Fin 8),
      crc16 sent ≠ crc16 (sent.set i (sent[i] ^^^ (1 <<< UInt8.ofNat k))) := by
  refine ⟨fun sent received => crc16_ne_of_burst, ?_⟩
  intro sent i inside k
  have flips : (1 : UInt8) <<< UInt8.ofNat k ≠ 0 := by
    revert k
    decide
  refine crc16_ne_of_burst (List.length_set ..).symm ?_ (8 * i) ?_
  · intro unchanged
    have same := congrArg (·[i]?) unchanged
    simp only [List.getElem?_set_self inside, List.getElem?_eq_getElem inside,
      Option.some.injEq] at same
    exact flips ((UInt8.xor_right_inj sent[i]).1 (same.symm.trans UInt8.xor_zero.symm))
  · intro place differ
    have here : place / 8 = i := by
      by_contra elsewhere
      exact differ (getElem?_bits_set elsewhere).symm
    omega

/-- Sixteen wrong bits, from the middle of one byte to the middle of the next but one. -/
theorem crc16_tells_bursts_straddling :
    (∀ i, (bits [0x12, 0x34, 0x56])[i]? ≠ (bits [0x1d, 0xcb, 0xa6])[i]? → 4 ≤ i ∧ i < 4 + 16) ∧
    crc16 [0x12, 0x34, 0x56] ≠ crc16 [0x1d, 0xcb, 0xa6] ∧
    crc16 [0x12, 0x34, 0x56] ≠ crc16 ([0x12, 0x34, 0x56].set 2
      ([(0x12 : UInt8), 0x34, 0x56][2] ^^^ (1 <<< UInt8.ofNat (6 : Fin 8)))) := by
  have within : ∀ i, (bits [0x12, 0x34, 0x56])[i]? ≠ (bits [0x1d, 0xcb, 0xa6])[i]? →
      4 ≤ i ∧ i < 4 + 16 := by
    have near : ∀ i < 24, (bits [0x12, 0x34, 0x56])[i]? ≠ (bits [0x1d, 0xcb, 0xa6])[i]? →
        4 ≤ i ∧ i < 4 + 16 := by decide
    intro i differ
    apply near i _ differ
    by_contra past
    apply differ
    rw [List.getElem?_eq_none (by simpa using past), List.getElem?_eq_none (by simpa using past)]
  exact ⟨within, crc16_tells_bursts.1 _ _ rfl (by decide) 4 within,
    crc16_tells_bursts.2 [0x12, 0x34, 0x56] 2 (by decide) 6⟩

end SdBridge.Crc
