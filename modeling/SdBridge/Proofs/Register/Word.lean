import Mathlib.Algebra.Order.Ring.Nat
import SdBridge.Register.Word

/-! Words and their four bytes: neither direction loses anything. -/
namespace SdBridge

theorem toNat_wordOfBytes (a b c d : UInt8) : (wordOfBytes a b c d).toNat =
    2 ^ 24 * a.toNat + 2 ^ 16 * b.toNat + 2 ^ 8 * c.toNat + d.toNat := by
  have ha := a.toNat_lt
  have hb := b.toNat_lt
  have hc := c.toNat_lt
  have hd := d.toNat_lt
  have shifts : (24 : UInt32).toNat % 32 = 24 ∧ (16 : UInt32).toNat % 32 = 16 ∧
      (8 : UInt32).toNat % 32 = 8 := by decide
  simp only [wordOfBytes, UInt32.toNat_or, UInt32.toNat_shiftLeft, UInt8.toNat_toUInt32, shifts,
    Nat.shiftLeft_eq]
  rw [Nat.mod_eq_of_lt (a := a.toNat * 2 ^ 24) (by omega),
    Nat.mod_eq_of_lt (a := b.toNat * 2 ^ 16) (by omega),
    Nat.mod_eq_of_lt (a := c.toNat * 2 ^ 8) (by omega), Nat.mul_comm a.toNat,
    ← Nat.two_pow_add_eq_or_of_lt (by omega)]
  have upper : 2 ^ 24 * a.toNat + b.toNat * 2 ^ 16 = 2 ^ 16 * (2 ^ 8 * a.toNat + b.toNat) := by
    omega
  rw [upper, ← Nat.two_pow_add_eq_or_of_lt (by omega)]
  have middle : 2 ^ 16 * (2 ^ 8 * a.toNat + b.toNat) + c.toNat * 2 ^ 8 =
      2 ^ 8 * (2 ^ 16 * a.toNat + 2 ^ 8 * b.toNat + c.toNat) := by
    omega
  rw [middle, ← Nat.two_pow_add_eq_or_of_lt (by omega)]
  omega

theorem toNat_byte (w : UInt32) {shift : UInt32} {n : Nat} (small : shift.toNat % 32 = n) :
    ((w >>> shift).toUInt8).toNat = w.toNat / 2 ^ n % 2 ^ 8 := by
  rw [UInt32.toNat_toUInt8, UInt32.toNat_shiftRight, small, Nat.shiftRight_eq_div_pow]

theorem bytesOfWord_wordOfBytes (a b c d : UInt8) :
    bytesOfWord (wordOfBytes a b c d) = [a, b, c, d] := by
  have ha := a.toNat_lt
  have hb := b.toNat_lt
  have hc := c.toNat_lt
  have hd := d.toNat_lt
  have word := toNat_wordOfBytes a b c d
  simp only [bytesOfWord, List.cons.injEq, and_true, ← UInt8.toNat_inj]
  refine ⟨?_, ?_, ?_, ?_⟩
  · rw [toNat_byte _ (n := 24) (by decide), word]
    omega
  · rw [toNat_byte _ (n := 16) (by decide), word]
    omega
  · rw [toNat_byte _ (n := 8) (by decide), word]
    omega
  · rw [UInt32.toNat_toUInt8, word]
    omega

theorem wordOfBytes_bytes (w : UInt32) :
    wordOfBytes (w >>> 24).toUInt8 (w >>> 16).toUInt8 (w >>> 8).toUInt8 w.toUInt8 = w := by
  have small := w.toNat_lt
  apply UInt32.toNat_inj.1
  rw [toNat_wordOfBytes, toNat_byte _ (n := 24) (by decide), toNat_byte _ (n := 16) (by decide),
    toNat_byte _ (n := 8) (by decide), UInt32.toNat_toUInt8]
  omega

/-- The leading bytes of a packed word are the given ones, and zeros fill it up. -/
theorem bytesOfWord_packedWord {bytes : List UInt8} (few : bytes.length ≤ 4) :
    bytesOfWord (packedWord bytes) = bytes ++ List.replicate (4 - bytes.length) 0 := by
  rw [packedWord, bytesOfWord_wordOfBytes]
  match bytes, few with
  | [], _ | [_], _ | [_, _], _ | [_, _, _], _ | [_, _, _, _], _ => rfl

end SdBridge
