import Mathlib.Algebra.Order.Ring.Nat
import Mathlib.Data.List.Induction
import Mathlib.Tactic.Common
import SdBridge.Event.Slot

/-!
A record survives its slot: the words that are stored for it read back as the same record.
-/
namespace SdBridge.Event

namespace Slot

/-- A byte under the bytes of a word that has room for it. -/
theorem toNat_under {above : UInt64} (byte : UInt8) (room : above.toNat < 2 ^ 56) :
    ((above <<< 8) ||| byte.toUInt64).toNat = 2 ^ 8 * above.toNat + byte.toNat := by
  have small := byte.toNat_lt
  have shift : (8 : UInt64).toNat % 64 = 8 := by decide
  rw [UInt64.toNat_or, UInt64.toNat_shiftLeft, shift, UInt8.toNat_toUInt64, Nat.shiftLeft_eq,
    Nat.mod_eq_of_lt (by omega), Nat.mul_comm, ← Nat.two_pow_add_eq_or_of_lt small]

def littleEndian : List UInt8 → Nat
  | [] => 0
  | byte :: above => 2 ^ 8 * littleEndian above + byte.toNat

theorem littleEndian_lt (bytes : List UInt8) : littleEndian bytes < 2 ^ (8 * bytes.length) := by
  induction bytes with
  | nil => decide
  | cons byte above ih =>
    have small := byte.toNat_lt
    rw [littleEndian, List.length_cons, Nat.mul_succ, Nat.pow_add]
    omega

theorem littleEndian_digit (bytes : List UInt8) (i : Nat) :
    littleEndian bytes / 2 ^ (8 * i) % 2 ^ 8 = (bytes[i]?.getD 0).toNat := by
  induction bytes generalizing i with
  | nil => simp [littleEndian]
  | cons byte above ih =>
    have small := byte.toNat_lt
    cases i with
    | zero =>
      simp only [littleEndian, Nat.mul_zero, Nat.pow_zero, Nat.div_one, List.getElem?_cons_zero,
        Option.getD_some]
      omega
    | succ i =>
      have rest : (2 ^ 8 * littleEndian above + byte.toNat) / 2 ^ 8 = littleEndian above := by
        omega
      rw [littleEndian, Nat.mul_succ, Nat.add_comm (8 * i), Nat.pow_add, ← Nat.div_div_eq_div_mul,
        rest, ih]
      simp

theorem toNat_foldr (bytes : List UInt8) (room : bytes.length ≤ 8) :
    (bytes.foldr (fun byte (above : UInt64) => (above <<< 8) ||| byte.toUInt64) 0).toNat =
      littleEndian bytes := by
  induction bytes with
  | nil => rfl
  | cons byte above ih =>
    rw [List.length_cons] at room
    have small := littleEndian_lt above
    have bound : 2 ^ (8 * above.length) ≤ 2 ^ 56 := Nat.pow_le_pow_right (by decide) (by omega)
    rw [List.foldr_cons, toNat_under, ih (by omega), littleEndian]
    rw [ih (by omega)]
    omega

def wordBytes (payload : Payload) (word : Fin textWords) : List UInt8 :=
  (List.range 8).map fun i => payload.bytes[8 * word.val + i]?.getD 0

theorem toNat_textWord (payload : Payload) (word : Fin textWords) :
    (textWord payload word).toNat = littleEndian (wordBytes payload word) := by
  rw [← toNat_foldr _ (by simp [wordBytes]), textWord, wordBytes, List.foldr_map]

theorem textByte (payload : Payload) (word : Fin textWords) {i : Nat} (inside : i < 8) :
    (textWord payload word >>> (8 * i).toUInt64).toUInt8 =
      payload.bytes[8 * word.val + i]?.getD 0 := by
  apply UInt8.toNat_inj.1
  have shift : (8 * i).toUInt64.toNat % 64 = 8 * i := by
    rw [Nat.toUInt64, UInt64.toNat_ofNat']
    omega
  rw [UInt64.toNat_toUInt8, UInt64.toNat_shiftRight, shift, Nat.shiftRight_eq_div_pow,
    toNat_textWord, littleEndian_digit, wordBytes]
  simp [inside]

def textOf (payload : Payload) : Vector UInt64 textWords :=
  #v[textWord payload 0, textWord payload 1, textWord payload 2, textWord payload 3,
    textWord payload 4]

theorem getElem_textOf (payload : Payload) (word : Fin textWords) :
    (textOf payload)[word.val] = textWord payload word := by
  obtain ⟨word, inside⟩ := word
  simp only [textOf]
  match word, inside with
  | 0, _ | 1, _ | 2, _ | 3, _ | 4, _ => rfl

theorem textBytes_textOf (payload : Payload) : textBytes (textOf payload) = payload.bytes := by
  apply Vector.ext
  intro i inside
  have word : i / 8 < textWords := Nat.div_lt_of_lt_mul inside
  have place : 8 * (i / 8) + i % 8 = i := Nat.div_add_mod i 8
  simp only [textBytes, Vector.getElem_ofFn]
  rw [Vector.getElem?_eq_getElem word, Option.getD_some, getElem_textOf payload ⟨i / 8, word⟩,
    textByte payload _ (Nat.mod_lt _ (by decide))]
  simp [place, inside]

theorem toNat_tagOf (record : Record) :
    (tagOf record).toNat = 2 ^ 8 * record.payload.length.toNat + record.kind.code.toNat := by
  have small := record.payload.length.toNat_lt
  rw [tagOf, UInt64.or_comm, toNat_under _ (by simp only [UInt8.toNat_toUInt64]; omega)]
  simp

theorem kind_tagOf (record : Record) : (tagOf record).toUInt8 = record.kind.code := by
  apply UInt8.toNat_inj.1
  have small := record.kind.code.toNat_lt
  rw [UInt64.toNat_toUInt8, toNat_tagOf]
  omega

theorem length_tagOf (record : Record) : (tagOf record >>> 8).toUInt8 = record.payload.length := by
  apply UInt8.toNat_inj.1
  have small := record.kind.code.toNat_lt
  have length := record.payload.length.toNat_lt
  have shift : (8 : UInt64).toNat % 64 = 8 := by decide
  rw [UInt64.toNat_toUInt8, UInt64.toNat_shiftRight, shift, Nat.shiftRight_eq_div_pow, toNat_tagOf]
  omega

theorem ofRaw_payload (payload : Payload) : Payload.ofRaw payload.length payload.bytes = payload := by
  have fits : min payload.length Payload.capacity.toUInt8 = payload.length :=
    Std.min_eq_if.trans (if_pos (UInt8.le_iff_toNat_le.2 payload.length_le))
  simp [Payload.ofRaw, fits]

/-- The words of a record read back as the record. -/
theorem decode_stored (record : Record) :
    decode (tagOf record) record.extra record.timestamp (textOf record.payload) = record := by
  simp [decode, kind_tagOf, length_tagOf, Kind.ofCode?_code, textBytes_textOf, ofRaw_payload]

end Slot
end SdBridge.Event
