import SdBridge.Event.Record

/-!
One slot of the event ring: eight words of a record behind the sequence number of that record.
The kind and the length of the text share a word, and the text lies in little-endian words.
-/
namespace SdBridge.Event

abbrev textWords : Nat := 5

instance : @NeZero Nat Zero.ofOfNat0 textWords := ⟨Nat.succ_ne_zero 4⟩

structure Slot where
  /-- The number of the record held, plus one; zero if the slot was never written. -/
  seq : UInt64
  /-- The code of the kind, and above it the length of the text. -/
  tag : UInt64
  extra : UInt64
  timestamp : UInt64
  text : Vector UInt64 textWords

namespace Slot

def bytes : Nat := 8 * (4 + textWords)

def empty : Slot := ⟨0, 0, 0, 0, Vector.replicate textWords 0⟩

instance : Inhabited Slot := ⟨empty⟩

/-- The sequence number of a slot whose record is being written. -/
def busy : UInt64 := 0xffffffffffffffff

def tagOf (record : Record) : UInt64 :=
  record.kind.code.toUInt64 ||| (record.payload.length.toUInt64 <<< 8)

def textWord (payload : Payload) (word : Fin textWords) : UInt64 :=
  (List.range 8).foldr
    (fun i above => (above <<< 8) ||| (payload.bytes[8 * word.val + i]?.getD 0).toUInt64) 0

def textBytes (words : Vector UInt64 textWords) : Vector UInt8 Payload.capacity :=
  Vector.ofFn fun i =>
    ((words[i.val / 8]?.getD 0) >>> (8 * (i.val % 8)).toUInt64).toUInt8

/-- The record that words of a slot stand for. A code that is no kind reads as free text. -/
def decode (tag extra timestamp : UInt64) (text : Vector UInt64 textWords) : Record :=
  { kind := (Kind.ofCode? tag.toUInt8).getD .debug
    payload := .ofRaw (tag >>> 8).toUInt8 (textBytes text)
    extra, timestamp }

end Slot
end SdBridge.Event
