/-!
The text of an event, kept in a fixed number of bytes. A text that is too long is cut between two
characters, so that what is kept is always readable text.
-/
namespace SdBridge.Event

namespace Payload

abbrev capacity : Nat := 40

def continues (byte : UInt8) : Bool := byte &&& 0xc0 == 0x80

/-- Whether UTF-8 text can be cut before the byte at a position. -/
def isBoundary (text : Array UInt8) (position : Nat) : Bool :=
  match text[position]? with
  | some byte => position == 0 || !continues byte
  | none => position == text.size

def boundaryBefore (text : Array UInt8) : Nat → Nat
  | 0 => 0
  | position + 1 =>
    if isBoundary text (position + 1) then position + 1 else boundaryBefore text position

theorem boundaryBefore_le (text : Array UInt8) (n : Nat) : boundaryBefore text n ≤ n := by
  induction n with
  | zero => simp [boundaryBefore]
  | succ n ih =>
    simp only [boundaryBefore]
    split <;> omega

/-- The bytes of a text that are kept: as many as fit, cut between two characters. -/
def kept (text : Array UInt8) : Nat := boundaryBefore text (min text.size capacity)

theorem kept_le (text : Array UInt8) : kept text ≤ capacity :=
  Nat.le_trans (boundaryBefore_le text _) (Nat.min_le_right _ _)

end Payload

/-- A text of at most `Payload.capacity` bytes; the bytes after it are zero. -/
structure Payload where
  length : UInt8
  bytes : Vector UInt8 Payload.capacity
  length_le : length.toNat ≤ Payload.capacity
  deriving DecidableEq

namespace Payload

def empty : Payload := ⟨0, Vector.replicate capacity 0, by decide⟩

instance : Inhabited Payload := ⟨empty⟩

def ofString (text : String) : Payload :=
  let source := text.toUTF8.data
  ⟨(kept source).toUInt8,
    Vector.ofFn fun i => if i < kept source then source[i]?.getD 0 else 0,
    Nat.le_trans (Nat.mod_le ..) (kept_le source)⟩

/-- Bytes from a ring slot. A length that no payload has is brought back to the capacity. -/
def ofRaw (length : UInt8) (bytes : Vector UInt8 capacity) : Payload :=
  ⟨min length capacity.toUInt8, bytes, UInt8.le_iff_toNat_le.1 Std.min_le_right⟩

def used (p : Payload) : List UInt8 := p.bytes.toList.take p.length.toNat

/-- The text; nothing if the bytes are no text. -/
def toString (p : Payload) : String := (String.fromUTF8? ⟨p.used.toArray⟩).getD ""

def isEmpty (p : Payload) : Bool := p.length == 0

end Payload
end SdBridge.Event
