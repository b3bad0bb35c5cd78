import SdBridge.Text.Hex

/-!
Faults: the ways an operation can stop without an answer because one of its own rules was broken.
A fault is not an error of the domain (a refused command, an unreadable sector); those are
answers. `Failure` puts the two side by side, and the checked arithmetic below faults where a
machine word cannot hold the result.
-/
namespace SdBridge

inductive Overflow where
  | add
  | subtract
  | multiply
  deriving DecidableEq

inductive Fault where
  | overflow (operation : Overflow)
  /-- More bytes were asked for than one object in memory can have. -/
  | capacity
  | index (size position : Nat)
  /-- A register file was asked for whose length is no whole number of words. -/
  | fileLength
  | unalignedRead (offset : Nat)
  | unalignedWrite (offset : Nat)
  | unalignedWindow (offset : Nat)
  | outsideWindow (offset size : Nat)
  | ringTooSmall
  | foreignRelease (released tail : Nat)
  | ticketPayload
  | longDuration
  /-- A text was to be cut at a position inside one of its characters. -/
  | insideCharacter (position : Nat)
  /-- A protocol engine gave up with words of its own. -/
  | raised (message : String)
  deriving DecidableEq

namespace Fault

private def unequal (what : String) : String := "assertion `left == right` failed: " ++ what

def message : Fault → String
  | .overflow .add => "attempt to add with overflow"
  | .overflow .subtract => "attempt to subtract with overflow"
  | .overflow .multiply => "attempt to multiply with overflow"
  | .capacity => "capacity overflow"
  | .index size position =>
    s!"index out of bounds: the len is {size} but the index is {position}"
  | .fileLength => unequal "register file length must be word aligned"
  | .unalignedRead offset => unequal ("unaligned read at " ++ Text.hex offset)
  | .unalignedWrite offset => unequal ("unaligned write at " ++ Text.hex offset)
  | .unalignedWindow offset => unequal ("unaligned register offset " ++ Text.hex offset)
  | .outsideWindow offset size =>
    s!"register offset {Text.hex offset} outside {Text.hex size}-byte region"
  | .ringTooSmall => "event ring needs at least two slots"
  | .foreignRelease released tail =>
    unequal s!"released record {released} but the ring tail is {tail}"
  | .ticketPayload => "assertion failed: payload <= PAYLOAD_MASK"
  | .longDuration => "overflow in Duration::new"
  | .insideCharacter position => s!"byte index {position} is not a char boundary"
  | .raised text => text

end Fault

/-- Why an operation gave no answer: an error of its domain, or a fault. -/
inductive Failure (ε : Type) where
  | error (cause : ε)
  | fault (fault : Fault)
  deriving DecidableEq

def checkedAdd (a b : UInt64) : Except Fault UInt64 :=
  if a.toNat + b.toNat < UInt64.size then .ok (a + b) else .error (.overflow .add)

def checkedSub (a b : UInt64) : Except Fault UInt64 :=
  if b ≤ a then .ok (a - b) else .error (.overflow .subtract)

def checkedMul (a b : UInt64) : Except Fault UInt64 :=
  if a.toNat * b.toNat < UInt64.size then .ok (a * b) else .error (.overflow .multiply)

/-- The most bytes that one object in memory can have. -/
def largestObject : Nat := 0x7fffffffffffffff

/-- An array of zeros, if its elements of a given size fit one object. -/
def zeroed (zero : α) (elementSize count : Nat) : Except Fault (Array α) :=
  if elementSize * count ≤ largestObject then .ok (Array.replicate count zero)
  else .error .capacity

theorem zeroed_eq_ok {zero : α} {elementSize count : Nat}
    (h : elementSize * count ≤ largestObject) :
    zeroed zero elementSize count = .ok (Array.replicate count zero) := by
  simp [zeroed, h]

theorem checkedAdd_eq_ok {a b : UInt64} (h : a.toNat + b.toNat < UInt64.size) :
    checkedAdd a b = .ok (a + b) := by
  simp [checkedAdd, h]

theorem checkedSub_eq_ok {a b : UInt64} (h : b ≤ a) : checkedSub a b = .ok (a - b) := by
  simp [checkedSub, h]

theorem checkedMul_eq_ok {a b : UInt64} (h : a.toNat * b.toNat < UInt64.size) :
    checkedMul a b = .ok (a * b) := by
  simp [checkedMul, h]

theorem checkedMul_eq_error {a b : UInt64} (h : ¬a.toNat * b.toNat < UInt64.size) :
    checkedMul a b = .error (.overflow .multiply) := by
  simp [checkedMul, h]

theorem lt_of_checkedMul {a b n : UInt64} (h : checkedMul a b = .ok n) :
    a.toNat * b.toNat < UInt64.size := by
  refine Decidable.byContradiction fun large => ?_
  rw [checkedMul_eq_error large] at h
  cases h

end SdBridge
