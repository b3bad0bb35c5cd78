import SdBridge.Event.Slot
import SdBridge.Program

/-!
The event ring: one producer publishes records and never waits, one consumer takes them and may
be lapped. Cursors are record numbers that only grow; record `n` lives in slot `n % capacity`.
`head` is the next record to write, `tail` the next to read.

To publish, the producer marks the slot busy, stores the words of the record, stores the record's
number plus one, and moves `head`. The consumer copies the words between two reads of the number;
if either differs from the one it expects, the record is gone and counts as lost.

Both sides are programs over the shared words, with one access for each load and store.
-/
namespace SdBridge.Event

namespace Ring

inductive Cell where
  | head
  | tail
  | seq (slot : Nat)
  | tag (slot : Nat)
  | extra (slot : Nat)
  | timestamp (slot : Nat)
  | text (slot : Nat) (word : Fin textWords)
  deriving DecidableEq

inductive Access where
  | load (cell : Cell)
  | store (cell : Cell) (value : UInt64)

abbrev Access.Answer : Access → Type
  | .load _ => UInt64
  | .store _ _ => Unit

structure Shared where
  slots : Array Slot
  head : UInt64 := 0
  tail : UInt64 := 0

namespace Shared

/-- A slot; an empty one past the end. -/
def slot (s : Shared) (i : Nat) : Slot := s.slots[i]?.getD .empty

def load (s : Shared) : Cell → UInt64
  | .head => s.head
  | .tail => s.tail
  | .seq i => (s.slot i).seq
  | .tag i => (s.slot i).tag
  | .extra i => (s.slot i).extra
  | .timestamp i => (s.slot i).timestamp
  | .text i word => (s.slot i).text[word]

def store (s : Shared) (cell : Cell) (value : UInt64) : Shared :=
  match cell with
  | .head => { s with head := value }
  | .tail => { s with tail := value }
  | .seq i => { s with slots := s.slots.modify i fun slot => { slot with seq := value } }
  | .tag i => { s with slots := s.slots.modify i fun slot => { slot with tag := value } }
  | .extra i => { s with slots := s.slots.modify i fun slot => { slot with extra := value } }
  | .timestamp i =>
    { s with slots := s.slots.modify i fun slot => { slot with timestamp := value } }
  | .text i word =>
    { s with slots := s.slots.modify i fun slot => { slot with text := slot.text.set word value } }

def perform : Handler Access.Answer Shared
  | Access.load cell, s => (.ok (s.load cell), s)
  | Access.store cell value, s => (.ok (), s.store cell value)

end Shared

abbrev Run := Program Access.Answer

def load (cell : Cell) : Run UInt64 := @Program.access _ Access.Answer (.load cell)

def store (cell : Cell) (value : UInt64) : Run Unit :=
  @Program.access _ Access.Answer (.store cell value)

def slotOf (capacity : Nat) (cursor : UInt64) : Nat := cursor.toNat % capacity

def storeRecord (slot : Nat) (record : Record) : Run Unit := do
  store (.tag slot) (Slot.tagOf record)
  store (.extra slot) record.extra
  store (.timestamp slot) record.timestamp
  store (.text slot 0) (Slot.textWord record.payload 0)
  store (.text slot 1) (Slot.textWord record.payload 1)
  store (.text slot 2) (Slot.textWord record.payload 2)
  store (.text slot 3) (Slot.textWord record.payload 3)
  store (.text slot 4) (Slot.textWord record.payload 4)

/-- Publish a record under the number `cursor`; the result is the next number. -/
def publication (capacity : Nat) (cursor : UInt64) (record : Record) : Run UInt64 := do
  let slot := slotOf capacity cursor
  store (.seq slot) Slot.busy
  storeRecord slot record
  let next ← .ofExcept (checkedAdd cursor 1)
  store (.seq slot) next
  store .head next
  pure next

structure Taken where
  /-- Its number; the first record ever published has number zero. -/
  cursor : UInt64
  slot : Nat
  record : Record
  deriving DecidableEq

structure Consumer where
  tail : UInt64 := 0
  lost : UInt64 := 0
  deriving DecidableEq

inductive Attempt where
  | empty
  | taken (record : Taken)
  /-- The record was overwritten while it was looked at; it counts as lost. -/
  | overtaken
  deriving DecidableEq

def loadRecord (slot : Nat) : Run Record := do
  let word0 ← load (.text slot 0)
  let word1 ← load (.text slot 1)
  let word2 ← load (.text slot 2)
  let word3 ← load (.text slot 3)
  let word4 ← load (.text slot 4)
  let tag ← load (.tag slot)
  let extra ← load (.extra slot)
  let timestamp ← load (.timestamp slot)
  pure (Slot.decode tag extra timestamp #v[word0, word1, word2, word3, word4])

/-- Move the tail past records that were overwritten while the consumer was away. -/
def catchUp (capacity : Nat) (head : UInt64) (c : Consumer) : Run Consumer := do
  let ahead ← .ofExcept (checkedSub head c.tail)
  if capacity.toUInt64 < ahead then
    let oldest ← .ofExcept (checkedSub head capacity.toUInt64)
    let skipped ← .ofExcept (checkedSub oldest c.tail)
    let lost ← .ofExcept (checkedAdd c.lost skipped)
    store .tail oldest
    pure ⟨oldest, lost⟩
  else pure c

/-- The record with number `expected - 1` if the slot holds it before and after the copy. -/
def copyIfHeld (slot : Nat) (expected : UInt64) : Run (Option Record) := do
  let before ← load (.seq slot)
  if before = expected then
    let record ← loadRecord slot
    let after ← load (.seq slot)
    pure (if after = expected then some record else none)
  else pure none

def attempt (capacity : Nat) (c : Consumer) : Run (Attempt × Consumer) := do
  let head ← load .head
  if head = c.tail then pure (.empty, c)
  else
    let c ← catchUp capacity head c
    let expected ← .ofExcept (checkedAdd c.tail 1)
    let slot := slotOf capacity c.tail
    match ← copyIfHeld slot expected with
    | some record => pure (.taken ⟨c.tail, slot, record⟩, c)
    | none =>
      let lost ← .ofExcept (checkedAdd c.lost 1)
      store .tail expected
      pure (.overtaken, ⟨expected, lost⟩)

/-- Look again as long as records are overwritten, at most `attempts` times. -/
def taking (capacity : Nat) : Nat → Consumer → Run (Option Taken × Consumer)
  | 0, c => pure (none, c)
  | attempts + 1, c => do
    match ← attempt capacity c with
    | (.empty, c) => pure (none, c)
    | (.taken record, c) => pure (some record, c)
    | (.overtaken, c) => taking capacity attempts c

def releasing (taken : Taken) (c : Consumer) : Run Consumer := do
  if taken.cursor = c.tail then
    let next ← .ofExcept (checkedAdd c.tail 1)
    store .tail next
    pure { c with tail := next }
  else .fail (.foreignRelease taken.cursor.toNat c.tail.toNat)

end Ring

structure Ring where
  shared : Ring.Shared
  /-- The producer's own copy of the head. -/
  head : UInt64 := 0
  consumer : Ring.Consumer := {}

namespace Ring

def ofCapacity (capacity : Nat) : Except Fault Ring :=
  if 2 ≤ capacity then (zeroed .empty Slot.bytes capacity).map fun slots => { shared := { slots } }
  else .error .ringTooSmall

def capacity (r : Ring) : Nat := r.shared.slots.size

/-- Publish a record with nobody else at work. -/
def publish (r : Ring) (record : Record) : Except Fault Unit × Ring :=
  let program := publication r.capacity r.head record
  match program.run Shared.perform r.shared with
  | (.ok head, shared) => (.ok (), { r with shared, head })
  | (.error fault, shared) => (.error fault, { r with shared })

def publishAll (r : Ring) : List Record → Except Fault Ring
  | [] => .ok r
  | record :: rest =>
    match r.publish record with
    | (.ok (), r) => publishAll r rest
    | (.error fault, _) => .error fault

private def consume (r : Ring) (program : Run (α × Consumer)) : Except Fault α × Ring :=
  match program.run Shared.perform r.shared with
  | (.ok (answer, consumer), shared) => (.ok answer, { r with shared, consumer })
  | (.error fault, shared) => (.error fault, { r with shared })

/-- The record at the tail, if any, with nobody else at work. It stays until it is released. -/
def take (r : Ring) : Except Fault (Option Taken) × Ring :=
  r.consume (taking r.capacity (r.capacity + 1) r.consumer)

/-- Hand back the record at the tail. Any other record is refused, and nothing changes. -/
def release (r : Ring) (taken : Taken) : Except Fault Unit × Ring :=
  r.consume do
    let consumer ← releasing taken r.consumer
    pure ((), consumer)

theorem take_eq_ok {r : Ring} {answer : Option Taken} {consumer : Consumer} {shared : Shared}
    (ran : (taking r.capacity (r.capacity + 1) r.consumer).run Shared.perform r.shared =
      (.ok (answer, consumer), shared)) : r.take = (.ok answer, { r with shared, consumer }) := by
  simp [take, consume, ran]

theorem release_eq_ok {r : Ring} {taken : Taken} {consumer : Consumer} {shared : Shared}
    (ran : (releasing taken r.consumer).run Shared.perform r.shared = (.ok consumer, shared)) :
    r.release taken = (.ok (), { r with shared, consumer }) := by
  simp [release, consume, Program.run_bind, ran]

theorem release_eq_error {r : Ring} {taken : Taken} {fault : Fault} {shared : Shared}
    (ran : (releasing taken r.consumer).run Shared.perform r.shared = (.error fault, shared)) :
    r.release taken = (.error fault, { r with shared }) := by
  simp [release, consume, Program.run_bind, ran]

/-- The producer's own copy of the head is the producer's. -/
theorem head_take (r : Ring) : r.take.2.head = r.head := by
  simp only [take, consume]
  split <;> rfl

theorem head_release (r : Ring) (taken : Taken) : (r.release taken).2.head = r.head := by
  simp only [release, consume]
  split <;> rfl

/-- Records published and not yet released, as the producer sees it. It exceeds the capacity
while the consumer is being lapped. -/
def backlog (r : Ring) : UInt64 := if r.shared.tail ≤ r.head then r.head - r.shared.tail else 0

def isEmpty (r : Ring) : Bool := r.shared.head == r.consumer.tail

def lost (r : Ring) : UInt64 := r.consumer.lost

end Ring
end SdBridge.Event
