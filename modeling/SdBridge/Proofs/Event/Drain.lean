import SdBridge.Event.Drain
import SdBridge.Proofs.Event.Queue

/-!
The drain at a ring that nobody else is at work on. One pass takes what is left of the records that
were published since the pass before, in their order, hands them back, and learns how many are gone.
-/
namespace SdBridge.Event

def Ring.oldest (capacity : Nat) (records : List Record) (r : Ring) : Nat :=
  max r.consumer.tail.toNat (records.length - capacity)

theorem Ring.oldest_of_read {capacity : Nat} {records : List Record} {r : Ring}
    (read : r.consumer.tail.toNat = records.length) :
    r.oldest capacity records = records.length := by
  rw [oldest, read, Nat.max_eq_left (Nat.sub_le _ _)]

namespace Ring.AtRest

variable {capacity released : Nat} {records : List Record} {r : Ring}

/-- Records are taken and handed back one by one, up to the newest. The first look passes over
those that are gone, and nothing is lost after it. -/
theorem takeUpTo (rest : AtRest capacity records released r) (pos : 0 < capacity)
    (fits : capacity < 2 ^ 64) {limit : Nat}
    (enough : records.length - r.oldest capacity records ≤ limit) :
    ∃ taken after, r.takeUpTo limit = .ok (taken, after) ∧
      taken.map (·.record) = records.drop (r.oldest capacity records) ∧
      after.consumer.tail.toNat = records.length ∧
      AtRest capacity records (released + (records.length - r.oldest capacity records)) after := by
  induction limit generalizing r released with
  | zero =>
    have read : r.consumer.tail.toNat = records.length := by
      have below := rest.tail_le
      simp only [oldest] at enough
      omega
    refine ⟨[], r, rfl, ?_, read, ?_⟩
    · rw [oldest_of_read read, List.drop_length, List.map_nil]
    · rwa [oldest_of_read read, Nat.sub_self]
  | succ limit ih =>
    by_cases read : r.consumer.tail.toNat = records.length
    · rw [oldest_of_read read, Nat.sub_self, Nat.add_zero, List.drop_length]
      refine ⟨[], r, ?_, rfl, read, rest⟩
      simp only [Ring.takeUpTo, rest.take_empty read.symm]
    · have behind := Nat.lt_of_le_of_ne rest.tail_le read
      obtain ⟨taken, c, took, tail, lost, cursor, found⟩ := rest.take_taken pos fits behind
      change c.tail.toNat = r.oldest capacity records at tail
      have listed := found.record
      rw [cursor, tail] at listed
      obtain ⟨inside, first⟩ := List.getElem?_eq_some_iff.1 listed
      obtain ⟨next, gave, further, rest⟩ :=
        (rest.passed tail lost).release_here cursor (by simpa only [tail] using inside)
      have moved : next.oldest capacity records = r.oldest capacity records + 1 := by
        simp only [oldest] at *
        omega
      obtain ⟨more, after, took', drained, read, rest⟩ := ih rest (by omega)
      refine ⟨taken :: more, after, ?_, ?_, read, ?_⟩
      · simp only [Ring.takeUpTo, took, gave, took']
        rfl
      · rw [List.map_cons, drained, moved, List.drop_eq_getElem_cons inside, first]
      · rw [moved] at rest
        convert rest using 1
        omega

end Ring.AtRest

/-- The log entries of records, each one told with the time since the record before it. -/
def rendered (previous : Option UInt64) (records : List Record) : List Log.Entry :=
  (records.zip (previous :: records.map fun record => some record.timestamp)).filterMap
    fun (record, before) => record.entry? (latency before record.timestamp)

theorem entries_eq (previous : Option UInt64) (records : List Record) :
    entries previous records = rendered previous records := by
  induction records generalizing previous with
  | nil => rfl
  | cons record rest ih =>
    rw [entries, ih, rendered, rendered, List.map_cons, List.zip_cons_cons, List.filterMap_cons]
    dsimp only
    cases record.entry? (latency previous record.timestamp) <;> rfl

theorem isSome_entry? (record : Record) (latency : Float) :
    (record.entry? latency).isSome = (record.kind != .done) := by
  rw [Record.entry?]
  cases record.kind <;> rfl

/-- Every record makes one entry, but those that only say that something is done. -/
theorem length_entries (previous : Option UInt64) (records : List Record) :
    (entries previous records).length = records.countP (·.kind != .done) := by
  induction records generalizing previous with
  | nil => rfl
  | cons record rest ih =>
    have one := isSome_entry? record (latency previous record.timestamp)
    rw [entries, List.length_append, ih, List.countP_cons, ← one, Nat.add_comm]
    cases record.entry? (latency previous record.timestamp) <;> rfl

namespace Drain

def unreported (d : Drain) (r : Ring) : UInt64 :=
  if d.reportedLost < r.lost then r.lost - d.reportedLost else 0

theorem toNat_unreported (d : Drain) (r : Ring) :
    (d.unreported r).toNat = r.lost.toNat - d.reportedLost.toNat := by
  rw [unreported]
  by_cases more : d.reportedLost < r.lost
  · rw [if_pos more, UInt64.toNat_sub_of_le _ _ (UInt64.le_of_lt more)]
  · rw [if_neg more, UInt64.toNat_zero]
    rw [UInt64.lt_iff_toNat_lt] at more
    omega

def warnings (lost total : UInt64) : List Log.Entry :=
  if lost = 0 then [] else [lossWarning lost total]

theorem length_warnings (lost total : UInt64) :
    (warnings lost total).length = if lost = 0 then 0 else 1 := by
  rw [warnings]
  split <;> rfl

def passed (d : Drain) (records : List Record) (r : Ring) : Pass where
  stats := ⟨records.length, d.unreported r⟩
  drain :=
    { lastTimestamp := (records.getLast?.map (·.timestamp)).or d.lastTimestamp
      reportedLost := d.reportedLost + d.unreported r }
  ring := r
  log := entries d.lastTimestamp records ++ warnings (d.unreported r) r.lost

theorem pass_eq_ok (d : Drain) {r after : Ring} {taken : List Ring.Taken}
    (took : r.takeUpTo r.capacity = .ok (taken, after)) :
    d.pass r = .ok (d.passed (taken.map (·.record)) after) := by
  simp only [pass, took, bind, Except.bind, passed, unreported, warnings]
  by_cases more : d.reportedLost < after.lost
  · have some : after.lost - d.reportedLost ≠ 0 := by
      intro none
      have unreported := d.toNat_unreported after
      have order := UInt64.lt_iff_toNat_lt.1 more
      rw [Drain.unreported, if_pos more, none, UInt64.toNat_zero] at unreported
      omega
    have total : d.reportedLost + (after.lost - d.reportedLost) = after.lost := by
      rw [UInt64.add_comm, UInt64.sub_add_cancel]
    simp only [if_pos more, if_neg some, total]
    rfl
  · simp only [if_neg more, if_true, List.append_nil, UInt64.add_zero]
    rfl

end Drain

/-- A pass of the drain does not fault, and leaves no record to take. -/
theorem Ring.AtRest.pass {capacity released : Nat} {records : List Record} {r : Ring}
    (rest : AtRest capacity records released r) (pos : 0 < capacity) (fits : capacity < 2 ^ 64)
    (d : Drain) :
    ∃ after, d.pass r = .ok (d.passed (records.drop (r.oldest capacity records)) after) ∧
      after.consumer.tail.toNat = records.length ∧
      AtRest capacity records (released + (records.length - r.oldest capacity records)) after := by
  have enough : records.length - r.oldest capacity records ≤ r.capacity := by
    rw [rest.size, oldest]
    omega
  obtain ⟨taken, after, took, drained, read, rest⟩ := rest.takeUpTo pos fits enough
  exact ⟨after, drained ▸ d.pass_eq_ok took, read, rest⟩

end SdBridge.Event
