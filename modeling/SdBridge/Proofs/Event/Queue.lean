import SdBridge.Proofs.Event.Consumer
import SdBridge.Proofs.Event.Publication
import SdBridge.Proofs.Program.Sequence

/-!
A ring whose ends are used in turns, one whole operation after the other. It is a queue that keeps
the newest records. What is overwritten is counted late, when the consumer comes back for more, so
the count of lost records lags behind the head until then.
-/
namespace SdBridge.Event.Ring

inductive Act where
  | publish (record : Record)
  | take
  /-- Hand back what was answered to one of the takes so far, if it was a record. -/
  | release (index : Nat)

def Act.record? : Act → Option Record
  | .publish record => some record
  | .take | .release _ => none

def published (acts : List Act) : List Record := acts.filterMap Act.record?

structure Ledger where
  ring : Ring
  answers : List (Option Taken) := []
  /-- How many records were handed back and not refused. -/
  released : Nat := 0
  faults : List Fault := []

namespace Ledger

def act (l : Ledger) : Act → Ledger
  | .publish record =>
    match l.ring.publish record with
    | (.ok (), ring) => { l with ring }
    | (.error fault, ring) => { l with ring, faults := l.faults ++ [fault] }
  | .take =>
    match l.ring.take with
    | (.ok taken?, ring) => { l with ring, answers := l.answers ++ [taken?] }
    | (.error fault, ring) => { l with ring, faults := l.faults ++ [fault] }
  | .release index =>
    match l.answers[index]? with
    | some (some taken) =>
      match l.ring.release taken with
      | (.ok (), ring) => { l with ring, released := l.released + 1 }
      | (.error fault, ring) => { l with ring, faults := l.faults ++ [fault] }
    | _ => l

def run (ring : Ring) (acts : List Act) : Ledger := acts.foldl act { ring }

theorem run_append (ring : Ring) (acts : List Act) (act : Act) :
    run ring (acts ++ [act]) = (run ring acts).act act := by
  simp [run, List.foldl_append]

end Ledger

section Alone

variable {α : Type} {s : Shared}

theorem run_load_bind (cell : Cell) (k : UInt64 → Run α) :
    (load cell >>= k).run Shared.perform s = (k (s.load cell)).run Shared.perform s := rfl

theorem run_loadThen {entries : List (Cell × UInt64)} (shown : s.Shows entries)
    (k : List UInt64 → Run α) : (loadThen (entries.map Prod.fst) k).run Shared.perform s =
      (k (entries.map Prod.snd)).run Shared.perform s := by
  induction entries generalizing k with
  | nil => rfl
  | cons entry entries ih =>
    rw [List.map_cons, loadThen, run_load_bind, shown entry List.mem_cons_self]
    exact ih (fun entry found => shown entry (List.mem_cons_of_mem _ found)) _

/-- A slot that shows the words of a record is copied as that record. -/
theorem run_loadRecord {slot : Nat} {record : Record} (shown : s.Shows (wordsLoaded slot record)) :
    (loadRecord slot).run Shared.perform s = (.ok record, s) := by
  have all := run_loadThen shown fun values => (pure (assemble values) : Run Record)
  rw [assemble_words] at all
  exact all

variable {capacity : Nat} {records : List Record} {begun n : Nat}

/-- A copy succeeds as long as no later publication into the slot has begun. -/
theorem run_copyIfHeld {expected : UInt64} (number : expected.toNat = n + 1)
    (sound : World.Sound capacity records ⟨s, begun⟩) (published : n < s.head.toNat)
    (fresh : begun ≤ n + capacity) :
    ∃ record, records[n]? = some record ∧
      (copyIfHeld (n % capacity) expected).run Shared.perform s = (.ok (some record), s) := by
  have more : n < records.length :=
    Nat.lt_of_lt_of_le published (Nat.le_trans sound.head_le sound.begun_le)
  have listed : records[n]? = some records[n] := List.getElem?_eq_getElem more
  have held : s.load (.seq (n % capacity)) = expected := by
    apply UInt64.toNat_inj.1
    rw [(sound.held n published).2 fresh, number]
  have shown : s.Shows (wordsLoaded (n % capacity) records[n]) := fun entry found =>
    sound.kept n records[n] published listed fresh entry (mem_words_of_loaded found)
  refine ⟨records[n], listed, ?_⟩
  rw [copyIfHeld, run_load_bind, if_pos held, Program.run_bind, run_loadRecord shown]
  simp only [run_load_bind, if_pos held]
  rfl

end Alone

theorem World.Sound.append {capacity begun : Nat} {records : List Record} {s : Shared}
    (sound : World.Sound capacity records ⟨s, begun⟩) (record : Record) :
    World.Sound capacity (records ++ [record]) ⟨s, begun⟩ := by
  refine ⟨sound.size, sound.head_le, ?_, sound.held, ?_⟩
  · rw [List.length_append]
    exact Nat.le_trans sound.begun_le (Nat.le_add_right _ _)
  · intro n old published listed fresh
    have more : n < records.length :=
      Nat.lt_of_lt_of_le published (Nat.le_trans sound.head_le sound.begun_le)
    rw [List.getElem?_append_left more] at listed
    exact sound.kept n old published listed fresh

/-- A record as it was published, with its number and the slot that this number has. -/
structure Taken.From (capacity : Nat) (records : List Record) (taken : Taken) : Prop where
  slot : taken.slot = taken.cursor.toNat % capacity
  record : records[taken.cursor.toNat]? = some taken.record

theorem Taken.From.unique {capacity : Nat} {records : List Record} {a b : Taken}
    (first : a.From capacity records) (second : b.From capacity records)
    (same : a.cursor = b.cursor) : a = b := by
  obtain ⟨cursor, slot, record⟩ := a
  obtain ⟨cursor', slot', record'⟩ := b
  obtain ⟨slot_eq, listed⟩ := first
  obtain ⟨slot_eq', listed'⟩ := second
  dsimp only at *
  subst same slot_eq slot_eq'
  rw [listed, Option.some.injEq] at listed'
  rw [listed']

structure AtRest (capacity : Nat) (records : List Record) (released : Nat) (r : Ring) : Prop where
  rests : r.consumer.Rests capacity records released ⟨r.shared, records.length⟩
  shown : r.shared.head = r.head
  head : r.head.toNat = records.length

namespace AtRest

variable {capacity released : Nat} {records : List Record} {r : Ring}

theorem size (rest : AtRest capacity records released r) : r.capacity = capacity :=
  rest.rests.sound.size

theorem shown_head (rest : AtRest capacity records released r) :
    r.shared.head.toNat = records.length := by
  rw [rest.shown, rest.head]

theorem tail_le (rest : AtRest capacity records released r) :
    r.consumer.tail.toNat ≤ records.length := by
  rw [← rest.shown_head]
  exact rest.rests.tail_le

/-- A publication leaves the consumer as it was, and what it has not read yet may be gone. -/
theorem publish (rest : AtRest capacity records released r) (pos : 0 < capacity) (record : Record)
    (few : (records ++ [record]).length < 2 ^ 64) :
    ∃ after, r.publish record = (.ok (), after) ∧ after.consumer = r.consumer ∧
      AtRest capacity (records ++ [record]) released after := by
  have listed : (records ++ [record])[records.length]? = some record := by simp
  have length : (records ++ [record]).length = records.length + 1 := by simp
  have room : r.head.toNat + 1 < 2 ^ 64 := by rw [rest.head, ← length]; exact few
  have next : (r.head + 1).toNat = records.length + 1 := by
    rw [UInt64.toNat_add, UInt64.toNat_one, rest.head]
    omega
  have slot : slotOf r.capacity r.head = records.length % capacity := by
    rw [slotOf, rest.size, rest.head]
  have sound := (rest.rests.sound.append record).published pos rest.shown_head listed few next
  have tail := Shared.tail_published r.shared (records.length % capacity) record (r.head + 1)
  have published := publish_eq_ok room record
  rw [slot] at published
  refine ⟨_, published, rfl, ⟨?_, tail.trans rest.rests.tail, ?_, rest.rests.counted⟩, rfl, ?_⟩
  · rw [length]
    exact sound
  · exact Nat.le_trans rest.tail_le (Nat.le_trans (Nat.le_succ _) (Nat.le_of_eq next.symm))
  · exact next.trans length.symm

theorem attempt_empty (rest : AtRest capacity records released r)
    (read : records.length = r.consumer.tail.toNat) :
    (attempt capacity r.consumer).run Shared.perform r.shared =
      (.ok (.empty, r.consumer), r.shared) := by
  have none : r.shared.load .head = r.consumer.tail :=
    UInt64.toNat_inj.1 (rest.shown_head.trans read)
  rw [attempt, run_load_bind, if_pos none]
  rfl

/-- The tail moves past what was overwritten, and the record there is taken at the first look. -/
theorem attempt_taken (rest : AtRest capacity records released r) (pos : 0 < capacity)
    (fits : capacity < 2 ^ 64) (behind : r.consumer.tail.toNat < records.length) :
    ∃ taken c, (attempt capacity r.consumer).run Shared.perform r.shared =
        (.ok (.taken taken, c), { r.shared with tail := c.tail }) ∧
      c.tail.toNat = max r.consumer.tail.toNat (records.length - capacity) ∧
      c.lost.toNat = r.consumer.lost.toNat + (c.tail.toNat - r.consumer.tail.toNat) ∧
      taken.cursor = c.tail ∧ taken.From capacity records := by
  have shown := rest.shown_head
  have limit := r.shared.head.toNat_lt
  have counted := rest.rests.counted
  have unread : ¬r.shared.load .head = r.consumer.tail := by
    rw [Shared.load, ← UInt64.toNat_inj, shown]
    omega
  obtain ⟨c, caught, tail, lost⟩ : ∃ c, (catchUp capacity r.shared.head r.consumer).run
        Shared.perform r.shared = (.ok c, { r.shared with tail := c.tail }) ∧
      c.tail.toNat = max r.consumer.tail.toNat (records.length - capacity) ∧
      c.lost.toNat = r.consumer.lost.toNat + (c.tail.toNat - r.consumer.tail.toNat) := by
    by_cases near : records.length ≤ r.consumer.tail.toNat + capacity
    · rw [catchUp_near fits (by omega) (by omega)]
      refine ⟨r.consumer, ?_, by omega, by omega⟩
      rw [← rest.rests.tail]
      rfl
    · have lapped : r.consumer.tail.toNat + capacity < r.shared.head.toNat := by omega
      obtain ⟨oldest, lost, place, lost_eq, same⟩ := catchUp_lapped fits lapped (by omega)
      rw [same]
      exact ⟨⟨oldest, lost⟩, rfl, by simp only; omega, lost_eq⟩
  have sound : World.Sound capacity records ⟨{ r.shared with tail := c.tail }, records.length⟩ :=
    rest.rests.sound.untouched ⟨rfl, rfl, rfl⟩
  have next : (c.tail + 1).toNat = c.tail.toNat + 1 := by
    rw [UInt64.toNat_add, UInt64.toNat_one]
    omega
  obtain ⟨record, listed, copied⟩ := run_copyIfHeld next sound (by simp only; omega) (by omega)
  refine ⟨⟨c.tail, slotOf capacity c.tail, record⟩, c, ?_, tail, lost, rfl, rfl, listed⟩
  have room : c.tail.toNat + (1 : UInt64).toNat < UInt64.size := by
    simp only [UInt64.toNat_one, UInt64.size]
    omega
  rw [attempt, run_load_bind, if_neg unread, Program.run_bind, Shared.load, caught]
  simp only [checkedAdd_eq_ok room, Program.ofExcept_ok_bind, Program.run_bind, slotOf, copied,
    Program.run_pure]

theorem take_empty (rest : AtRest capacity records released r)
    (read : records.length = r.consumer.tail.toNat) : r.take = (.ok none, r) := by
  apply take_eq_ok (r := r)
  rw [rest.size, taking, Program.run_bind, rest.attempt_empty read]
  rfl

theorem isEmpty (rest : AtRest capacity records released r)
    (read : records.length = r.consumer.tail.toNat) : r.isEmpty = true :=
  beq_iff_eq.2 (UInt64.toNat_inj.1 (rest.shown_head.trans read))

theorem take_taken (rest : AtRest capacity records released r) (pos : 0 < capacity)
    (fits : capacity < 2 ^ 64) (behind : r.consumer.tail.toNat < records.length) :
    ∃ taken c, r.take = (.ok (some taken),
        { r with shared := { r.shared with tail := c.tail }, consumer := c }) ∧
      c.tail.toNat = max r.consumer.tail.toNat (records.length - capacity) ∧
      c.lost.toNat = r.consumer.lost.toNat + (c.tail.toNat - r.consumer.tail.toNat) ∧
      taken.cursor = c.tail ∧ taken.From capacity records := by
  obtain ⟨taken, c, looked, found⟩ := rest.attempt_taken pos fits behind
  refine ⟨taken, c, take_eq_ok ?_, found⟩
  rw [rest.size, taking, Program.run_bind, looked]
  rfl

/-- Passing over lost records keeps the count. -/
theorem passed (rest : AtRest capacity records released r) {c : Consumer}
    (tail : c.tail.toNat = max r.consumer.tail.toNat (records.length - capacity))
    (lost : c.lost.toNat = r.consumer.lost.toNat + (c.tail.toNat - r.consumer.tail.toNat)) :
    AtRest capacity records released
      { r with shared := { r.shared with tail := c.tail }, consumer := c } := by
  have counted := rest.rests.counted
  have below := rest.tail_le
  have shown := rest.shown_head
  refine ⟨⟨rest.rests.sound.untouched ⟨rfl, rfl, rfl⟩, rfl, ?_, ?_⟩, rest.shown, rest.head⟩
  · simp only
    omega
  · simp only
    omega

theorem take_again (rest : AtRest capacity records released r) (pos : 0 < capacity)
    (fits : capacity < 2 ^ 64) {taken : Taken} (there : r.consumer.tail.toNat < records.length)
    (near : records.length ≤ r.consumer.tail.toNat + capacity)
    (cursor : taken.cursor = r.consumer.tail) (found : taken.From capacity records) :
    r.take = (.ok (some taken), r) := by
  obtain ⟨again, ⟨tail, lost⟩, took, tail_eq, lost_eq, cursor', found'⟩ :=
    rest.take_taken pos fits there
  obtain rfl : tail = r.consumer.tail := UInt64.toNat_inj.1 (by simp only at tail_eq; omega)
  obtain rfl : lost = r.consumer.lost := UInt64.toNat_inj.1 (by simp only at lost_eq; omega)
  have still : ({ r.shared with tail := r.consumer.tail } : Shared) = r.shared := by
    rw [← rest.rests.tail]
  simp only [took, still, found'.unique found (cursor'.trans cursor.symm)]

theorem release_foreign (r : Ring) {taken : Taken} (other : taken.cursor ≠ r.consumer.tail) :
    r.release taken =
      (.error (.foreignRelease taken.cursor.toNat r.consumer.tail.toNat), r) := by
  apply release_eq_error (r := r)
  rw [releasing, if_neg other]
  rfl

theorem release_here (rest : AtRest capacity records released r) {taken : Taken}
    (here : taken.cursor = r.consumer.tail)
    (published : r.consumer.tail.toNat < records.length) :
    ∃ after, r.release taken = (.ok (), after) ∧
      after.consumer.tail.toNat = r.consumer.tail.toNat + 1 ∧
      AtRest capacity records (released + 1) after := by
  have shown := rest.shown_head
  have limit := r.shared.head.toNat_lt
  have counted := rest.rests.counted
  have next : (r.consumer.tail + 1).toNat = r.consumer.tail.toNat + 1 := by
    rw [UInt64.toNat_add, UInt64.toNat_one]
    omega
  have room : r.consumer.tail.toNat + (1 : UInt64).toNat < UInt64.size := by
    simp only [UInt64.toNat_one, UInt64.size]
    omega
  refine ⟨{ r with
    shared := { r.shared with tail := r.consumer.tail + 1 }
    consumer := { r.consumer with tail := r.consumer.tail + 1 } }, ?_, next,
    ⟨rest.rests.sound.untouched ⟨rfl, rfl, rfl⟩, rfl, ?_, ?_⟩, rest.shown, rest.head⟩
  · apply release_eq_ok
    rw [releasing, if_pos here, checkedAdd_eq_ok room]
    rfl
  · simp only
    omega
  · simp only
    omega

theorem toNat_backlog (rest : AtRest capacity records released r) :
    r.backlog.toNat = records.length - r.consumer.tail.toNat := by
  have order : r.shared.tail ≤ r.head := by
    rw [UInt64.le_iff_toNat_le, rest.rests.tail, rest.head]
    exact rest.tail_le
  rw [Ring.backlog, if_pos order, UInt64.toNat_sub_of_le _ _ order, rest.head, rest.rests.tail]

end AtRest

namespace Ledger

structure Balanced (capacity : Nat) (records : List Record) (l : Ledger) : Prop where
  rest : AtRest capacity records l.released l.ring
  found : ∀ taken, some taken ∈ l.answers → taken.From capacity records
  reached : ∀ taken, some taken ∈ l.answers → taken.cursor.toNat ≤ l.ring.consumer.tail.toNat
  latest : ∀ taken, some taken ∈ l.answers → taken.cursor = l.ring.consumer.tail →
    l.answers.getLast? = some (some taken)
  faults : ∀ fault ∈ l.faults, ∃ released tail, fault = .foreignRelease released tail

variable {capacity : Nat} {records : List Record} {l : Ledger}

theorem Balanced.publish (balanced : l.Balanced capacity records) (pos : 0 < capacity)
    (record : Record) (few : (records ++ [record]).length < 2 ^ 64) :
    (l.act (.publish record)).Balanced capacity (records ++ [record]) := by
  obtain ⟨after, published, consumer, rest⟩ := balanced.rest.publish pos record few
  simp only [act, published]
  refine ⟨rest, ?_, ?_, ?_, balanced.faults⟩
  · intro taken answered
    obtain ⟨slot, listed⟩ := balanced.found taken answered
    refine ⟨slot, ?_⟩
    rw [List.getElem?_append_left (List.getElem?_eq_some_iff.1 listed).1, listed]
  · simpa only [consumer] using balanced.reached
  · simpa only [consumer] using balanced.latest

theorem Balanced.take (balanced : l.Balanced capacity records) (pos : 0 < capacity)
    (fits : capacity < 2 ^ 64) : (l.act .take).Balanced capacity records := by
  have rest := balanced.rest
  by_cases read : records.length = l.ring.consumer.tail.toNat
  · simp only [act, rest.take_empty read]
    refine ⟨rest, ?_, ?_, ?_, balanced.faults⟩
    · intro taken answered
      exact balanced.found taken (by simpa using answered)
    · intro taken answered
      exact balanced.reached taken (by simpa using answered)
    · intro taken answered here
      have listed := (balanced.found taken (by simpa using answered)).record
      have below := (List.getElem?_eq_some_iff.1 listed).1
      rw [here, ← read] at below
      exact absurd below (Nat.lt_irrefl _)
  · have behind := Nat.lt_of_le_of_ne rest.tail_le (Ne.symm read)
    obtain ⟨taken, c, took, tail, lost, cursor, found⟩ := rest.take_taken pos fits behind
    simp only [act, took]
    have known : ∀ other, some other ∈ l.answers ++ [some taken] →
        other.From capacity records ∧ other.cursor.toNat ≤ c.tail.toNat := by
      intro other answered
      rcases List.mem_append.1 answered with old | new
      · refine ⟨balanced.found other old, ?_⟩
        have := balanced.reached other old
        omega
      · obtain rfl : other = taken := by simpa using new
        exact ⟨found, Nat.le_of_eq (congrArg UInt64.toNat cursor)⟩
    refine ⟨rest.passed tail lost, fun other answered => (known other answered).1,
      fun other answered => (known other answered).2, ?_, balanced.faults⟩
    -- A record that was answered before and is still at the tail is answered once more.
    intro other answered here
    rw [found.unique (known other answered).1 (cursor.trans here.symm)]
    simp

theorem Balanced.release (balanced : l.Balanced capacity records) (index : Nat) :
    (l.act (.release index)).Balanced capacity records := by
  simp only [act]
  split
  · rename_i taken answered
    have answered := List.mem_of_getElem? answered
    by_cases here : taken.cursor = l.ring.consumer.tail
    · have listed := (balanced.found taken answered).record
      have published := (List.getElem?_eq_some_iff.1 listed).1
      rw [here] at published
      obtain ⟨after, released, tail, rest⟩ := balanced.rest.release_here here published
      simp only [released]
      refine ⟨rest, balanced.found, ?_, ?_, balanced.faults⟩
      · intro other answered
        have := balanced.reached other answered
        simp only
        omega
      · intro other answered here
        have := balanced.reached other answered
        simp only at here
        rw [here] at this
        omega
    · simp only [AtRest.release_foreign l.ring here]
      refine ⟨balanced.rest, balanced.found, balanced.reached, balanced.latest, ?_⟩
      intro fault member
      rcases List.mem_append.1 member with old | new
      · exact balanced.faults fault old
      · exact ⟨_, _, List.mem_singleton.1 new⟩
  · exact balanced

theorem balanced_start (slots : Array Slot) (size : slots.size = capacity) :
    Balanced capacity [] { ring := { shared := { slots } } } := by
  refine ⟨⟨⟨⟨size, Nat.le_refl _, Nat.zero_le _, ?_, ?_⟩, rfl, Nat.le_refl _, rfl⟩, rfl, rfl⟩,
    by simp, by simp, by simp, by simp⟩
  · intro n before
    exact absurd before (Nat.not_lt_zero n)
  · intro n record before
    exact absurd before (Nat.not_lt_zero n)

theorem balanced_run {ring : Ring} (pos : 0 < capacity) (fits : capacity < 2 ^ 64)
    (fresh : Balanced capacity [] { ring }) (acts : List Act)
    (few : (published acts).length < 2 ^ 64) :
    (run ring acts).Balanced capacity (published acts) := by
  induction acts using List.reverseRecOn with
  | nil => exact fresh
  | append_singleton acts act ih =>
    have more : published (acts ++ [act]) = published acts ++ act.record?.toList := by
      cases act <;> simp [published, Act.record?]
    rw [more, List.length_append] at few
    have before := ih (Nat.lt_of_le_of_lt (Nat.le_add_right _ _) few)
    rw [run_append, more]
    cases act with
    | publish record => exact before.publish pos record (by simpa [Act.record?] using few)
    | take => simpa [Act.record?] using before.take pos fits
    | release index => simpa [Act.record?] using before.release index

end Ledger

/-- Whole operations on a ring make a queue that keeps the newest records and counts the others as
lost. -/
theorem lossy_queue {capacity : Nat} (two : 2 ≤ capacity)
    (fits : Slot.bytes * capacity ≤ largestObject) :
    ∃ ring, Ring.ofCapacity capacity = .ok ring ∧
      ∀ acts : List Act, (published acts).length < 2 ^ 64 - 1 →
        let l := Ledger.run ring acts
        let p := (published acts).length
        let t := l.ring.consumer.tail.toNat
        let s := max t (p - capacity)
        (l.ring.take.1 = .ok none ↔ p = t) ∧
        (p ≠ t → ∃ taken after, l.ring.take = (.ok (some taken), after) ∧
          taken.cursor.toNat = s ∧ taken.slot = s % capacity ∧
          (published acts)[s]? = some taken.record ∧
          after.lost.toNat = l.ring.lost.toNat + (s - t) ∧
          after.take = (.ok (some taken), after)) ∧
        (∃ first c shared, (attempt capacity l.ring.consumer).run Shared.perform l.ring.shared =
          (.ok (first, c), shared) ∧ first ≠ .overtaken) ∧
        p = l.released + l.ring.lost.toNat + l.ring.backlog.toNat ∧
        l.ring.shared.tail ≤ l.ring.head ∧
        (∀ fault ∈ l.faults, ∃ released tail, fault = .foreignRelease released tail) ∧
        (∀ taken, some taken ∈ l.answers → taken.cursor = l.ring.consumer.tail →
          l.answers.getLast? = some (some taken) ∧ (l.ring.release taken).1 = .ok ()) ∧
        ∀ taken, taken.cursor ≠ l.ring.consumer.tail →
          l.ring.release taken = (.error (.foreignRelease taken.cursor.toNat t), l.ring) := by
  have pos : 0 < capacity := by omega
  have small : capacity < 2 ^ 64 := by
    simp only [Slot.bytes, textWords, largestObject] at fits
    omega
  refine ⟨{ shared := { slots := Array.replicate capacity .empty } }, ?_, ?_⟩
  · rw [Ring.ofCapacity, if_pos two, zeroed_eq_ok fits]
    rfl
  intro acts few l p t s
  obtain ⟨rest, found, -, latest, faults⟩ : l.Balanced capacity (published acts) :=
    Ledger.balanced_run pos small (Ledger.balanced_start _ Array.size_replicate) acts
      (Nat.lt_of_lt_of_le few (Nat.sub_le _ _))
  have below : t ≤ p := rest.tail_le
  have counted : t = l.released + l.ring.lost.toNat := rest.rests.counted
  have behind (unread : p ≠ t) : t < p := Nat.lt_of_le_of_ne below (Ne.symm unread)
  refine ⟨⟨?_, ?_⟩, ?_, ?_, ?_, ?_, faults, ?_, ?_⟩
  · intro none
    by_contra unread
    obtain ⟨taken, c, took, -⟩ := rest.take_taken pos small (behind unread)
    rw [took] at none
    cases none
  · intro read
    rw [rest.take_empty read]
  · intro unread
    obtain ⟨taken, c, took, tail, lost, cursor, found⟩ :=
      rest.take_taken pos small (behind unread)
    have number : taken.cursor.toNat = s := by rw [cursor, tail]
    refine ⟨taken, _, took, number, number ▸ found.slot, number ▸ found.record, ?_, ?_⟩
    · rw [Ring.lost, lost, tail]
      rfl
    · exact (rest.passed tail lost).take_again pos small (by simp only; omega)
        (by simp only; omega) cursor found
  · by_cases read : p = t
    · exact ⟨_, _, _, rest.attempt_empty read, by simp⟩
    · obtain ⟨taken, c, looked, -⟩ := rest.attempt_taken pos small (behind read)
      exact ⟨_, _, _, looked, by simp⟩
  · rw [rest.toNat_backlog]
    omega
  · rw [UInt64.le_iff_toNat_le, rest.rests.tail, rest.head]
    exact below
  · intro taken answered here
    have listed := (List.getElem?_eq_some_iff.1 (found taken answered).record).1
    rw [here] at listed
    obtain ⟨after, released, -⟩ := rest.release_here here listed
    exact ⟨latest taken answered here, by rw [released]⟩
  · intro taken other
    exact AtRest.release_foreign l.ring other

/-- Three records for two slots, and the first one is lost while it is taken. -/
theorem lossy_queue_lapped :
    ∃ ring, Ring.ofCapacity 2 = .ok ring ∧
      let l := Ledger.run ring [.publish default, .take, .publish default, .publish default]
      ∃ taken after, l.ring.take = (.ok (some taken), after) ∧ taken.cursor.toNat = 1 ∧
        taken.slot = 1 ∧ after.lost.toNat = 1 := by
  obtain ⟨ring, made, queue⟩ := lossy_queue (Nat.le_refl 2) (by decide)
  refine ⟨ring, made, ?_⟩
  intro l
  obtain ⟨-, oldest, -⟩ := queue [.publish default, .take, .publish default, .publish default]
    (by decide)
  cases made
  have consumer : l.ring.consumer = ⟨0, 0⟩ := by decide +kernel
  obtain ⟨taken, after, took, cursor, slot, -, lost, -⟩ := oldest (by rw [consumer]; decide)
  rw [consumer] at cursor slot
  rw [Ring.lost, consumer] at lost
  exact ⟨taken, after, took, cursor, slot, lost⟩

end SdBridge.Event.Ring
