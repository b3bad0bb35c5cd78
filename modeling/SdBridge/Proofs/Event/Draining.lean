import Mathlib.Data.List.DropRight
import SdBridge.Proofs.Event.Drain
import SdBridge.Proofs.Event.Text

/-!
A drain at work. Records come in batches while it sleeps, and it looks again before it sleeps the
next time, so that a pass finds at most one batch. The last pass comes after the last batch.
-/
namespace SdBridge.Event

theorem Payload.utf8ByteSize_toString_le (p : Payload) : p.toString.utf8ByteSize ≤ capacity := by
  rw [Payload.toString, String.fromUTF8?]
  split
  · exact Nat.le_trans (List.length_take_le _ _) p.length_le
  · exact Nat.zero_le _

theorem entries_append (previous : Option UInt64) (records more : List Record) :
    entries previous (records ++ more) = entries previous records ++
      entries ((records.getLast?.map (·.timestamp)).or previous) more := by
  induction records generalizing previous with
  | nil => rfl
  | cons record records ih =>
    rw [List.cons_append, entries, entries, ih, List.append_assoc]
    cases records with
    | nil => rfl
    | cons next records =>
      rw [List.getLast?_cons_cons, List.getLast?_cons]
      rfl

/-- Publishing a batch is publishing its records one after the other. -/
theorem Ring.AtRest.publishAll {capacity released : Nat} {records : List Record} {r : Ring}
    (rest : AtRest capacity records released r) (pos : 0 < capacity) (batch : List Record)
    (few : (records ++ batch).length < 2 ^ 64) :
    ∃ after, r.publishAll batch = .ok after ∧ after.consumer = r.consumer ∧
      AtRest capacity (records ++ batch) released after := by
  induction batch generalizing r records with
  | nil => exact ⟨r, rfl, rfl, by rwa [List.append_nil]⟩
  | cons record batch ih =>
    have few' : ((records ++ [record]) ++ batch).length < 2 ^ 64 := by simpa using few
    obtain ⟨next, published, consumer, rest⟩ :=
      rest.publish pos record (Nat.lt_of_le_of_lt (by simp) few')
    obtain ⟨after, all, same, rest⟩ := ih rest few'
    refine ⟨after, ?_, same.trans consumer, ?_⟩
    · rw [Ring.publishAll, published]
      exact all
    · rwa [List.append_assoc] at rest

/-- There is no number for a record after the last one. -/
theorem Ring.AtRest.publishAll_full {capacity released : Nat} {records : List Record} {r : Ring}
    (rest : AtRest capacity records released r) (pos : 0 < capacity) (batch : List Record)
    (few : records.length < 2 ^ 64) (many : 2 ^ 64 ≤ (records ++ batch).length) :
    r.publishAll batch = .error (.overflow .add) := by
  induction batch generalizing r records with
  | nil =>
    rw [List.append_nil] at many
    omega
  | cons record batch ih =>
    have length : (records ++ [record]).length = records.length + 1 := by simp
    rw [Ring.publishAll]
    by_cases room : records.length + 1 < 2 ^ 64
    · obtain ⟨next, published, -, rest⟩ := rest.publish pos record (by omega)
      rw [published]
      exact ih rest (by omega) (by simpa using many)
    · rw [publish_eq_error (by rw [rest.head]; omega)]

theorem Record.message_entry? {record : Record} {latency : Float} {entry : Log.Entry}
    (made : record.entry? latency = some entry) : entry.message = record.payload.toString ∨
      entry.message ∈ ["get size", "read sector", "write sector"] := by
  rw [Record.entry?] at made
  cases kind : record.kind <;> simp only [kind, Option.some.injEq, reduceCtorEq] at made <;>
    subst made <;> simp

namespace Drain

def isLossWarning (entry : Log.Entry) : Bool := entry.message == (lossWarning 0 0).message

def told (log : List Log.Entry) : List Log.Entry := log.filter fun entry => !isLossWarning entry

theorem told_append (log more : List Log.Entry) : told (log ++ more) = told log ++ told more :=
  List.filter_append _ _

theorem told_warnings (lost total : UInt64) : told (warnings lost total) = [] := by
  rw [warnings]
  split
  · rfl
  · simp [told, isLossWarning, lossWarning]

theorem told_entries (previous : Option UInt64) (records : List Record) :
    told (entries previous records) = entries previous records := by
  induction records generalizing previous with
  | nil => rfl
  | cons record records ih =>
    rw [entries, told_append, ih]
    congr 1
    refine List.filter_eq_self.2 fun entry made => ?_
    rw [isLossWarning, Bool.not_eq_true', beq_eq_false_iff_ne]
    intro same
    -- The text that tells of losses has more bytes than a payload.
    rcases Record.message_entry? (Option.mem_toList.1 made) with text | fixed
    · have short := record.payload.utf8ByteSize_toString_le
      rw [← text, same] at short
      exact absurd short (by decide)
    · rw [same] at fixed
      exact absurd fixed (by decide)

end Drain

/-- A pass leaves no loss untold. -/
theorem Drain.unreported_passed (d : Drain) (records : List Record) (r : Ring) :
    (d.passed records r).drain.unreported r = 0 := by
  have before := d.toNat_unreported r
  have limit := r.lost.toNat_lt
  have small := d.reportedLost.toNat_lt
  have sum : (d.reportedLost + d.unreported r).toNat =
      d.reportedLost.toNat + (d.unreported r).toNat := by
    rw [UInt64.toNat_add, Nat.mod_eq_of_lt (by omega)]
  rw [← UInt64.toNat_inj, toNat_unreported, passed, sum, UInt64.toNat_zero]
  omega

namespace Drain.Watch

variable {capacity released : Nat} {records : List Record} {w : Watch}

/-- A drain that took all there is, and told of all losses. -/
structure Idle (capacity : Nat) (records : List Record) (released : Nat) (w : Watch) : Prop where
  rest : Ring.AtRest capacity records released w.ring
  read : w.ring.consumer.tail.toNat = records.length
  reported : w.drain.unreported w.ring = 0

theorem Idle.lost_le (idle : w.Idle capacity records released) :
    w.ring.lost ≤ w.drain.reportedLost := by
  have reported := w.drain.toNat_unreported w.ring
  rw [idle.reported, UInt64.toNat_zero] at reported
  rw [UInt64.le_iff_toNat_le]
  omega

theorem Idle.counted (idle : w.Idle capacity records released) :
    released + w.ring.lost.toNat = records.length := by
  rw [← idle.read]
  exact idle.rest.rests.counted.symm

/-- What became of a drain that took the records `drained` and slept `naps` times. -/
structure Advanced (interval : Duration) (drained : List Record) (naps : Nat)
    (before after : Watch) : Prop where
  told : told after.log = told before.log ++ entries before.drain.lastTimestamp drained
  last : after.drain.lastTimestamp =
    (drained.getLast?.map (·.timestamp)).or before.drain.lastTimestamp
  sleeps : after.clock.sleeps.toNat = (before.clock.sleeps.toNat + naps) % 2 ^ 64
  now : after.clock.now.toNat =
    (before.clock.now.toNat + naps * interval.nanoseconds) % 2 ^ 64

theorem Advanced.trans {interval : Duration} {drained more : List Record} {naps later : Nat}
    {before between after : Watch} (first : Advanced interval drained naps before between)
    (second : Advanced interval more later between after) :
    Advanced interval (drained ++ more) (naps + later) before after := by
  refine ⟨?_, ?_, ?_, ?_⟩
  · rw [second.told, first.told, first.last, entries_append, List.append_assoc]
  · rw [second.last, first.last, ← Option.or_assoc, ← Option.map_or, ← List.getLast?_append]
  · rw [second.sleeps, first.sleeps, Nat.mod_add_mod, Nat.add_assoc]
  · rw [second.now, first.now, Nat.mod_add_mod, Nat.add_assoc, Nat.add_mul]

/-- What a pass finds: the newest of the records that were not taken yet. -/
def found (capacity : Nat) (records : List Record) (r : Ring) : List Record :=
  (records.drop r.consumer.tail.toNat).rtake capacity

theorem look_eq_ok (interval : Duration) (pos : 0 < capacity) (fits : capacity < 2 ^ 64)
    (rest : Ring.AtRest capacity records released w.ring) :
    ∃ after, w.look = .ok ((found capacity records w.ring).length, after) ∧
      after.feed = w.feed ∧ after.stopped = w.stopped ∧
      after.Idle capacity records (released + (found capacity records w.ring).length) ∧
      Advanced interval (found capacity records w.ring) 0 w after := by
  obtain ⟨ring, passed, read, rest'⟩ := rest.pass pos fits w.drain
  have below := rest.tail_le
  have kept : records.drop (w.ring.oldest capacity records) = found capacity records w.ring := by
    rw [found, List.rtake, List.drop_drop, List.length_drop, Ring.oldest]
    congr 1
    omega
  have length : records.length - w.ring.oldest capacity records =
      (found capacity records w.ring).length := by
    rw [← kept, List.length_drop]
  rw [kept] at passed
  rw [length] at rest'
  let p := w.drain.passed (found capacity records w.ring) ring
  refine ⟨{ w with drain := p.drain, ring, log := w.log ++ p.log }, ?_, rfl, rfl,
    ⟨rest', read, w.drain.unreported_passed _ ring⟩, ⟨?_, rfl, ?_, ?_⟩⟩
  · rw [look, passed]
    rfl
  · simp only [p, Drain.passed]
    rw [told_append, told_append, told_entries, told_warnings, List.append_nil]
  · exact (Nat.mod_eq_of_lt w.clock.sleeps.toNat_lt).symm
  · rw [Nat.zero_mul]
    exact (Nat.mod_eq_of_lt w.clock.now.toNat_lt).symm

/-- A drain with nothing to do stays as it is. -/
theorem Idle.look (idle : w.Idle capacity records released) (pos : 0 < capacity) :
    w.look = .ok (0, w) := by
  have took : w.ring.takeUpTo w.ring.capacity = .ok ([], w.ring) := by
    obtain ⟨limit, room⟩ := Nat.exists_eq_succ_of_ne_zero (Nat.ne_of_gt (idle.rest.size ▸ pos))
    rw [room]
    simp only [Ring.takeUpTo, idle.rest.take_empty idle.read.symm]
  have passed := w.drain.pass_eq_ok took
  rw [Drain.passed, idle.reported, UInt64.add_zero] at passed
  rw [Watch.look, passed]
  simp only [List.map_nil, entries, warnings, if_true, bind, Except.bind, List.append_nil]
  rfl

/-- In a sleep a batch is published, and the stop flag is raised if it is time. -/
theorem Idle.nap (idle : w.Idle capacity records released) (pos : 0 < capacity)
    (interval : Duration) (stopAfter : UInt64)
    (few : (records ++ w.feed.headD []).length < 2 ^ 64) :
    ∃ after, w.nap interval stopAfter = .ok after ∧ after.feed = w.feed.tail ∧
      after.stopped = (w.stopped || stopAfter ≤ w.clock.sleeps + 1) ∧
      after.ring.consumer.tail.toNat = records.length ∧
      Ring.AtRest capacity (records ++ w.feed.headD []) released after.ring ∧
      Advanced interval [] 1 w after := by
  obtain ⟨ring, published, consumer, rest⟩ := idle.rest.publishAll pos (w.feed.headD []) few
  let clock := w.clock.sleep interval
  refine ⟨{ w with
      ring, clock, feed := w.feed.tail, stopped := w.stopped || stopAfter ≤ clock.sleeps },
    ?_, rfl, rfl, ?_, rest, ⟨?_, rfl, ?_, ?_⟩⟩
  · rw [Watch.nap, published]
    rfl
  · simp only [consumer, idle.read]
  · exact (List.append_nil _).symm
  · exact UInt64.toNat_add _ _
  · rw [Nat.one_mul]
    exact (UInt64.toNat_add _ _).trans (Nat.add_mod_mod _ _ _)

/-- A drain that is not stopped comes to a sleep after one or two passes. -/
theorem run_eq_nap (interval : Duration) (stopAfter : UInt64) (pos : 0 < capacity)
    (fits : capacity < 2 ^ 64) (rest : Ring.AtRest capacity records released w.ring)
    (going : w.stopped = false) {passes : Nat} (enough : 2 ≤ passes) :
    ∃ idle left, passes ≤ left + 2 ∧ idle.feed = w.feed ∧ idle.stopped = false ∧
      idle.Idle capacity records (released + (found capacity records w.ring).length) ∧
      Advanced interval (found capacity records w.ring) 0 w idle ∧
      run interval stopAfter passes w =
        (idle.nap interval stopAfter).bind (run interval stopAfter left) := by
  obtain ⟨idle, looked, feed, stopped, empty, advanced⟩ := look_eq_ok interval pos fits rest
  obtain ⟨passes, rfl⟩ := Nat.exists_eq_add_of_le' enough
  rw [going] at stopped
  by_cases none : (found capacity records w.ring).length = 0
  · refine ⟨idle, passes + 1, Nat.le_succ _, feed, stopped, empty, advanced, ?_⟩
    rw [run, going, looked, none]
    rfl
  · refine ⟨idle, passes, Nat.le_refl _, feed, stopped, empty, advanced, ?_⟩
    have again : run interval stopAfter (passes + 2) w =
        run interval stopAfter (passes + 1) idle := by
      rw [run, going, looked]
      simp [bind, Except.bind, none]
    rw [again, run, stopped, empty.look pos]
    rfl

/-- When a drain is to stop: at once, or in the last of so many sleeps. -/
structure Stops (stopAfter : UInt64) (naps : Nat) (w : Watch) : Prop where
  stopped : w.stopped = true ↔ naps = 0
  left : naps ≠ 0 → w.clock.sleeps.toNat + naps = max 1 stopAfter.toNat

def napsToStop (stopped : Bool) (stopAfter : UInt64) : Nat :=
  if stopped then 0 else max 1 stopAfter.toNat

theorem stops_start (stopAfter : UInt64) (fresh : w.clock.sleeps = 0) :
    w.Stops stopAfter (napsToStop w.stopped stopAfter) := by
  rw [napsToStop]
  refine ⟨?_, fun more => ?_⟩
  · cases w.stopped
    · simp
    · simp
  · cases stopped : w.stopped
    · rw [fresh]
      exact Nat.zero_add _
    · rw [stopped] at more
      exact absurd rfl more

theorem two_mul_napsToStop_le (stopped : Bool) (stopAfter : UInt64) :
    2 * napsToStop stopped stopAfter ≤ enoughPasses stopAfter := by
  rw [napsToStop, enoughPasses]
  cases stopped
  · exact Nat.le_refl _
  · exact Nat.zero_le _

theorem napsToStop_lt (stopped : Bool) (stopAfter : UInt64) :
    napsToStop stopped stopAfter < 2 ^ 64 := by
  have limit := stopAfter.toNat_lt
  rw [napsToStop]
  split <;> omega

theorem Stops.going {stopAfter : UInt64} {naps : Nat} (stops : w.Stops stopAfter (naps + 1)) :
    w.stopped = false :=
  Bool.eq_false_iff.2 fun stopped => Nat.succ_ne_zero naps (stops.stopped.1 stopped)

/-- A sleep that raises the stop flag is the last one. -/
theorem Stops.nap {stopAfter : UInt64} {naps : Nat} (stops : w.Stops stopAfter (naps + 1))
    {after : Watch} (sleeps : after.clock.sleeps.toNat = w.clock.sleeps.toNat + 1)
    (stopped : after.stopped = true ↔ stopAfter.toNat ≤ w.clock.sleeps.toNat + 1) :
    after.Stops stopAfter naps := by
  have left := stops.left (Nat.succ_ne_zero naps)
  refine ⟨stopped.trans ?_, fun more => ?_⟩ <;> omega

/-- One round: a drain takes what there is and sleeps once. -/
theorem run_eq_run (interval : Duration) {stopAfter : UInt64} (pos : 0 < capacity)
    (fits : capacity < 2 ^ 64) (rest : Ring.AtRest capacity records released w.ring) {naps : Nat}
    (stops : w.Stops stopAfter (naps + 1)) {passes : Nat} (enough : 2 * (naps + 1) ≤ passes)
    (few : (records ++ w.feed.headD []).length < 2 ^ 64) :
    ∃ next left, run interval stopAfter passes w = run interval stopAfter left next ∧
      2 * naps ≤ left ∧ next.feed = w.feed.tail ∧ next.Stops stopAfter naps ∧
      found capacity (records ++ w.feed.headD []) next.ring =
        (w.feed.headD []).rtake capacity ∧
      Ring.AtRest capacity (records ++ w.feed.headD [])
        (released + (found capacity records w.ring).length) next.ring ∧
      Advanced interval (found capacity records w.ring) 1 w next := by
  obtain ⟨idle, left, room, feed, going, empty, first, ran⟩ :=
    run_eq_nap interval stopAfter pos fits rest stops.going (show 2 ≤ passes by omega)
  rw [← feed] at few ⊢
  obtain ⟨next, napped, fed, stopped, tail, rest', second⟩ := empty.nap pos interval stopAfter few
  have same : idle.clock.sleeps = w.clock.sleeps :=
    UInt64.toNat_inj.1 (first.sleeps.trans (Nat.mod_eq_of_lt w.clock.sleeps.toNat_lt))
  have sleeps : (w.clock.sleeps + 1).toNat = w.clock.sleeps.toNat + 1 := by
    have limit := stopAfter.toNat_lt
    have last := stops.left (Nat.succ_ne_zero naps)
    rw [UInt64.toNat_add, UInt64.toNat_one]
    omega
  refine ⟨next, left, ?_, by omega, fed, stops.nap ?_ ?_, ?_, rest', ?_⟩
  · rw [ran, napped]
    rfl
  · rw [second.sleeps, same, ← sleeps, Nat.mod_eq_of_lt (UInt64.toNat_lt _)]
  · rw [stopped, going, same, Bool.false_or, decide_eq_true_iff, UInt64.le_iff_toNat_le, sleeps]
  · rw [found, tail, List.drop_left]
  · simpa only [List.append_nil, Nat.zero_add] using first.trans second

/-- A batch is published in every sleep, if the feed still has one. -/
theorem take_feed {β : Type} (f : List Record → List β) (empty : f [] = [])
    (feed : List (List Record)) (naps : Nat) :
    (feed.take (naps + 1)).flatMap f = f (feed.headD []) ++ (feed.tail.take naps).flatMap f := by
  cases feed <;> simp [empty]

/-- A drain runs until it is stopped, and then drains what was published last. -/
theorem run_eq_ok (interval : Duration) {stopAfter : UInt64} (pos : 0 < capacity)
    (fits : capacity < 2 ^ 64) (rest : Ring.AtRest capacity records released w.ring) {naps : Nat}
    (stops : w.Stops stopAfter naps) {passes : Nat} (enough : 2 * naps ≤ passes)
    (few : (records ++ (w.feed.take naps).flatMap id).length < 2 ^ 64) :
    let drained := found capacity records w.ring ++ (w.feed.take naps).flatMap (·.rtake capacity)
    ∃ after, run interval stopAfter passes w = .ok (some after) ∧
      after.Idle capacity (records ++ (w.feed.take naps).flatMap id) (released + drained.length) ∧
      Advanced interval drained naps w after := by
  induction naps generalizing w records released passes with
  | zero =>
    obtain ⟨after, looked, -, -, idle, advanced⟩ := look_eq_ok interval pos fits rest
    refine ⟨after, ?_, ?_, ?_⟩
    · rw [run.eq_def]
      simp only [stops.stopped.2 rfl, looked]
      rfl
    · simpa using idle
    · simpa using advanced
  | succ naps ih =>
    rw [take_feed (·.rtake capacity) (List.rtake_nil capacity)]
    rw [take_feed id rfl, id] at few ⊢
    rw [← List.append_assoc] at few
    obtain ⟨next, left, ran, enough, fed, stops, batch, rest', first⟩ :=
      run_eq_run interval pos fits rest stops enough (Nat.lt_of_le_of_lt (by simp) few)
    rw [← fed] at few ⊢
    obtain ⟨after, ran', idle, second⟩ := ih rest' stops enough few
    rw [batch] at idle second
    refine ⟨after, ran.trans ran', ?_, ?_⟩
    · rwa [List.append_assoc, Nat.add_assoc, ← List.length_append] at idle
    · rw [Nat.add_comm]
      exact first.trans second

/-- There are not enough numbers for what is published. -/
theorem run_eq_error (interval : Duration) {stopAfter : UInt64} (pos : 0 < capacity)
    (fits : capacity < 2 ^ 64) (rest : Ring.AtRest capacity records released w.ring) {naps : Nat}
    (stops : w.Stops stopAfter naps) {passes : Nat} (enough : 2 * naps ≤ passes)
    (few : records.length < 2 ^ 64)
    (many : 2 ^ 64 ≤ (records ++ (w.feed.take naps).flatMap id).length) :
    run interval stopAfter passes w = .error (.overflow .add) := by
  induction naps generalizing w records released passes with
  | zero =>
    rw [List.take_zero, List.flatMap_nil, List.append_nil] at many
    omega
  | succ naps ih =>
    rw [take_feed id rfl, id, ← List.append_assoc] at many
    by_cases more : (records ++ w.feed.headD []).length < 2 ^ 64
    · obtain ⟨next, left, ran, enough, fed, stops, -, rest', -⟩ :=
        run_eq_run interval pos fits rest stops enough more
      rw [ran]
      exact ih rest' stops enough more (fed ▸ many)
    · obtain ⟨idle, left, -, feed, -, empty, -, ran⟩ :=
        run_eq_nap interval stopAfter pos fits rest stops.going (show 2 ≤ passes by omega)
      have full := empty.rest.publishAll_full pos _ few (Nat.le_of_not_lt more)
      rw [ran, Watch.nap, feed, full]
      rfl

theorem flatMap_rtake_sublist (capacity : Nat) (batches : List (List Record)) :
    (batches.flatMap (·.rtake capacity)).Sublist batches.flatten := by
  induction batches with
  | nil => exact List.Sublist.slnil
  | cons batch batches ih =>
    rw [List.flatMap_cons, List.flatten_cons, List.rtake]
    exact (List.drop_sublist _ _).append ih

/-- When a drain stops, the ring is empty, and every record was taken or counted as lost. What was
taken is logged in order. -/
theorem nothing_left {capacity : Nat} (two : 2 ≤ capacity)
    (fits : Slot.bytes * capacity ≤ largestObject) :
    ∃ ring, Ring.ofCapacity capacity = .ok ring ∧
      ∀ (before : List Ring.Act) (drain : Drain) (now bound : UInt64) (interval : Duration)
          (feed : List (List Record)) (stopped : Bool),
        (Ring.published before).length < 2 ^ 64 →
        let l := Ring.Ledger.run ring before
        let w : Watch := { drain, ring := l.ring, clock := { now }, feed, stopped }
        let naps := napsToStop stopped bound
        let batches := feed.take naps
        let records := Ring.published before ++ batches.flatten
        let unread := (Ring.published before).drop (l.released + l.ring.lost.toNat)
        let drained := (unread :: batches).flatMap (·.rtake capacity)
        ∀ passes, enoughPasses bound ≤ passes →
          (records.length < 2 ^ 64 → ∃ after, w.run interval bound passes = .ok (some after) ∧
            after.clock.sleeps.toNat = naps ∧
            after.clock.now.toNat = (now.toNat + naps * interval.nanoseconds) % 2 ^ 64 ∧
            (after.ring.isEmpty = true ∧ after.ring.take.1 = .ok none) ∧
            drained.Sublist (unread ++ batches.flatten) ∧
            told after.log = rendered drain.lastTimestamp drained ∧
            (told after.log).length = drained.countP (·.kind != .done) ∧
            l.released + drained.length + after.ring.lost.toNat = records.length ∧
            after.ring.lost ≤ after.drain.reportedLost) ∧
          (2 ^ 64 ≤ records.length → w.run interval bound passes = .error (.overflow .add)) := by
  have pos : 0 < capacity := by omega
  have small : capacity < 2 ^ 64 := by
    simp only [Slot.bytes, textWords, largestObject] at fits
    omega
  refine ⟨{ shared := { slots := Array.replicate capacity .empty } }, ?_, ?_⟩
  · rw [Ring.ofCapacity, if_pos two, zeroed_eq_ok fits]
    rfl
  intro before drain now bound interval feed stopped numbered l w naps batches records unread
    drained passes enough
  have fresh := Ring.Ledger.balanced_start (Array.replicate capacity .empty) Array.size_replicate
  have rest := (Ring.Ledger.balanced_run pos small fresh before numbered).rest
  have stops : w.Stops bound naps := stops_start (w := w) bound rfl
  have enough := Nat.le_trans (two_mul_napsToStop_le stopped bound) enough
  have first : found capacity (Ring.published before) w.ring = unread.rtake capacity := by
    rw [found, rest.rests.counted]
    rfl
  refine ⟨fun few => ?_, fun many => ?_⟩
  · obtain ⟨after, ran, idle, advanced⟩ : ∃ after, w.run interval bound passes = .ok (some after) ∧
        after.Idle capacity records (l.released + drained.length) ∧
        Advanced interval drained naps w after := by
      have ends := run_eq_ok interval pos small rest stops enough (List.flatMap_id ▸ few)
      rw [first, List.flatMap_id] at ends
      exact ends
    have logged : told after.log = entries drain.lastTimestamp drained :=
      advanced.told.trans (List.nil_append _)
    refine ⟨after, ran, ?_, advanced.now,
      ⟨idle.rest.isEmpty idle.read.symm, congrArg Prod.fst (idle.rest.take_empty idle.read.symm)⟩,
      flatMap_rtake_sublist capacity _, logged.trans (entries_eq _ _), ?_, idle.counted,
      idle.lost_le⟩
    · rw [advanced.sleeps, UInt64.toNat_zero, Nat.zero_add]
      exact Nat.mod_eq_of_lt (napsToStop_lt stopped bound)
    · rw [logged, length_entries]
  · exact run_eq_error interval pos small rest stops enough numbered (List.flatMap_id ▸ many)

/-- Three records for two slots in the first sleep and one more in the second, which is the last. -/
theorem nothing_left_lapped :
    ∃ ring, Ring.ofCapacity 2 = .ok ring ∧
      let sector (n : UInt64) : Record := .of .readSector "Read sector" n (100 * n)
      let before : List Ring.Act := [.publish (sector 1), .take, .publish (.of .done "" 0 150)]
      let l := Ring.Ledger.run ring before
      let feed := [[sector 2, sector 3, sector 4], [sector 5], [sector 6]]
      let w : Watch :=
        { drain := {}, ring := l.ring, clock := { now := 5 }, feed, stopped := false }
      ∃ after, w.run ⟨1000⟩ 2 4 = .ok (some after) ∧ after.clock.sleeps = 2 ∧
        after.clock.now = 2005 ∧ after.ring.isEmpty = true ∧ after.ring.lost = 1 ∧
        (told after.log).length = 4 := by
  obtain ⟨ring, made, nothing⟩ := nothing_left (Nat.le_refl 2) (by decide)
  refine ⟨ring, made, ?_⟩
  intro sector before l feed w
  cases made
  obtain ⟨after, ran, sleeps, now, ⟨empty, -⟩, -, -, logged, balance, -⟩ :=
    (nothing before {} 5 2 ⟨1000⟩ feed false (by decide) 4 (by decide)).1 (by decide +kernel)
  have lost : after.ring.lost.toNat = 1 := Nat.add_left_cancel (balance.trans (by decide +kernel))
  exact ⟨after, ran, UInt64.toNat_inj.1 sleeps, UInt64.toNat_inj.1 now, empty,
    UInt64.toNat_inj.1 lost, logged.trans (by decide +kernel)⟩

end Drain.Watch
end SdBridge.Event
