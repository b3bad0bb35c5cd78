import Mathlib.Data.List.DropRight
import Mathlib.Data.List.Induction
import SdBridge.Proofs.Event.Drain

/-!
A ring that is filled and drained in turns. Every record that is published comes out of exactly one
pass of the drain, or is counted as lost by exactly one: the pass that follows its publication.
-/
namespace SdBridge.Event

structure Telemetry where
  ring : Ring
  drain : Drain := {}
  passes : List Drain.Pass := []
  faults : List Fault := []

namespace Telemetry

inductive Act where
  | publish (record : Record)
  | pass

def Act.record? : Act → Option Record
  | .publish record => some record
  | .pass => none

def published (acts : List Act) : List Record := acts.filterMap Act.record?

/-- The records published before the last pass. -/
def settled (acts : List Act) : List Record :=
  published (acts.rdropWhile fun act => act.record?.isSome)

/-- The records published since the last pass. -/
def unseen (acts : List Act) : List Record :=
  published (acts.rtakeWhile fun act => act.record?.isSome)

def act (t : Telemetry) : Act → Telemetry
  | .publish record =>
    match t.ring.publish record with
    | (.ok (), ring) => { t with ring }
    | (.error fault, ring) => { t with ring, faults := t.faults ++ [fault] }
  | .pass =>
    match t.drain.pass t.ring with
    | .ok pass => { t with ring := pass.ring, drain := pass.drain, passes := t.passes ++ [pass] }
    | .error fault => { t with faults := t.faults ++ [fault] }

def run (ring : Ring) (acts : List Act) : Telemetry := acts.foldl act { ring }

def drained (passes : List Drain.Pass) : Nat := (passes.map (·.stats.records)).sum

def losses (passes : List Drain.Pass) : Nat := (passes.map (·.stats.lost.toNat)).sum

theorem drained_append (passes : List Drain.Pass) (p : Drain.Pass) :
    drained (passes ++ [p]) = drained passes + p.stats.records := by
  simp [drained]

theorem losses_append (passes : List Drain.Pass) (p : Drain.Pass) :
    losses (passes ++ [p]) = losses passes + p.stats.lost.toNat := by
  simp [losses]

/-- What a pass owes, by the records published before and after the pass before it, and by the
losses told so far. -/
structure Settles (capacity : Nat) (settled unseen : List Record) (told : Nat) (p : Drain.Pass) :
    Prop where
  records : p.stats.records = min unseen.length capacity
  lost : p.stats.lost.toNat = unseen.length - min unseen.length capacity
  empty : p.ring.isEmpty = true ∧ p.ring.take.1 = .ok none
  /-- The newest records, as many as the ring can hold, and a warning if some are lost. -/
  log : p.log = rendered (settled.getLast?.map (·.timestamp)) (unseen.rtake capacity) ++
    if p.stats.lost = 0 then []
    else [⟨.warn, "telemetry records overwritten before they were read",
      [("lost", .number p.stats.lost), ("total", .number p.ring.lost)]⟩]
  entries : p.log.length = (unseen.rtake capacity).countP (·.kind != .done) +
    if p.stats.lost = 0 then 0 else 1
  total : p.ring.lost.toNat = told + p.stats.lost.toNat

section Acts

variable (acts : List Act)

theorem run_append (ring : Ring) (act : Act) : run ring (acts ++ [act]) = (run ring acts).act act := by
  simp [run, List.foldl_append]

theorem settled_append_unseen : settled acts ++ unseen acts = published acts := by
  rw [settled, unseen, published, published, published, ← List.filterMap_append,
    List.rdropWhile_append_rtakeWhile]

theorem published_append (act : Act) :
    published (acts ++ [act]) = published acts ++ act.record?.toList := by
  cases act <;> simp [published, Act.record?]

theorem settled_publish (record : Record) : settled (acts ++ [.publish record]) = settled acts := by
  rw [settled, List.rdropWhile_concat_pos _ _ _ rfl, settled]

theorem settled_pass : settled (acts ++ [.pass]) = published acts := by
  rw [settled, List.rdropWhile_concat_neg _ _ _ (by simp [Act.record?]), published_append]
  simp [Act.record?]

end Acts

structure Conserved (capacity : Nat) (acts : List Act) (t : Telemetry) : Prop where
  rest : Ring.AtRest capacity (published acts) (drained t.passes) t.ring
  read : t.ring.consumer.tail.toNat = (settled acts).length
  reported : t.drain.reportedLost = t.ring.lost
  lost : t.ring.lost.toNat = losses t.passes
  last : t.drain.lastTimestamp = (settled acts).getLast?.map (·.timestamp)
  faults : t.faults = []

variable {capacity : Nat} {acts : List Act} {t : Telemetry}

theorem Conserved.publish (conserved : t.Conserved capacity acts) (pos : 0 < capacity)
    {record : Record} (few : (published (acts ++ [.publish record])).length < 2 ^ 64) :
    (t.act (.publish record)).Conserved capacity (acts ++ [.publish record]) := by
  have more : published (acts ++ [.publish record]) = published acts ++ [record] :=
    published_append acts _
  rw [more] at few
  obtain ⟨after, published, consumer, rest⟩ := conserved.rest.publish pos record few
  have lost : after.lost = t.ring.lost := congrArg Ring.Consumer.lost consumer
  simp only [act, published]
  refine ⟨more ▸ rest, ?_, ?_, ?_, ?_, conserved.faults⟩
  · rw [settled_publish, consumer, conserved.read]
  · rw [lost, conserved.reported]
  · rw [lost, conserved.lost]
  · rw [settled_publish, conserved.last]

/-- The records that a pass finds end with the last one of all, if there are any since the last
pass. -/
theorem getLast?_published (pos : 0 < capacity) (acts : List Act) :
    (published acts).getLast? = ((unseen acts).rtake capacity).getLast?.or (settled acts).getLast? := by
  rw [← settled_append_unseen acts, List.getLast?_append, List.rtake, List.getLast?_drop]
  by_cases none : unseen acts = []
  · simp [none]
  · have some := List.length_pos_iff.2 none
    rw [if_neg (by omega)]

/-- A pass finds the records since the last pass, or the newest of them. The numbers balance before
and after it, which leaves only one value for the losses. -/
theorem Conserved.found (conserved : t.Conserved capacity acts) (pos : 0 < capacity)
    (fits : capacity < 2 ^ 64) :
    ∃ after, t.drain.pass t.ring = .ok (t.drain.passed ((unseen acts).rtake capacity) after) ∧
      after.consumer.tail.toNat = (published acts).length ∧
      after.lost.toNat =
        t.ring.lost.toNat + ((unseen acts).length - min (unseen acts).length capacity) ∧
      Ring.AtRest capacity (published acts)
        (drained t.passes + min (unseen acts).length capacity) after := by
  have split := settled_append_unseen acts
  have length := congrArg List.length split
  rw [List.length_append] at length
  have oldest : t.ring.oldest capacity (published acts) =
      (settled acts).length + ((unseen acts).length - capacity) := by
    rw [Ring.oldest, conserved.read, ← length]
    omega
  obtain ⟨after, passed, read, rest⟩ := conserved.rest.pass pos fits t.drain
  have taken : (published acts).length - t.ring.oldest capacity (published acts) =
      min (unseen acts).length capacity := by
    omega
  rw [oldest, ← split, List.drop_length_add_append, ← List.rtake] at passed
  rw [taken] at rest
  refine ⟨after, passed, read, ?_, rest⟩
  have before := conserved.rest.rests.counted
  have behind := rest.rests.counted
  rw [conserved.read] at before
  rw [read] at behind
  simp only [Ring.lost]
  omega

theorem Conserved.pass (conserved : t.Conserved capacity acts) (pos : 0 < capacity)
    (fits : capacity < 2 ^ 64) :
    ∃ p, t.act .pass =
        { t with ring := p.ring, drain := p.drain, passes := t.passes ++ [p] } ∧
      Settles capacity (settled acts) (unseen acts) (losses t.passes) p ∧
      (t.act .pass).Conserved capacity (acts ++ [.pass]) := by
  have same : published (acts ++ [.pass]) = published acts := by
    rw [published_append]
    exact List.append_nil _
  obtain ⟨after, passed, read, lost, rest⟩ := conserved.found pos fits
  have unreported : (t.drain.unreported after).toNat =
      (unseen acts).length - min (unseen acts).length capacity := by
    rw [Drain.toNat_unreported, conserved.reported]
    omega
  have told : t.drain.reportedLost + t.drain.unreported after = after.lost := by
    have limit := after.lost.toNat_lt
    rw [← UInt64.toNat_inj, UInt64.toNat_add, unreported, conserved.reported]
    omega
  have taken : ((unseen acts).rtake capacity).length = min (unseen acts).length capacity := by
    rw [List.rtake, List.length_drop]
    omega
  refine ⟨t.drain.passed ((unseen acts).rtake capacity) after, ?_,
    ⟨taken, unreported, ⟨rest.isEmpty read.symm, ?_⟩, ?_, ?_, ?_⟩, ?_⟩
  · simp only [act, passed]
  · exact congrArg Prod.fst (rest.take_empty read.symm)
  · simp only [Drain.passed, entries_eq, conserved.last, Drain.warnings, Drain.lossWarning]
  · rw [Drain.passed, List.length_append, length_entries, Drain.length_warnings]
  · simp only [Drain.passed, unreported, lost, conserved.lost]
  · simp only [act, passed]
    refine ⟨?_, ?_, told, ?_, ?_, conserved.faults⟩
    · rw [same, drained_append, Drain.passed, taken]
      exact rest
    · rw [settled_pass, Drain.passed, read]
    · simp only [losses_append, Drain.passed, unreported, lost, conserved.lost]
    · rw [Drain.passed]
      dsimp only
      rw [settled_pass, getLast?_published pos, conserved.last, Option.map_or]

theorem conserved_start (slots : Array Slot) (size : slots.size = capacity) :
    Conserved capacity [] { ring := { shared := { slots } } } := by
  have balanced := Ring.Ledger.balanced_start slots size
  exact ⟨balanced.rest, rfl, rfl, rfl, rfl, rfl⟩

theorem conserved_run {ring : Ring} (pos : 0 < capacity) (fits : capacity < 2 ^ 64)
    (fresh : Conserved capacity [] { ring }) (acts : List Act)
    (few : (published acts).length < 2 ^ 64) : (run ring acts).Conserved capacity acts := by
  induction acts using List.reverseRecOn with
  | nil => exact fresh
  | append_singleton acts act ih =>
    have more := congrArg List.length (published_append acts act)
    rw [List.length_append] at more
    have before := ih (by omega)
    rw [run_append]
    cases act with
    | publish record => exact before.publish pos few
    | pass =>
      obtain ⟨p, -, -, after⟩ := before.pass pos fits
      exact after

theorem faults_act (t : Telemetry) (act : Act) : t.faults <+: (t.act act).faults := by
  cases act with
  | publish record =>
    simp only [Telemetry.act]
    split
    · exact List.prefix_rfl
    · exact List.prefix_append _ _
  | pass =>
    simp only [Telemetry.act]
    split
    · exact List.prefix_rfl
    · exact List.prefix_append _ _

/-- The last number is never given to a record. -/
theorem faults_of_many {ring : Ring} (pos : 0 < capacity) (fits : capacity < 2 ^ 64)
    (fresh : Conserved capacity [] { ring }) (acts : List Act)
    (many : 2 ^ 64 ≤ (published acts).length) : .overflow .add ∈ (run ring acts).faults := by
  induction acts using List.reverseRecOn with
  | nil => exact absurd many (by decide)
  | append_singleton acts act ih =>
    rw [run_append]
    by_cases before : 2 ^ 64 ≤ (published acts).length
    · exact (faults_act _ act).subset (ih before)
    · have conserved := conserved_run pos fits fresh acts (Nat.lt_of_not_le before)
      rw [published_append, List.length_append] at many
      cases act with
      | pass => exact absurd many before
      | publish record =>
        have full : 2 ^ 64 ≤ (run ring acts).ring.head.toNat + 1 := by
          rw [conserved.rest.head]
          exact many
        simp only [Telemetry.act, Ring.publish_eq_error full, List.mem_append, List.mem_singleton,
          or_true]

/-- Every record is drained once, or counted as lost once, by the pass that follows it. -/
theorem records_conserved {capacity : Nat} (two : 2 ≤ capacity)
    (fits : Slot.bytes * capacity ≤ largestObject) :
    ∃ ring, Ring.ofCapacity capacity = .ok ring ∧
      ∀ acts : List Act,
        let t := run ring acts
        (t.faults = [] ↔ (published acts).length < 2 ^ 64) ∧
        (t.faults = [] →
          drained t.passes + losses t.passes = (settled acts).length ∧
          settled acts ++ unseen acts = published acts ∧
          ∃ p, run ring (acts ++ [.pass]) =
              { ring := p.ring, drain := p.drain, passes := t.passes ++ [p], faults := [] } ∧
            Settles capacity (settled acts) (unseen acts) (losses t.passes) p) := by
  have pos : 0 < capacity := by omega
  have small : capacity < 2 ^ 64 := by
    simp only [Slot.bytes, textWords, largestObject] at fits
    omega
  refine ⟨{ shared := { slots := Array.replicate capacity .empty } }, ?_, ?_⟩
  · rw [Ring.ofCapacity, if_pos two, zeroed_eq_ok fits]
    rfl
  intro acts t
  have fresh := conserved_start (Array.replicate capacity .empty) Array.size_replicate
  have few : t.faults = [] ↔ (published acts).length < 2 ^ 64 := by
    refine ⟨fun none => ?_, fun few => (conserved_run pos small fresh acts few).faults⟩
    by_contra many
    have fault := faults_of_many pos small fresh acts (Nat.le_of_not_lt many)
    rw [none] at fault
    cases fault
  refine ⟨few, fun none => ?_⟩
  have conserved := conserved_run pos small fresh acts (few.1 none)
  have counted := conserved.rest.rests.counted
  rw [conserved.read] at counted
  obtain ⟨p, passed, settles, -⟩ := conserved.pass pos small
  refine ⟨?_, settled_append_unseen acts, p, ?_, settles⟩
  · rw [counted, ← conserved.lost, Ring.lost]
  · rw [run_append, passed, conserved.faults]

/-- Four records for three slots, one for an empty ring, and again four, of which one is not told. -/
theorem records_conserved_lapped :
    ∃ ring, Ring.ofCapacity 3 = .ok ring ∧
      let sector (n : UInt64) : Act := .publish (.of .readSector "Read sector" n (100 * n))
      let acts : List Act := [sector 1, sector 2, sector 3, sector 4, .pass, sector 5, .pass,
        sector 6, sector 7, .publish (.of .done "" 0 750), sector 8]
      let t := run ring acts
      t.faults = [] ∧ drained t.passes + losses t.passes = 5 ∧
        ∃ p, (run ring (acts ++ [.pass])).passes = t.passes ++ [p] ∧ p.stats.records = 3 ∧
          p.stats.lost = 1 ∧ p.log.length = 3 ∧
          p.log.getLast? = some ⟨.warn, "telemetry records overwritten before they were read",
            [("lost", .number 1), ("total", .number 2)]⟩ := by
  obtain ⟨ring, made, conserved⟩ := records_conserved (Nat.le_add_right 2 1) (by decide)
  refine ⟨ring, made, ?_⟩
  intro sector acts t
  obtain ⟨few, rest⟩ := conserved acts
  have none := few.2 (by decide)
  obtain ⟨balance, -, p, passed, settles⟩ := rest none
  cases made
  have told : losses t.passes = 1 := by decide +kernel
  have lost : p.stats.lost = 1 := UInt64.toNat_inj.1 settles.lost
  have total : p.ring.lost = 2 := UInt64.toNat_inj.1 (by rw [settles.total, told, lost]; rfl)
  refine ⟨none, balance, p, by rw [passed], settles.records, lost, ?_, ?_⟩
  · rw [settles.entries, lost]
    decide +kernel
  · rw [settles.log, lost, total]
    exact List.getLast?_concat

end Telemetry
end SdBridge.Event
