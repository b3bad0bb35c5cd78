import SdBridge.Proofs.Bridge.Course
import SdBridge.Proofs.Bridge.Notice
import SdBridge.Rehearsal.Engine

/-!
Events are told into the void. Whatever the size of the ring, whatever is in it and whatever the
consumer does, and whatever the clock reads, the command loop does the same. Only the times that
events are published under depend on the clock.
-/
namespace SdBridge

def Event.Record.untimed (record : Event.Record) : Event.Record := { record with timestamp := 0 }

namespace Bridge

def Access.untimed : Access → Access
  | .publish record => .publish record.untimed
  | access => access

/-- Accesses of the command loop, all but those to the clock and the ring. -/
def Timeless : Access → Prop
  | .readRegister _ | .writeRegister _ _ | .setInFlight _ | .dispatch _ _ | .takeBlockRequest => True
  | _ => False

/-- Programs that differ in nothing but the times that they publish under, even if their clocks
differ. -/
inductive Alike {α : Type} : Loop α → Loop α → Prop where
  | done (a : α) : Alike (.done a) (.done a)
  | fail (fault : Fault) : Alike (.fail fault) (.fail fault)
  | timeless {access : Access} {next next' : Access.Answer access → Loop α} (kind : Timeless access)
      (rest : ∀ answer, Alike (next answer) (next' answer)) :
      Alike (.call access next) (.call access next')
  | clock {next next' : UInt64 → Loop α} (rest : ∀ time time', Alike (next time) (next' time')) :
      Alike (.call .clock next) (.call .clock next')
  | publish {record record' : Event.Record} {next next' : Unit → Loop α}
      (same : record'.untimed = record.untimed)
      (rest : ∀ answer, Alike (next answer) (next' answer)) :
      Alike (.call (.publish record) next) (.call (.publish record') next')

section Programs

variable {α γ : Type}

theorem alike_bind {p p' : Loop α} {k k' : α → Loop γ} (first : Alike p p')
    (rest : ∀ a, Alike (k a) (k' a)) : Alike (p >>= k) (p' >>= k') := by
  induction first with
  | done a => exact rest a
  | fail fault => exact .fail fault
  | timeless kind _ ih => exact .timeless kind ih
  | clock _ ih => exact .clock ih
  | publish same _ ih => exact .publish same ih

theorem alike_pure (a : α) : Alike (pure a) (pure a) := .done a

theorem alike_access {access : Access} (kind : Timeless access) :
    Alike (@Program.access _ Access.Answer access) (@Program.access _ Access.Answer access) :=
  .timeless kind fun answer => .done answer

theorem alike_readClock_bind {k k' : UInt64 → Loop γ}
    (rest : ∀ time time', Alike (k time) (k' time')) : Alike (Loop.readClock >>= k) (Loop.readClock >>= k') := .clock rest

theorem alike_publishAt (time time' : UInt64) (kind : Event.Kind) (text : String) (extra : UInt64) :
    Alike (Loop.publishAt time kind text extra) (Loop.publishAt time' kind text extra) :=
  .publish rfl fun _ => .done ()

theorem alike_tellAll (notices : List Notice) :
    Alike (Loop.tellAll notices) (Loop.tellAll notices) := by
  induction notices with
  | nil => exact alike_pure ()
  | cons n rest ih =>
    refine alike_bind (alike_readClock_bind fun time time' => ?_) fun _ => ih
    exact alike_publishAt time time' ..

theorem alike_writeAll (writes : List RegisterWrite) :
    Alike (Loop.writeAll writes) (Loop.writeAll writes) := by
  induction writes with
  | nil => exact alike_pure ()
  | cons w rest ih => exact alike_bind (alike_access trivial) fun _ => ih

end Programs

namespace Commander

theorem alike_report (seen seen' : UInt64) (status : StatusWord) (done : Exchange) (c : Commander) :
    Alike (c.report seen status done) (c.report seen' status done) := by
  rw [report_eq, report_eq]
  refine alike_bind (alike_access trivial) fun block => alike_bind ?_ fun _ =>
    alike_bind (alike_tellAll _) fun _ => alike_pure _
  cases done with
  | answered command length => exact alike_publishAt ..
  | rejected command why => exact alike_pure ()

theorem alike_serve (status : StatusWord) (c : Commander) :
    Alike (c.serve status) (c.serve status) := by
  refine alike_readClock_bind fun seen seen' => ?_
  refine alike_bind (alike_access trivial) fun argument => ?_
  refine alike_bind (alike_access trivial) fun _ => ?_
  refine alike_bind (alike_access trivial) fun (result, response) => ?_
  refine alike_bind (alike_access trivial) fun _ => ?_
  exact alike_bind (alike_writeAll _) fun _ => alike_report ..

theorem alike_idle (status : StatusWord) (c : Commander) :
    Alike (c.idle status) (c.idle status) := by
  rw [idle_eq]
  exact alike_bind (alike_writeAll _) fun _ => alike_bind (alike_tellAll _) fun _ => alike_pure _

/-- A pass of the command loop reads the clock for nothing but the times of events. -/
theorem alike_poll (c : Commander) : Alike c.poll c.poll := by
  rw [poll_eq_serve]
  refine alike_bind (alike_access trivial) fun word => ?_
  split
  · exact alike_serve ..
  · exact alike_idle ..

end Commander

section Simulation

variable {π : Type}

structure Matching (b b' : Bridge π) : Prop where
  registers : b'.registers = b.registers
  engine : b'.engine = b.engine

variable [Responder π] [ByteSource π] {b b' : Bridge π}

theorem Matching.perform (matching : Matching b b') {access : Access} (kind : Timeless access) :
    (perform access b').1 = (perform access b).1 ∧
      Matching (perform access b).2 (perform access b').2 := by
  obtain ⟨registers, engine⟩ := matching
  cases access with
  | readRegister offset | writeRegister offset value =>
    simp only [Bridge.perform, onRegisters, registers]
    exact ⟨trivial, rfl, engine⟩
  | setInFlight raised => exact ⟨rfl, registers, engine⟩
  | dispatch request response =>
    simp only [Bridge.perform, dispatched, engine]
    split <;> exact ⟨rfl, registers, rfl⟩
  | takeBlockRequest =>
    simp only [Bridge.perform, engine]
    exact ⟨trivial, registers, rfl⟩
  | _ => exact kind.elim

/-- What is the same in two runs of the command loop: all that the host and the engine can see, and
all that is published, whatever the times. -/
structure Indistinct {α : Type} (r r' : Except Fault α × Bridge π × List Access) : Prop where
  result : r'.1 = r.1
  bridge : Matching r.2.1 r'.2.1
  accesses : r'.2.2.map Access.untimed = r.2.2.map Access.untimed

theorem untimed_append {k k' : List Access} (same : k'.map Access.untimed = k.map Access.untimed)
    {access access' : Access} (like : access'.untimed = access.untimed) :
    (k' ++ [access']).map Access.untimed = (k ++ [access]).map Access.untimed := by
  rw [List.map_append, List.map_append, same, List.map_singleton, List.map_singleton, like]

/-- Alike programs run alike, as long as events have numbers. -/
theorem Alike.run {α : Type} {p p' : Loop α} (alike : Alike p p') (matching : Matching b b')
    {k k' : List Access} (same : k'.map Access.untimed = k.map Access.untimed)
    (room : (p.run transcribed (b, k)).2.1.ring.head.toNat + 1 < 2 ^ 64)
    (room' : (p'.run transcribed (b', k')).2.1.ring.head.toNat + 1 < 2 ^ 64) :
    Indistinct (p.run transcribed (b, k)) (p'.run transcribed (b', k')) := by
  induction alike generalizing b b' k k' with
  | done a => exact ⟨rfl, matching, same⟩
  | fail fault => exact ⟨rfl, matching, same⟩
  | @timeless access next next' kind _ ih =>
    obtain ⟨answers, after⟩ := matching.perform kind
    rcases performed : Bridge.perform access b with ⟨fault | answer, mid⟩
    all_goals
      rcases performed' : Bridge.perform access b' with ⟨fault' | answer', mid'⟩
      all_goals
        rw [performed, performed'] at answers after
        cases answers
    · rw [run_call_fault next k performed, run_call_fault next' k' performed']
      exact ⟨rfl, after, same⟩
    · rw [run_call next k performed] at room ⊢
      rw [run_call next' k' performed'] at room' ⊢
      exact ih answer after (untimed_append same rfl) room room'
  | @clock next next' _ ih =>
    have read (b : Bridge π) : Bridge.perform .clock b =
      (.ok (b.clock.headD 0), { b with clock := b.clock.tail }) := rfl
    rw [run_call next k (read b)] at room ⊢
    rw [run_call next' k' (read b')] at room' ⊢
    have after : Matching { b with clock := b.clock.tail } { b' with clock := b'.clock.tail } :=
      ⟨matching.registers, matching.engine⟩
    exact ih _ _ after (untimed_append same rfl) room room'
  | @publish record record' next next' untimed _ ih =>
    -- the number of the last event bounds that of this one, so neither ring refuses it
    have free {b : Bridge π} {k : List Access} {record : Event.Record} {next : Unit → Loop α}
        (room : ((Program.call (.publish record) next).run transcribed
          (b, k)).2.1.ring.head.toNat + 1 < 2 ^ 64) : b.ring.head.toNat + 1 < 2 ^ 64 := by
      have more := Nat.le_trans (head_le_perform (.publish record) b) (head_le_call next b k)
      exact Nat.lt_of_le_of_lt (Nat.succ_le_succ more) room
    obtain ⟨ring, published, -⟩ := perform_publish (free room) record
    obtain ⟨ring', published', -⟩ := perform_publish (free room') record'
    rw [run_call next k published] at room ⊢
    rw [run_call next' k' published'] at room' ⊢
    have like : (Access.publish record').untimed = (Access.publish record).untimed :=
      congrArg Access.publish untimed
    have after : Matching { b with ring } { b' with ring := ring' } :=
      ⟨matching.registers, matching.engine⟩
    exact ih () after (untimed_append same like) room room'

end Simulation

def Pass.untimed (pass : Pass) : Pass := { pass with accesses := pass.accesses.map Access.untimed }

namespace Course

def Act.isDriving : Act → Bool
  | .hardware _ | .poll => true
  | .take | .release _ => false

variable {π : Type}

/-- Two command loops that did the same, whatever the times of their events. -/
structure Agree (t t' : Course π) : Prop where
  bridge : Matching t.bridge t'.bridge
  commander : t'.commander = t.commander
  passes : t'.passes.map Pass.untimed = t.passes.map Pass.untimed
  fault : t'.fault.map (Prod.map id (List.map Access.untimed)) =
    t.fault.map (Prod.map id (List.map Access.untimed))

variable {t t' : Course π}

theorem Agree.symm (agree : Agree t t') : Agree t' t :=
  ⟨⟨agree.bridge.registers.symm, agree.bridge.engine.symm⟩, agree.commander.symm, agree.passes.symm,
    agree.fault.symm⟩

variable [Responder π] [ByteSource π]

/-- What the consumer does changes the ring and nothing else. -/
theorem Agree.consumer (agree : Agree t t') {act : Act} (aside : ¬act.isDriving = true) :
    Agree (t.act act) t' := by
  cases act with
  | hardware signal | poll => exact absurd rfl aside
  | take | release taken =>
    exact ⟨⟨agree.bridge.registers, agree.bridge.engine⟩, agree.commander, agree.passes, agree.fault⟩

theorem Agree.consumed (agree : Agree t t') {acts : List Act}
    (aside : ∀ act ∈ acts, ¬act.isDriving = true) : Agree (run acts t) t' := by
  induction acts generalizing t with
  | nil => exact agree
  | cons act rest ih =>
    exact ih (agree.consumer (aside act List.mem_cons_self)) fun later listed =>
      aside later (List.mem_cons_of_mem _ listed)

theorem Agree.consumers (agree : Agree t t') {acts acts' : List Act}
    (aside : ∀ act ∈ acts, ¬act.isDriving = true) (aside' : ∀ act ∈ acts', ¬act.isDriving = true) :
    Agree (run acts t) (run acts' t') :=
  ((agree.consumed aside).symm.consumed aside').symm

theorem Agree.hardware (agree : Agree t t') (signal : Signal) :
    Agree (t.act (.hardware signal)) (t'.act (.hardware signal)) :=
  ⟨⟨congrArg signal.apply agree.bridge.registers, agree.bridge.engine⟩, agree.commander, agree.passes,
    agree.fault⟩

theorem Agree.poll (agree : Agree t t') (room : t.poll.bridge.ring.head.toNat + 1 < 2 ^ 64)
    (room' : t'.poll.bridge.ring.head.toNat + 1 < 2 ^ 64) : Agree t.poll t'.poll := by
  have ended : t'.fault = none ↔ t.fault = none := by
    rw [← Option.map_eq_none_iff, agree.fault, Option.map_eq_none_iff]
  rcases met : t.fault with - | fault
  · have going := ended.2 met
    rw [bridge_poll met] at room
    rw [bridge_poll going, agree.commander] at room'
    have run := (Commander.alike_poll t.commander).run agree.bridge rfl room room'
    rcases ran : t.commander.poll.run transcribed (t.bridge, []) with ⟨result, b, k⟩
    rcases ran' : t.commander.poll.run transcribed (t'.bridge, []) with ⟨result', b', k'⟩
    rw [ran, ran'] at run
    obtain ⟨rfl, bridge, accesses⟩ := run
    rw [← agree.commander] at ran'
    rcases result' with fault | ⟨outcome, c⟩
    · rw [poll_eq_of_error met ran, poll_eq_of_error going ran']
      exact ⟨bridge, agree.commander, agree.passes, congrArg (fun k => some (fault, k)) accesses⟩
    · rw [poll_eq_of_ok met ran, poll_eq_of_ok going ran']
      refine ⟨bridge, rfl, ?_, agree.fault⟩
      have last : Pass.untimed ⟨outcome, k'⟩ = Pass.untimed ⟨outcome, k⟩ :=
        congrArg (Pass.mk outcome) accesses
      rw [List.map_append, List.map_append, agree.passes, List.map_singleton, List.map_singleton,
        last]
  · obtain ⟨fault', met'⟩ := Option.ne_none_iff_exists'.1 fun none => by
      rw [ended.1 none] at met
      cases met
    rw [poll_of_fault met, poll_of_fault met']
    exact agree

/-- Two runs that the same hardware drives agree, however often the consumers act in between. -/
theorem Agree.acts (agree : Agree t t') {acts acts' : List Act}
    (driven : acts'.filter Act.isDriving = acts.filter Act.isDriving)
    (room : (run acts t).bridge.ring.head.toNat + 1 < 2 ^ 64)
    (room' : (run acts' t').bridge.ring.head.toNat + 1 < 2 ^ 64) :
    Agree (run acts t) (run acts' t') := by
  -- on what drives both runs; the consumers act before it, each at its own pace
  generalize drives : acts.filter Act.isDriving = driving at driven
  induction driving generalizing acts acts' t t' with
  | nil =>
    exact agree.consumers (List.filter_eq_nil_iff.1 drives) (List.filter_eq_nil_iff.1 driven)
  | cons act driving ih =>
    obtain ⟨first, rest, rfl, aside, -, drives⟩ := List.filter_eq_cons_iff.1 drives
    obtain ⟨first', rest', rfl, aside', drive, driven⟩ := List.filter_eq_cons_iff.1 driven
    have before := agree.consumers aside aside'
    rw [run_append] at room room' ⊢
    rw [run_append]
    have left := Nat.lt_of_le_of_lt (Nat.succ_le_succ (head_le_acts rest _)) room
    have left' := Nat.lt_of_le_of_lt (Nat.succ_le_succ (head_le_acts rest' _)) room'
    have after : Agree ((run first t).act act) ((run first' t').act act) := by
      cases act with
      | hardware signal => exact before.hardware signal
      | poll => exact before.poll left left'
      | take | release taken => cases drive
    exact ih after room room' drives driven

/-- Rings, consumers and clocks make no difference to what the command loop does, and the events
differ in their times only. -/
theorem unperturbed {b b' : Bridge π} (registers : b'.registers = b.registers)
    (engine : b'.engine = b.engine) (c : Commander) {acts acts' : List Act}
    (driven : acts'.filter Act.isDriving = acts.filter Act.isDriving)
    (room : (run acts { bridge := b, commander := c }).bridge.ring.head.toNat + 1 < 2 ^ 64)
    (room' : (run acts' { bridge := b', commander := c }).bridge.ring.head.toNat + 1 < 2 ^ 64) :
    Agree (run acts { bridge := b, commander := c }) (run acts' { bridge := b', commander := c }) := by
  have start : Agree { bridge := b, commander := c } { bridge := b', commander := c } :=
    ⟨⟨registers, engine⟩, rfl, rfl, rfl⟩
  exact start.acts driven room room'

/-- A ring of two slots with a consumer that was lapped, and a ring of four slots that nobody reads.
-/
theorem unperturbed_abandoned :
    let registers : RegisterFile := { words := .replicate 8 0, clearOnOne := [Offset.status] }
    let engine : Rehearsal.Engine := { manner := .echo 4 none, block := some (.readSector 8) }
    let lapped : Event.Ring := { shared := { slots := .replicate 2 .empty } }
    let full : Event.Ring := {
      shared := { slots := .replicate 4 ⟨9, 3, 3, 3, .replicate 5 3⟩, head := 9 }, head := 9 }
    let b : Bridge Rehearsal.Engine := {
      registers, engine, buffer := { words := #[] }, clock := [40, 41, 42, 43, 44], ring := lapped }
    let b' : Bridge Rehearsal.Engine := {
      registers, engine, buffer := { words := #[] }, clock := [7], ring := full }
    let c : Commander := { slowCompletion := 50 }
    let latch : Act := .hardware (.set Offset.status 0x00110001)
    let finish : Act := .hardware (.raise Offset.status Status.complete)
    let t := run [latch, .poll, .take, .release ⟨1, 1, default⟩, finish, .poll] ⟨b, c, [], none⟩
    let t' := run [.take, latch, .poll, finish, .poll] ⟨b', c, [], none⟩
    Agree t t' ∧ t.passes.length = 2 ∧ t.bridge.ring.head = 4 ∧ t'.bridge.ring.head = 13 ∧
      t.bridge.ring.consumer ≠ t'.bridge.ring.consumer := by
  intro registers engine lapped full b b' c latch finish t t'
  have counts : t.passes.length = 2 ∧ t.bridge.ring.head = 4 ∧ t'.bridge.ring.head = 13 ∧
      t.bridge.ring.consumer ≠ t'.bridge.ring.consumer := by decide +kernel
  have room : t.bridge.ring.head.toNat + 1 < 2 ^ 64 := by
    rw [counts.2.1]
    decide
  have room' : t'.bridge.ring.head.toNat + 1 < 2 ^ 64 := by
    rw [counts.2.2.1]
    decide
  have registers : b'.registers = b.registers := rfl
  have engine : b'.engine = b.engine := rfl
  exact ⟨unperturbed registers engine c rfl room room', counts⟩

end Course
end Bridge
end SdBridge
