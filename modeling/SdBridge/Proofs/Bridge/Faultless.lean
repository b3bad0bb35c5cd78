import SdBridge.Proofs.Bridge.Bounds
import SdBridge.Proofs.Bridge.Traffic
import SdBridge.Proofs.Card.Sturdy
import SdBridge.Proofs.Event.Drain

/-!
A bridge at work on a card, with settings and an image that were accepted: both loops access by
access, the hardware, and the drain of the events between any two accesses. Nothing faults before the
cursors of the ring are used up.
-/
namespace SdBridge.Bridge

def Access.events : Access → Nat
  | .publish _ => 1
  | _ => 0

/-- What no access breaks, and what lets each of them succeed. -/
structure Intact {β : Type} [Image.Store β] (capacity published : Nat) (b : Bridge (Card β)) :
    Prop where
  registers : Offset.size ≤ 4 * b.registers.words.size
  buffer : 516 ≤ 4 * b.buffer.words.size
  card : b.engine.Sturdy
  ring : ∃ records released, records.length = published ∧
    Event.Ring.AtRest capacity records released b.ring

section Intact

variable {β : Type} [Image.Store β] {capacity published : Nat} {b : Bridge (Card β)}

theorem Intact.withEngine (intact : Intact capacity published b) {card : Card β}
    (sturdy : card.Sturdy) : Intact capacity published { b with engine := card } :=
  ⟨intact.registers, intact.buffer, sturdy, intact.ring⟩

theorem Intact.withRegisters (intact : Intact capacity published b) {registers : RegisterFile}
    (size : registers.words.size = b.registers.words.size) :
    Intact capacity published { b with registers } :=
  ⟨size ▸ intact.registers, intact.buffer, intact.card, intact.ring⟩

theorem Intact.dispatch (intact : Intact capacity published b) (request : Request)
    (response : Response) : ∃ answer b', perform (.dispatch request response) b = (.ok answer, b') ∧
      Intact capacity published b' := by
  have answers := intact.card.answers_dispatch request response
  have sturdy := intact.card.dispatch request response
  simp only [perform, dispatched, Responder.dispatch]
  split
  · exact ⟨_, _, rfl, intact.withEngine sturdy⟩
  · exact ⟨_, _, rfl, intact.withEngine sturdy⟩
  · rename_i fault faulted
    exact absurd faulted (answers fault)

theorem Intact.publish (intact : Intact capacity published b) (pos : 0 < capacity)
    (record : Event.Record) (few : published + 1 < 2 ^ 64 - 1) :
    ∃ answer b', perform (.publish record) b = (.ok answer, b') ∧
      Intact capacity (published + 1) b' := by
  obtain ⟨records, released, rfl, rest⟩ := intact.ring
  have fits : (records ++ [record]).length < 2 ^ 64 := by
    rw [List.length_append]
    exact Nat.lt_of_lt_of_le few (Nat.sub_le _ _)
  obtain ⟨ring, done, -, rest⟩ := rest.publish pos record fits
  refine ⟨(), { b with ring }, ?_, intact.registers, intact.buffer, intact.card, _, _, ?_, rest⟩
  · simp only [perform, done]
  · simp

/-- Every access in bounds succeeds. -/
theorem Intact.perform (intact : Intact capacity published b) (pos : 0 < capacity)
    {access : Access} (inBounds : InBounds access)
    (few : published + access.events < 2 ^ 64 - 1) :
    ∃ answer b', perform access b = (.ok answer, b') ∧
      Intact capacity (published + access.events) b' := by
  have registers := intact.registers
  have buffer := intact.buffer
  simp only [Offset.size] at registers
  cases access with
  | readRegister offset =>
    obtain ⟨aligned, inside⟩ := inBounds
    simp only [Offset.size] at inside
    have read : (b.registers.read offset).1 = .ok (b.registers.word offset) := by
      rw [RegisterFile.read_of_inside aligned (by omega)]
    have size := congrArg Array.size (RegisterFile.read_words b.registers offset)
    exact ⟨_, _, Prod.ext read rfl, intact.withRegisters size⟩
  | writeRegister offset value =>
    obtain ⟨aligned, inside⟩ := inBounds
    simp only [Offset.size] at inside
    have written := RegisterFile.write_of_inside (f := b.registers) aligned (by omega) value
    have size := RegisterFile.write_size b.registers offset value
    exact ⟨_, _, Prod.ext written rfl, intact.withRegisters size⟩
  | writeBuffer offset value =>
    obtain ⟨aligned, inside⟩ := inBounds
    have written := RegisterFile.write_of_inside (f := b.buffer) aligned (by omega) value
    have size := RegisterFile.write_size b.buffer offset value
    exact ⟨_, _, Prod.ext written rfl, intact.registers, size ▸ buffer, intact.card, intact.ring⟩
  | dispatch request response => exact intact.dispatch request response
  | publish record => exact intact.publish pos record few
  | takeBlockRequest => exact ⟨_, _, rfl, intact.withEngine intact.card.takeBlockRequest⟩
  | dataReady =>
    obtain ⟨⟨more, answer⟩, sturdy⟩ := intact.card.dataReady
    exact ⟨more, _, Prod.ext answer rfl, intact.registers, buffer, sturdy, intact.ring⟩
  | nextByte =>
    have sturdy := intact.card.nextByte
    exact ⟨_, _, rfl, intact.registers, buffer, sturdy, intact.ring⟩
  | inFlight | stopRequested => exact ⟨_, _, rfl, intact⟩
  | sleep => exact ⟨_, _, rfl, intact⟩
  | setInFlight | clock | log =>
    exact ⟨_, _, rfl, intact.registers, intact.buffer, intact.card, intact.ring⟩

end Intact

structure Running (β : Type) where
  traffic : Traffic (Card β)
  drain : Event.Drain := {}
  published : Nat := 0
  /-- How passes of the drain ended that found no end of their own. -/
  faults : List Fault := []

namespace Running

inductive Act where
  | turn (turn : Traffic.Turn)
  | drain

def upcoming {α : Type} : Loop α → Nat
  | .call access _ => access.events
  | _ => 0

variable {β : Type} [Image.Store β]

def act : Act → Running β → Running β
  | .turn turn, r =>
    let more := match turn with
      | .command => upcoming r.traffic.polling
      | .data => upcoming r.traffic.pumping
      | .hardware _ => 0
    { r with traffic := r.traffic.turn turn, published := r.published + more }
  | .drain, r =>
    match r.drain.pass r.traffic.bridge.ring with
    | .ok pass =>
      let bridge := { r.traffic.bridge with ring := pass.ring }
      { r with traffic := { r.traffic with bridge }, drain := pass.drain }
    | .error fault => { r with faults := r.faults ++ [fault] }

def run (acts : List Act) (r : Running β) : Running β := acts.foldl (fun r act => r.act act) r

theorem run_append (acts : List Act) (act : Act) (r : Running β) :
    run (acts ++ [act]) r = (run acts r).act act := by
  simp [run, List.foldl_append]

theorem published_le_act (act : Act) (r : Running β) : r.published ≤ (r.act act).published := by
  cases act with
  | turn turn => exact Nat.le_add_right _ _
  | drain =>
    simp only [Running.act]
    split <;> exact Nat.le_refl _

/-- Both loops go on inside their bounds, and no fault was met. -/
structure Sound (capacity : Nat) (r : Running β) : Prop where
  intact : Intact capacity r.published r.traffic.bridge
  limit : r.traffic.settings.maxBytes ≤ 512
  polling : r.traffic.polling.Bounded
  pumping : r.traffic.pumping.Behaves InBounds fun t => t.bytes ≤ 514
  pumps : ∀ pump ∈ r.traffic.pumps, pump.transfer.bytes ≤ 514
  faults : r.faults = []

variable {capacity : Nat} {r : Running β}

theorem Sound.command (sound : Sound capacity r) (pos : 0 < capacity)
    (few : (r.act (.turn .command)).published < 2 ^ 64 - 1) :
    Sound capacity (r.act (.turn .command)) := by
  have polling := sound.polling
  simp only [act, Traffic.turn, Traffic.command] at few ⊢
  cases next : r.traffic.polling with
  | done result =>
    obtain ⟨outcome, c⟩ := result
    exact ⟨sound.intact, sound.limit, Commander.bounded_poll c, sound.pumping, sound.pumps,
      sound.faults⟩
  | fail fault =>
    rw [next] at polling
    exact polling.elim
  | call access rest =>
    rw [next] at polling few
    obtain ⟨answer, b, performed, intact⟩ := sound.intact.perform pos polling.1 few
    simp only [Program.result?, Program.step, Program.noting, performed]
    exact ⟨intact, sound.limit, polling.2 answer, sound.pumping, sound.pumps, sound.faults⟩

theorem Sound.data (sound : Sound capacity r) (pos : 0 < capacity)
    (few : (r.act (.turn .data)).published < 2 ^ 64 - 1) :
    Sound capacity (r.act (.turn .data)) := by
  have pumping := sound.pumping
  simp only [act, Traffic.turn, Traffic.data] at few ⊢
  cases next : r.traffic.pumping with
  | done transfer =>
    rw [next] at pumping
    refine ⟨sound.intact, sound.limit, sound.polling, Transfer.behaves_pump sound.limit, ?_,
      sound.faults⟩
    intro pump found
    rcases List.mem_append.1 found with old | new
    · exact sound.pumps pump old
    · rw [List.mem_singleton.1 new]
      exact pumping
  | fail fault =>
    rw [next] at pumping
    exact pumping.elim
  | call access rest =>
    rw [next] at pumping few
    obtain ⟨answer, b, performed, intact⟩ := sound.intact.perform pos pumping.1 few
    simp only [Program.result?, Program.step, Program.noting, performed]
    exact ⟨intact, sound.limit, sound.polling, pumping.2 answer, sound.pumps, sound.faults⟩

theorem Sound.hardware (sound : Sound capacity r) (signal : Signal) :
    Sound capacity (r.act (.turn (.hardware signal))) := by
  have size : (signal.apply r.traffic.bridge.registers).words.size =
      r.traffic.bridge.registers.words.size := by
    cases signal <;> exact RegisterFile.size_force ..
  exact ⟨sound.intact.withRegisters size, sound.limit, sound.polling, sound.pumping, sound.pumps,
    sound.faults⟩

theorem Sound.drain (sound : Sound capacity r) (pos : 0 < capacity) (fits : capacity < 2 ^ 64) :
    Sound capacity (r.act .drain) := by
  obtain ⟨records, released, count, rest⟩ := sound.intact.ring
  obtain ⟨after, passed, -, rest⟩ := rest.pass pos fits r.drain
  simp only [act, passed]
  exact ⟨⟨sound.intact.registers, sound.intact.buffer, sound.intact.card, records, _, count, rest⟩,
    sound.limit, sound.polling, sound.pumping, sound.pumps, sound.faults⟩

theorem Sound.run (sound : Sound capacity r) (pos : 0 < capacity) (fits : capacity < 2 ^ 64)
    (acts : List Act) (few : (Running.run acts r).published < 2 ^ 64 - 1) :
    Sound capacity (Running.run acts r) := by
  induction acts using List.reverseRecOn with
  | nil => exact sound
  | append_singleton acts act before =>
    rw [run_append] at few ⊢
    have sound := before (Nat.lt_of_le_of_lt (published_le_act act _) few)
    cases act with
    | turn turn =>
      cases turn with
      | command => exact sound.command pos few
      | data => exact sound.data pos few
      | hardware signal => exact sound.hardware signal
    | drain => exact sound.drain pos fits

theorem capacity_of_valid {settings : Settings} (valid : settings.validate = .ok ()) :
    2 ≤ settings.ringCapacity := by
  by_contra few
  have few : settings.ringCapacity < 2 := Nat.not_le.1 few
  simp only [Settings.validate, few, if_true] at valid
  repeat' split at valid
  all_goals cases valid

/-- With settings and an image that were accepted, neither a loop nor the drain faults, whatever the
hardware does between two accesses. -/
theorem never_faults {settings : Settings} (valid : settings.validate = .ok ())
    (room : Event.Slot.bytes * settings.ringCapacity ≤ largestObject)
    {image : Image.Memory ⊕ Image.File} (accepted : Image.Accepted image)
    {registers buffer : RegisterFile} (enough : Offset.size ≤ 4 * registers.words.size)
    (roomy : 516 ≤ 4 * buffer.words.size) (identity : Card.Identity) (clock : List UInt64)
    (c : Commander) :
    ∃ ring, Event.Ring.ofCapacity settings.ringCapacity = .ok ring ∧ ∀ acts : List Act,
      let engine := Card.ofImage image identity
      let bridge : Bridge (Card _) := { registers, buffer, engine, ring, clock }
      let r := run acts { traffic := Traffic.start bridge settings.transfer c }
      r.published < 2 ^ 64 - 1 →
        (∀ fault, r.traffic.polling ≠ .fail fault) ∧ (∀ fault, r.traffic.pumping ≠ .fail fault) ∧
          r.faults = [] ∧
          ∀ pump ∈ r.traffic.pumps, pump.transfer.bytes.toUInt16.toNat = pump.transfer.bytes := by
  have two := capacity_of_valid valid
  have pos : 0 < settings.ringCapacity := by omega
  have fits : settings.ringCapacity < 2 ^ 64 := by
    simp only [Event.Slot.bytes, Event.textWords, largestObject] at room
    omega
  refine ⟨{ shared := { slots := Array.replicate settings.ringCapacity .empty } }, ?_, ?_⟩
  · rw [Event.Ring.ofCapacity, if_pos two, zeroed_eq_ok room]
    rfl
  intro acts engine bridge r few
  have fresh := (Event.Ring.Ledger.balanced_start _
    (Array.size_replicate (n := settings.ringCapacity) (v := Event.Slot.empty))).rest
  have limit := limit_of_valid valid
  have intact : Intact settings.ringCapacity 0 bridge :=
    ⟨enough, roomy, Card.sturdy_ofImage accepted.reliable identity, [], 0, rfl, fresh⟩
  have start : Sound settings.ringCapacity
      { traffic := Traffic.start bridge settings.transfer c : Running _ } :=
    ⟨intact, limit, Commander.bounded_poll c, Transfer.behaves_pump limit,
      fun pump found => absurd found List.not_mem_nil, rfl⟩
  obtain ⟨-, -, polling, pumping, pumps, faults⟩ := start.run pos fits acts few
  refine ⟨?_, ?_, faults, ?_⟩
  · intro fault failed
    rw [failed] at polling
    exact polling
  · intro fault failed
    rw [failed] at pumping
    exact pumping
  · intro pump found
    have small := pumps pump found
    exact UInt16.toNat_ofNat_of_lt (Nat.lt_of_le_of_lt small (by decide))

/-- The host latches a reset, the command loop answers it, and the drain passes over the events. -/
def drainedReset : List Act :=
  [.turn (.hardware (.set Offset.status Status.newCommand))] ++
    List.replicate 16 (.turn .command) ++ [.drain] ++ List.replicate 4 (.turn .data)

theorem never_faults_drainedReset :
    ∃ ring, Event.Ring.ofCapacity 4 = .ok ring ∧
      let engine : Card (Image.Memory ⊕ Image.File) := Card.ofImage (.inl ⟨.zeros 512⟩)
      let registers : RegisterFile := { words := .replicate 8 0, clearOnOne := [Offset.status] }
      let bridge := { registers, buffer := { words := .replicate 129 0 }, engine, ring }
      let r := run drainedReset { traffic := Traffic.start bridge {} { slowCompletion := 50 } }
      r.published = 3 ∧ r.faults = [] ∧ ∀ fault, r.traffic.polling ≠ .fail fault := by
  have valid : ({ ringCapacity := 4 } : Settings).validate = .ok () := by decide
  have small : (Bytes.zeros 512).size < UInt64.size := by decide
  have accepted : Image.Accepted (.inl ⟨.zeros 512⟩) := .memory small rfl
  let registers : RegisterFile := { words := .replicate 8 0, clearOnOne := [Offset.status] }
  let buffer : RegisterFile := { words := .replicate 129 0 }
  have enough : Offset.size ≤ 4 * registers.words.size := by decide
  have roomy : 516 ≤ 4 * buffer.words.size := by simp [buffer]
  obtain ⟨ring, made, safe⟩ :=
    never_faults valid (by decide) accepted enough roomy {} [] { slowCompletion := 50 }
  cases made
  refine ⟨_, rfl, ?_⟩
  intro engine registers' bridge r
  have published : r.published = 3 := by decide +kernel
  obtain ⟨polling, -, faults, -⟩ := safe drainedReset (published ▸ by decide)
  exact ⟨published, faults, polling⟩

end Running
end SdBridge.Bridge
