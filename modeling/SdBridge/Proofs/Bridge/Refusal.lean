import SdBridge.Proofs.Bridge.Reading
import SdBridge.Proofs.Card.Refusal

/-!
Refused exchanges. The new-command bit stays set, so that the same command comes up in every pass
of the command loop until the host gives up. All these passes end alike, and only the first one is
told of.
-/
namespace SdBridge.Bridge

namespace Commander

open Loop

def polls : Nat → Commander → Loop (List Outcome × Commander)
  | 0, c => pure ([], c)
  | n + 1, c => do
    let (first, c) ← c.poll
    let (rest, c) ← polls n c
    pure (first :: rest, c)

variable {status : StatusWord} {c : Commander}

theorem yields_idle : (c.idle status).Yields fun out => out.1.exchange = none :=
  Program.yields_last fun _ =>
    Program.yields_ite (Program.yields_last fun _ => Program.yields_pure rfl)
      (Program.yields_pure rfl)

theorem yields_reportExchange (seen : UInt64) (command : UInt8) (why : Rejection) :
    (c.reportExchange seen status (.rejected command why)).Yields
      (· = some (rejectionKey status)) := by
  refine Program.yields_last fun block => Program.yields_ite ?_ ?_
  · exact Program.yields_last fun _ => Program.yields_last fun _ => Program.yields_pure rfl
  · exact Program.yields_last fun _ => Program.yields_pure rfl

theorem yields_report (seen : UInt64) (done : Exchange) :
    (c.report seen status done).Yields fun out =>
      out.1 = ⟨status, status.has Status.complete, some done⟩ :=
  Program.yields_last fun _ =>
    Program.yields_ite (Program.yields_last fun _ => Program.yields_pure rfl)
      (Program.yields_pure rfl)

theorem yields_report_rejected (seen : UInt64) (command : UInt8) (why : Rejection) :
    (c.report seen status (.rejected command why)).Yields fun out =>
      out.2 = { c with lastRejected := some (rejectionKey status) } := by
  refine Program.yields_bind (yields_reportExchange seen command why) ?_
  rintro last rfl
  exact Program.yields_ite (Program.yields_last fun _ => Program.yields_pure rfl)
    (Program.yields_pure rfl)

end Commander

variable {β : Type} [Image.Store β] {b b' : Bridge (Card β)} {c c' : Commander}
  {status : StatusWord}

omit [Image.Store β] in
/-- The responses of a card have legal lengths. -/
theorem yields_conclude (command : UInt8) (reply : Card.Reply) :
    (c.conclude command (.ok reply.length)).Yields fun out =>
      out.1 = .answered command reply.length := by
  have legal : Commander.legalLength (.ok reply.length) = .ok reply.length := by
    cases reply <;> rfl
  rw [Commander.conclude, legal]
  exact Program.yields_last fun _ => Program.yields_pure rfl

theorem read_eq_ok {offset : Nat} {word : UInt32} (aligned : offset % 4 = 0)
    (ran : (Loop.readRegister offset).run perform b = (.ok word, b')) :
    offset / 4 < b.registers.words.size ∧ word = b.registers.word offset ∧
      b' = { b with registers := { b.registers with reads := b.registers.reads + 1 } } := by
  rw [Loop.readRegister, Program.run_access] at ran
  by_cases inside : offset / 4 < b.registers.words.size
  · rw [perform_readRegister aligned inside] at ran
    cases ran
    exact ⟨inside, rfl, rfl⟩
  · simp only [perform, onRegisters, RegisterFile.read_eq _ _ aligned, RegisterFile.get,
      Array.getElem?_eq_none (Nat.le_of_not_lt inside)] at ran
    cases ran

/-- An exchange that ends is answered, or the card refused the command and is left as it was. -/
theorem exchange_eq_ok {done : Exchange} {answered : UInt32}
    (ran : (c.exchange status).run perform b = (.ok (done, answered, c'), b')) :
    (∃ length, done = .answered status.commandIndex length) ∨
      ∃ cause, done = .rejected status.commandIndex (.refused cause) ∧ answered = 0 ∧ c' = c ∧
        Offset.argument / 4 < b.registers.words.size ∧
        (b.engine.dispatch (readRequest status b) c.response).result = .error (.error cause) ∧
        b'.engine = b.engine.declined (readRequest status b) cause ∧ b'.inFlight = false ∧
        b'.registers = { b.registers with reads := b.registers.reads + 1 } := by
  rw [Commander.exchange_eq] at ran
  obtain ⟨argument, b₁, read, ran⟩ := Program.run_bind_eq_ok ran
  obtain ⟨inside, rfl, rfl⟩ := read_eq_ok (by decide) read
  obtain ⟨⟨⟩, b₂, raised, ran⟩ := Program.run_bind_eq_ok ran
  cases raised
  obtain ⟨⟨result, response⟩, b₃, dispatched, ran⟩ := Program.run_bind_eq_ok ran
  obtain ⟨⟨⟩, b₄, lowered, ran⟩ := Program.run_bind_eq_ok ran
  cases lowered
  rw [Loop.dispatch, Program.run_access] at dispatched
  change Bridge.dispatched _ (b.engine.dispatch (readRequest status b) c.response) = _ at dispatched
  cases answer : (b.engine.dispatch (readRequest status b) c.response).result with
  | ok length =>
    simp only [Bridge.dispatched, answer, Prod.mk.injEq, Except.ok.injEq] at dispatched
    obtain ⟨⟨rfl, rfl⟩, rfl⟩ := dispatched
    obtain ⟨reply, rfl⟩ := Card.length_of_dispatch answer
    exact .inl ⟨_, (yields_conclude _ reply).of_run ran⟩
  | error failure =>
    cases failure with
    | fault fault =>
      simp [Bridge.dispatched, answer] at dispatched
    | error cause =>
      rw [Card.dispatch_refused answer] at dispatched
      cases dispatched
      cases ran
      exact .inr ⟨cause, rfl, rfl, rfl, inside, rfl, rfl, rfl, rfl⟩

/-- The host has a command latched that the card refuses, and that was told of. -/
structure Stuck (command : UInt8) (cause : ProtocolError) (status : StatusWord) (c : Commander)
    (b : Bridge (Card β)) : Prop where
  shown : b.registers.word Offset.status = status.raw
  latched : status.has Status.newCommand = true
  settled : status.has Status.complete = false
  index : status.commandIndex = command
  inside : Offset.argument / 4 < b.registers.words.size
  refused : ∀ response, b.engine.dispatch (readRequest status b) response =
    ⟨.error (.error cause), response, b.engine⟩
  pending : b.engine.commands.pending = none
  reported : c.lastRejected = some (Commander.rejectionKey status)
  idle : b.inFlight = false

section Stuck

variable {command : UInt8} {cause : ProtocolError}

omit [Image.Store β] in
theorem Stuck.later (stuck : Stuck command cause status c b) (reads : UInt32)
    (clock : List UInt64) : Stuck command cause status c
      { b with registers := { b.registers with reads }, clock } :=
  ⟨stuck.shown, stuck.latched, stuck.settled, stuck.index, stuck.inside, stuck.refused,
    stuck.pending, stuck.reported, stuck.idle⟩

theorem Stuck.ends_exchange (stuck : Stuck command cause status c b) :
    Program.Ends perform (c.exchange status) b fun out b' =>
      out = (.rejected command (.refused cause), 0, c) ∧
        b' = { b with registers := { b.registers with reads := b.registers.reads + 1 } } := by
  have lowered : ({ b with inFlight := false } : Bridge (Card β)) = b := by rw [← stuck.idle]
  rw [Commander.exchange_eq]
  refine Program.ends_access_bind (perform_readRegister (by decide) stuck.inside) ?_
  refine Program.ends_access_bind rfl ?_
  have performed : perform (.dispatch (readRequest status b) c.response)
      { b with
        registers := { b.registers with reads := b.registers.reads + 1 }, inFlight := true } =
      (.ok (.error cause, c.response),
        { b with
          registers := { b.registers with reads := b.registers.reads + 1 }, inFlight := true }) := by
    simp only [perform, Responder.dispatch, stuck.refused, Bridge.dispatched]
  refine Program.ends_access_bind performed ?_
  refine Program.ends_access_bind rfl (Program.ends_pure ⟨?_, ?_⟩)
  · rw [stuck.index]
  · rw [← stuck.idle]

/-- A refusal that was told of before is not told of again. -/
theorem Stuck.ends_report (stuck : Stuck command cause status c b) (seen : UInt64) :
    Program.Ends perform (do
      Commander.acknowledge (0 ||| Commander.completion status)
      c.report seen status (.rejected command (.refused cause))) b fun out b' =>
      out = (⟨status, false, some (.rejected command (.refused cause))⟩, c) ∧ b' = b := by
  have nothing : 0 ||| Commander.completion status = 0 := by
    simp [Commander.completion, stuck.settled]
  have taken : perform .takeBlockRequest b = (.ok none, b) := by
    simp only [perform, Responder.takeBlockRequest, Card.takeBlockRequest, stuck.pending]
    rw [← stuck.pending]
  have known : ¬(c.lastRejected ≠ some (Commander.rejectionKey status)) :=
    not_not.2 stuck.reported
  rw [nothing, Commander.acknowledge, if_neg (by simp)]
  have silent : Program.Ends perform (pure () : Loop Unit) b fun _ b' => b' = b :=
    Program.ends_pure rfl
  refine Program.ends_bind silent ?_
  rintro - b' rfl
  simp only [Commander.report, Commander.reportExchange, stuck.settled, if_neg known]
  refine Program.ends_access_bind taken ?_
  refine Program.ends_pure ⟨?_, rfl⟩
  rw [← stuck.reported]

/-- A pass that changes nothing but the count of reads and the readings of the clock. -/
theorem Stuck.ends_poll (stuck : Stuck command cause status c b) :
    Program.Ends perform c.poll b fun out b' =>
      out = (⟨status, false, some (.rejected command (.refused cause))⟩, c) ∧
        ∃ reads clock, b' = { b with registers := { b.registers with reads }, clock } := by
  have word : StatusWord.mk (b.registers.word Offset.status) = status := by rw [stuck.shown]
  rw [Commander.poll_eq]
  refine Program.ends_access_bind (perform_readRegister (by decide)
    (Nat.lt_of_le_of_lt (by decide) stuck.inside)) ?_
  rw [word, if_pos stuck.latched]
  refine Program.ends_access_bind rfl ?_
  refine Program.ends_bind (stuck.later _ _).ends_exchange ?_
  rintro - b' ⟨rfl, rfl⟩
  refine Program.ends_mono ((stuck.later _ _).ends_report _) ?_
  rintro out b' ⟨rfl, rfl⟩
  exact ⟨rfl, _, _, rfl⟩

theorem Stuck.ends_polls (stuck : Stuck command cause status c b) (n : Nat) :
    Program.Ends perform (Commander.polls n c) b fun out b' =>
      out = (List.replicate n ⟨status, false, some (.rejected command (.refused cause))⟩, c) ∧
        ∃ reads clock, b' = { b with registers := { b.registers with reads }, clock } := by
  induction n generalizing b with
  | zero => exact Program.ends_pure ⟨rfl, _, _, rfl⟩
  | succ n ih =>
    refine Program.ends_bind stuck.ends_poll ?_
    rintro - b₁ ⟨rfl, reads, clock, rfl⟩
    refine Program.ends_bind (ih (stuck.later _ _)) ?_
    rintro - b₂ ⟨rfl, reads, clock, rfl⟩
    exact Program.ends_pure ⟨rfl, _, _, rfl⟩

end Stuck

/-- Bytes above the flags do not see the completion bit. -/
theorem byte_settled (raw : UInt32) {shift : UInt32} {n : Nat} (small : shift.toNat % 32 = n)
    (kept : (~~~Status.complete).toNat / 2 ^ n = 2 ^ (32 - n) - 1) :
    ((raw &&& ~~~Status.complete) >>> shift).toUInt8 = (raw >>> shift).toUInt8 := by
  have word := raw.toNat_lt
  have inside : raw.toNat / 2 ^ n < 2 ^ (32 - n) := by
    rw [Nat.div_lt_iff_lt_mul (Nat.two_pow_pos n), ← Nat.pow_add, Nat.sub_add_cancel (by omega)]
    exact word
  apply UInt8.toNat_inj.1
  rw [toNat_byte _ small, toNat_byte _ small, UInt32.toNat_and, Nat.and_div_two_pow, kept,
    Nat.and_two_pow_sub_one_eq_mod, Nat.mod_eq_of_lt inside]

theorem has_settled (raw flags : UInt32) : StatusWord.has ⟨raw &&& ~~~Status.complete⟩ flags =
    StatusWord.has ⟨raw⟩ (~~~Status.complete &&& flags) := by
  rw [StatusWord.has, StatusWord.has, UInt32.and_assoc]

theorem commandIndex_settled (raw : UInt32) :
    StatusWord.commandIndex ⟨raw &&& ~~~Status.complete⟩ = StatusWord.commandIndex ⟨raw⟩ := by
  rw [StatusWord.commandIndex, StatusWord.commandByte,
    byte_settled raw (n := 16) (by decide) (by decide)]
  rfl

theorem crc7_settled (raw : UInt32) :
    StatusWord.crc7 ⟨raw &&& ~~~Status.complete⟩ = StatusWord.crc7 ⟨raw⟩ := by
  rw [StatusWord.crc7, byte_settled raw (n := 25) (by decide) (by decide)]
  rfl

theorem and_settled {raw : UInt32} (clear : raw &&& Status.complete = 0) :
    raw &&& ~~~Status.complete = raw := by
  have none : raw.toBitVec &&& Status.complete.toBitVec = 0#32 := congrArg UInt32.toBitVec clear
  have all : Status.complete.toBitVec ||| ~~~Status.complete.toBitVec = BitVec.allOnes 32 := by
    decide
  apply UInt32.toBitVec_inj.1
  calc raw.toBitVec &&& ~~~Status.complete.toBitVec
      = (raw.toBitVec &&& Status.complete.toBitVec) |||
          (raw.toBitVec &&& ~~~Status.complete.toBitVec) := by rw [none, BitVec.zero_or]
    _ = raw.toBitVec &&& (Status.complete.toBitVec ||| ~~~Status.complete.toBitVec) :=
        BitVec.and_or_distrib_left.symm
    _ = raw.toBitVec := by rw [all, BitVec.and_allOnes]

/-- STATUS after the completion was acknowledged, if there was one. -/
theorem acknowledge_eq_ok (clears : Offset.status ∈ b.registers.clearOnOne)
    (inside : Offset.status / 4 < b.registers.words.size)
    (shown : b.registers.word Offset.status = status.raw)
    (ran : (Commander.acknowledge (0 ||| Commander.completion status)).run perform b =
      (.ok (), b')) :
    b'.engine = b.engine ∧ b'.inFlight = b.inFlight ∧
      b'.registers.words.size = b.registers.words.size ∧
      b'.registers.word Offset.argument = b.registers.word Offset.argument ∧
      b'.registers.word Offset.status = status.raw &&& ~~~Status.complete := by
  by_cases complete : status.has Status.complete = true
  · rw [Commander.completion, if_pos complete, Commander.acknowledge, if_pos (by decide),
      Loop.writeRegister, Program.run_access] at ran
    obtain rfl : b' = { b with
        registers := (b.registers.write Offset.status (0 ||| Status.complete)).2 } :=
      (congrArg Prod.snd ran).symm
    refine ⟨rfl, rfl, RegisterFile.write_size .., ?_, ?_⟩
    · exact (RegisterFile.word_write ..).trans (if_neg fun hit => absurd hit.2.2 (by decide))
    · rw [RegisterFile.word_write, if_pos ⟨by decide, inside, rfl⟩,
        RegisterFile.stored_clearOnOne clears, shown]
      rfl
  · rw [Commander.completion, if_neg complete] at ran
    cases ran
    refine ⟨rfl, rfl, rfl, rfl, ?_⟩
    rw [shown, and_settled]
    simpa [StatusWord.has] using complete

theorem told_perform {registers : RegisterFile} {engine : Card β}
    (untold : engine.commands.pending = none) (access : Access) (b : Bridge (Card β))
    (telling : Telling access)
    (before : b.registers = registers ∧ b.engine = engine ∧ b.inFlight = false) :
    (perform access b).2.registers = registers ∧ (perform access b).2.engine = engine ∧
      (perform access b).2.inFlight = false := by
  obtain ⟨rfl, rfl, idle⟩ := before
  cases access with
  | clock | publish record => exact ⟨rfl, rfl, idle⟩
  | takeBlockRequest =>
    refine ⟨rfl, ?_, idle⟩
    change ({ b.engine with commands := { b.engine.commands with pending := none } } : Card β) = _
    rw [← untold]
  | _ => exact telling.elim

/-- A refusal leaves the loop stuck with the command. -/
theorem stuck_of_exchange {command : UInt8} {why : Rejection} {outcome : Outcome} {seen : UInt64}
    (ran : (do
      let (done, answered, c) ← c.exchange status
      Commander.acknowledge (answered ||| Commander.completion status)
      c.report seen status done).run perform b = (.ok (outcome, c'), b'))
    (clears : Offset.status ∈ b.registers.clearOnOne)
    (inside : Offset.status / 4 < b.registers.words.size)
    (shown : b.registers.word Offset.status = status.raw)
    (latched : status.has Status.newCommand = true)
    (rejected : outcome.exchange = some (.rejected command why)) :
    outcome.status = status ∧ ∃ cause, why = .refused cause ∧
      Stuck command cause ⟨status.raw &&& ~~~Status.complete⟩ c' b' := by
  obtain ⟨⟨done, answered, c₁⟩, b₁, exchanged, after⟩ := Program.run_bind_eq_ok ran
  obtain ⟨⟨⟩, b₂, acknowledged, reported⟩ := Program.run_bind_eq_ok after
  obtain rfl := (Commander.yields_report seen done).of_run reported
  rcases exchange_eq_ok exchanged with ⟨length, rfl⟩ |
    ⟨cause, rfl, rfl, rfl, room, refused, engine₁, inFlight₁, registers₁⟩
  · cases rejected
  cases rejected
  refine ⟨rfl, cause, rfl, ?_⟩
  obtain ⟨engine₂, inFlight₂, size, argument, settled⟩ := acknowledge_eq_ok
    (registers₁ ▸ clears) (registers₁ ▸ inside) (registers₁ ▸ shown) acknowledged
  have remembered : c' = { c₁ with lastRejected := some (Commander.rejectionKey status) } :=
    (Commander.yields_report_rejected seen _ _).of_run reported
  have untold : b₂.engine.commands.pending = none := by
    rw [engine₂, engine₁]
    rfl
  have kept := Program.run_keeps (told_perform untold)
    (Commander.telling_report seen status (.rejected status.commandIndex (.refused cause)) c₁)
    ⟨rfl, rfl, inFlight₂.trans inFlight₁⟩
  rw [reported] at kept
  obtain ⟨registers, engine, inFlight⟩ := kept
  have request : readRequest ⟨status.raw &&& ~~~Status.complete⟩ b' = readRequest status b := by
    rw [readRequest, commandIndex_settled, crc7_settled, registers, argument, registers₁]
    rfl
  constructor
  · rw [registers, settled]
  · rw [has_settled]
    exact latched
  · rw [has_settled]
    simp [StatusWord.has]
  · exact commandIndex_settled _
  · rw [registers, size, registers₁]
    exact room
  · intro response
    rw [request, engine, engine₂, engine₁]
    exact Card.dispatch_declined refused response
  · rw [engine, untold]
  · rw [remembered, Commander.rejectionKey, Commander.rejectionKey, UInt32.and_assoc,
      UInt32.and_self]
  · exact inFlight

theorem stuck_of_poll {command : UInt8} {why : Rejection} {outcome : Outcome}
    (clears : Offset.status ∈ b.registers.clearOnOne)
    (ran : c.poll.run perform b = (.ok (outcome, c'), b'))
    (rejected : outcome.exchange = some (.rejected command why)) :
    ∃ cause, why = .refused cause ∧
      Stuck command cause ⟨outcome.status.raw &&& ~~~Status.complete⟩ c' b' := by
  rw [Commander.poll_eq] at ran
  obtain ⟨word, b₁, read, after⟩ := Program.run_bind_eq_ok ran
  obtain ⟨inside, rfl, rfl⟩ := read_eq_ok (by decide) read
  split at after
  · rename_i latched
    obtain ⟨seen, b₂, ticked, exchanged⟩ := Program.run_bind_eq_ok after
    cases ticked
    obtain ⟨same, stuck⟩ := stuck_of_exchange exchanged clears inside rfl latched rejected
    rwa [same]
  · rw [Commander.yields_idle.of_run after] at rejected
    cases rejected

/-- A refused command changes next to nothing in the card, and while it stays latched every further
pass drops it again. -/
theorem refusals_repeat :
    (∀ (card : Card β) (request : Request) (response : Response) (cause : ProtocolError),
      (card.dispatch request response).result = .error (.error cause) →
      let synced := card.commands.sync card.data.finished
      let after := (card.dispatch request response).state
      after = { card with commands := { synced with
          pending := none
          appExpected := false
          refused := if synced.readsAsApp request then some request else none
          status := Card.Commands.noted cause synced.status } } ∧
        (card.dispatch request response).response = response ∧
        ∀ other, after.dispatch request other = ⟨.error (.error cause), other, after⟩) ∧
    ∀ (b b' : Bridge (Card β)) (c c' : Commander) (outcome : Outcome) (command : UInt8)
        (why : Rejection), Offset.status ∈ b.registers.clearOnOne →
      c.poll.run perform b = (.ok (outcome, c'), b') →
      outcome.exchange = some (.rejected command why) →
      let status : StatusWord := ⟨b'.registers.word Offset.status⟩
      status.has Status.newCommand = true ∧
        ∀ n, ∃ reads clock, (Commander.polls n c').run perform b' =
          (.ok (List.replicate n ⟨status, false, some (.rejected command why)⟩, c'),
            { b' with registers := { b'.registers with reads }, clock }) := by
  constructor
  · intro card request response cause refused synced after
    have answer := Card.dispatch_refused refused
    refine ⟨?_, ?_, ?_⟩
    · simp only [after, answer]
      rfl
    · rw [answer]
    · intro other
      simp only [after, answer]
      exact Card.dispatch_declined refused other
  · intro b b' c c' outcome command why clears ran rejected status
    obtain ⟨cause, rfl, stuck⟩ := stuck_of_poll clears ran rejected
    have shown : status = ⟨outcome.status.raw &&& ~~~Status.complete⟩ :=
      congrArg StatusWord.mk stuck.shown
    refine ⟨by rw [shown, stuck.latched], fun n => ?_⟩
    obtain ⟨out, after, polled, rfl, reads, clock, rfl⟩ := stuck.ends_polls n
    exact ⟨reads, clock, by rw [polled, shown]⟩

/-- The host asks for the configuration register of a card that is not selected. -/
def unselected : Loops Image.Made :=
  Loops.smallest.run (Loops.latching 55 0 ++ [.poll] ++ Loops.latching 51 0)

theorem refusals_repeat_unselected :
    ∃ outcome c b, unselected.commander.poll.run perform unselected.bridge =
        (.ok (outcome, c), b) ∧
      outcome.exchange = some (.rejected 51 (.refused (.wrongState 51 "idle"))) ∧
      ∃ reads clock, (Commander.polls 3 c).run perform b =
        (.ok (List.replicate 3 ⟨⟨b.registers.word Offset.status⟩, false,
            some (.rejected 51 (.refused (.wrongState 51 "idle")))⟩, c),
          { b with registers := { b.registers with reads }, clock }) := by
  have clears : Offset.status ∈ unselected.bridge.registers.clearOnOne := by decide +kernel
  have refused : (unselected.commander.poll.run perform unselected.bridge).1.map
      (fun out => out.1.exchange) = .ok (some (.rejected 51 (.refused (.wrongState 51 "idle")))) := by
    decide +kernel
  cases ran : unselected.commander.poll.run perform unselected.bridge with
  | mk result b =>
    rw [ran] at refused
    cases result with
    | error fault => cases refused
    | ok out =>
      obtain ⟨outcome, c⟩ := out
      have exchange : outcome.exchange = some (.rejected 51 (.refused (.wrongState 51 "idle"))) :=
        Except.ok.inj refused
      exact ⟨outcome, c, b, rfl, exchange,
        (refusals_repeat.2 _ _ _ _ _ _ _ clears ran exchange).2 3⟩

end SdBridge.Bridge
