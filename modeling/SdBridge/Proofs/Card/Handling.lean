import SdBridge.Proofs.Card.Rejection

/-!
What each branch of the handlers does to the command half and to the response buffer. A branch that
answers writes as many bytes as it announces; one that fails leaves both as it found them. Every
branch writes, announces and changes the state by itself, so this is shown branch by branch.
-/
namespace SdBridge.Card.Commands

section Run

variable {α β : Type} {c : Commands} {response : Response}

theorem bind_of_ok {work : Work α} {next : α → Work β} {desk desk' : Desk} {a : α}
    (ran : work desk = .ok a desk') : (work >>= next) desk = next a desk' := by
  simp only [bind, EStateM.bind, ran]

theorem bind_of_error {work : Work α} {next : α → Work β} {desk desk' : Desk}
    {failure : Failure ProtocolError} (failed : work desk = .error failure desk') :
    (work >>= next) desk = .error failure desk' := by
  simp only [bind, EStateM.bind, failed]

theorem current_bind (next : Commands → Work α) :
    (current >>= next) ⟨c, response⟩ = next c ⟨c, response⟩ := rfl

theorem change_bind (f : Commands → Commands) (next : Unit → Work α) :
    (change f >>= next) ⟨c, response⟩ = next () ⟨f c, response⟩ := rfl

theorem expect_of_mem {command : UInt8} {allowed : List State} (state : c.state ∈ allowed) :
    expect command allowed ⟨c, response⟩ = .ok () ⟨c, response⟩ := by
  rw [expect, current_bind, if_neg (not_not.2 state)]
  rfl

theorem expect_of_not_mem {command : UInt8} {allowed : List State} (state : c.state ∉ allowed) :
    expect command allowed ⟨c, response⟩ =
      .error (.error (.wrongState command c.state.name)) ⟨c, response⟩ := by
  rw [expect, current_bind, if_pos state]
  rfl

theorem hand_eq {job : Job} (fits : job.payload ≤ Ticket.payloadMask) (c : Commands)
    (response : Response) : hand job ⟨c, response⟩ = .ok () ⟨c.issued job, response⟩ := by
  rw [hand, current_bind, post_eq_ok fits]
  rfl

theorem short_eq (word : UInt32) (c : Commands) (response : Response) :
    short word ⟨c, response⟩ =
      .ok (Reply.short word).length ⟨c, (Reply.short word).writeTo response⟩ := rfl

theorem long_eq (register : Vector UInt8 16) (c : Commands) (response : Response) :
    long register ⟨c, response⟩ =
      .ok (Reply.long register).length ⟨c, (Reply.long register).writeTo response⟩ := by
  rw [Reply.writeTo_long]
  rfl

theorem silent_eq (c : Commands) (response : Response) : (pure 0 : Work Nat) ⟨c, response⟩ =
    .ok Reply.silent.length ⟨c, Reply.silent.writeTo response⟩ := by
  rw [Reply.writeTo_silent]
  rfl

theorem r1_eq (c : Commands) (response : Response) (extra : UInt32) : r1 extra ⟨c, response⟩ =
    .ok (c.statusReply extra).length ⟨c.reported, (c.statusReply extra).writeTo response⟩ := rfl

theorem r6_eq (c : Commands) (response : Response) : r6 ⟨c, response⟩ =
    .ok (c.addressReply c.rca).length ⟨c.reported, (c.addressReply c.rca).writeTo response⟩ := rfl

end Run

/-- A handler makes a reply, which it writes as long as it announces it, or it fails and changes
nothing, whatever is in the buffer. -/
inductive Handles (work : Work Nat) (c : Commands) (accepts : Reply → Commands → Prop)
    (rejects : Failure ProtocolError → Prop) : Prop where
  | replies {reply c'} (accepted : accepts reply c')
    (run : ∀ response, work ⟨c, response⟩ = .ok reply.length ⟨c', reply.writeTo response⟩)
  | fails {failure} (rejected : rejects failure)
    (run : ∀ response, work ⟨c, response⟩ = .error failure ⟨c, response⟩)

namespace Handles

variable {work : Work Nat} {c : Commands} {accepts accepts' : Reply → Commands → Prop}
  {rejects rejects' : Failure ProtocolError → Prop}

theorem mono (handles : Handles work c accepts rejects)
    (accepted : ∀ reply c', accepts reply c' → accepts' reply c')
    (rejected : ∀ failure, rejects failure → rejects' failure) :
    Handles work c accepts' rejects' := by
  cases handles with
  | replies holds run => exact .replies (accepted _ _ holds) run
  | fails holds run => exact .fails (rejected _ holds) run

theorem refuse {cause : ProtocolError} (given : rejects (.error cause)) :
    Handles (Commands.refuse cause) c accepts rejects :=
  .fails given fun _ => rfl

/-- A handler that minds the state fails in another state before it changed anything. -/
theorem expect {command : UInt8} {allowed : List State} {next : Unit → Work Nat}
    (wrong : c.state ∉ allowed → rejects (.error (.wrongState command c.state.name)))
    (right : c.state ∈ allowed → Handles (next ()) c accepts rejects) :
    Handles (Commands.expect command allowed >>= next) c accepts rejects := by
  by_cases state : c.state ∈ allowed
  · cases right state with
    | replies accepted run =>
      exact .replies accepted fun response =>
        (bind_of_ok (expect_of_mem state)).trans (run response)
    | fails rejected run =>
      exact .fails rejected fun response =>
        (bind_of_ok (expect_of_mem state)).trans (run response)
  · exact .fails (wrong state) fun _ => bind_of_error (expect_of_not_mem state)

/-- The command half is looked at and nothing else is done. -/
theorem current {next : Commands → Work Nat} (rest : Handles (next c) c accepts rejects) :
    Handles (Commands.current >>= next) c accepts rejects := by
  cases rest with
  | replies accepted run => exact .replies accepted run
  | fails rejected run => exact .fails rejected run

/-- A command for another card is passed over in silence. -/
theorem ifAddressed {argument : UInt32} {next : Commands → Work Nat}
    (own : c.addressed argument = true → Handles (next c) c accepts rejects)
    (foreign : c.addressed argument = false → Handles (pure 0) c accepts rejects) :
    Handles (Commands.current >>= fun c => if c.addressed argument then next c else pure 0) c
      accepts rejects := by
  refine .current ?_
  split
  · exact own ‹_›
  · exact foreign (Bool.not_eq_true _ ▸ ‹_›)

end Handles

section

variable {request : Request} {c : Commands}

/-- A command is passed over in silence. -/
theorem handles_ignore (index : request.command.toNat ∈ [7, 8, 9, 10, 13, 55])
    (foreign : request.command.toNat ≠ 8 → c.addressed request.argument = false)
    (unselected : request.command.toNat = 7 → c.state ≠ .transfer ∧ c.state ≠ .sendingData)
    (begun : request.command.toNat = 55 → c.state ≠ .idle)
    (state : ∀ command : Command, request.command.toNat = command.index →
      command ≠ .selectCard → c.state ∈ command.states)
    (range : request.command.toNat = 8 → (request.argument >>> 8) &&& 0xf ≠ voltageRange) :
    Handles (pure 0) c (Accepts request c) (Rejects request c) :=
  .replies (.ignore index foreign unselected begun state range) (silent_eq c)

theorem handles_reset (index : request.command.toNat = 0) :
    Handles (reset >>= fun _ => pure 0) c (Accepts request c) (Rejects request c) := by
  refine .replies (.reset index) fun response => ?_
  have done := hand_eq (show Job.idle.payload ≤ Ticket.payloadMask by decide)
    { c with state := .idle, rca := 0, status := 0, appExpected := false, wideBus := false }
    response
  rw [bind_of_ok (show reset ⟨c, response⟩ = _ from done)]
  exact silent_eq _ response

theorem handles_select (index : request.command.toNat = 7) :
    Handles (select request) c (Accepts request c) (Rejects request c) := by
  refine .current ?_
  split
  · rename_i addressed
    refine .expect (fun state => .wrongState .selectCard index state fun _ => addressed)
      fun state => ?_
    exact .replies (.select index (List.mem_singleton.1 state) addressed) fun _ => rfl
  · rename_i addressed
    rw [Bool.not_eq_true] at addressed
    split
    · rename_i state
      exact .replies (.deselect index addressed state) fun response =>
        (bind_of_ok (hand_eq (by decide) c response)).trans (silent_eq _ response)
    · rename_i state
      refine handles_ignore (by simp [index]) (fun _ => addressed) (fun _ => not_or.1 state)
        (by omega) ?_ (by omega)
      intro command other unequal
      exact absurd (command_unique other (b := .selectCard) index) unequal

theorem handles_read {job : UInt64 → Job} (command : Command)
    (index : request.command.toNat = command.index)
    (reading : command = .readSingleBlock ∨ command = .readMultipleBlock)
    (reads : job request.argument.toUInt64 = readJob request) :
    Handles (read job request) c (Accepts request c) (Rejects request c) := by
  have among : request.command.toNat ∈ [17, 18] := by
    rcases reading with rfl | rfl <;> simp [index, Command.index]
  obtain ⟨states, unequal⟩ : command.states = [.transfer] ∧ command ≠ .selectCard := by
    rcases reading with rfl | rfl <;> decide
  refine .expect (fun state => .wrongState command index (states ▸ state) ?_) fun state => ?_
  · exact fun same => absurd same unequal
  · have transfer := List.mem_singleton.1 state
    by_cases range : c.sectors ≤ request.argument.toUInt64
    · refine .replies (.outside among transfer range) fun response => ?_
      have missed : startRead request.argument.toUInt64 (job request.argument.toUInt64)
          ⟨c, response⟩ =
          .ok false ⟨{ c with status := c.status ||| Status.outOfRange }, response⟩ := by
        rw [startRead, current_bind, if_pos range]
        rfl
      exact bind_of_ok missed
    · refine .replies (.read among transfer (UInt64.not_le.1 range)) fun response => ?_
      have started : startRead request.argument.toUInt64 (job request.argument.toUInt64)
          ⟨c, response⟩ = .ok true ⟨{ c.issued (readJob request) with
            pending := some (.readSector request.argument.toUInt64) }, response⟩ := by
        rw [startRead, current_bind, if_neg range, reads]
        exact bind_of_ok (hand_eq (readJob_fits request) c response)
      exact bind_of_ok started

theorem handles_write (command : Command) (index : request.command.toNat = command.index)
    (writing : command = .writeBlock ∨ command = .writeMultipleBlock) :
    Handles (write request) c (Accepts request c) (Rejects request c) := by
  have among : request.command.toNat ∈ [24, 25] := by
    rcases writing with rfl | rfl <;> simp [index, Command.index]
  obtain ⟨states, unequal⟩ : command.states = [.transfer] ∧ command ≠ .selectCard := by
    rcases writing with rfl | rfl <;> decide
  refine .expect (fun state => .wrongState command index (states ▸ state) ?_) fun state => ?_
  · exact fun same => absurd same unequal
  · exact .replies (.write among (List.mem_singleton.1 state)) fun _ => rfl

theorem handles_sendCsd (index : request.command.toNat = 9) (state : c.state = .standby)
    (addressed : c.addressed request.argument = true) :
    Handles (match checkedMul c.sectors Image.sectorSize.toUInt64 with
      | .ok bytes => do
        change fun c => { c with pending := some (.getSize bytes) }
        long c.csd
      | .error fault => throw (.fault fault)) c (Accepts request c) (Rejects request c) := by
  by_cases counted : c.sectors.toNat * Image.sectorSize < UInt64.size
  · have size := checkedMul_eq_ok (b := Image.sectorSize.toUInt64) counted
    rw [size]
    exact .replies (.capacity index state _ size addressed) (long_eq c.csd { c with pending := _ })
  · rw [checkedMul_eq_error (b := Image.sectorSize.toUInt64) counted]
    exact .fails (.uncounted index state addressed counted) fun _ => rfl

/-- One case for each plain command. -/
theorem handles_plain : Handles (plain request) c (Accepts request c) (Rejects request c) := by
  cases meaning : Command.ofIndex? request.command with
  | none =>
    simp only [plain, meaning]
    exact .refuse (.illegal (Command.index_ne_of_ofIndex? meaning))
  | some command =>
    have index := Command.toNat_of_ofIndex? meaning
    have wrong (unequal : command ≠ .selectCard) (state : c.state ∉ command.states) :
        Rejects request c (.error (.wrongState request.command c.state.name)) :=
      .wrongState command index state fun same => absurd same unequal
    -- The state that a command asks for is checked before it is passed over in silence.
    have silent (among : request.command.toNat ∈ [8, 9, 10, 13, 55])
        (foreign : request.command.toNat ≠ 8 → c.addressed request.argument = false)
        (begun : request.command.toNat = 55 → c.state ≠ .idle) (state : c.state ∈ command.states)
        (range : request.command.toNat = 8 → (request.argument >>> 8) &&& 0xf ≠ voltageRange) :
        Handles (pure 0) c (Accepts request c) (Rejects request c) := by
      refine handles_ignore (List.mem_cons_of_mem 7 among) foreign ?_ begun ?_ range
      · intro seven
        simp [seven] at among
      · intro other same _
        rwa [command_unique same index]
    have elsewhere (among : request.command.toNat ∈ [9, 10, 13]) (state : c.state ∈ command.states)
        (foreign : c.addressed request.argument = false) :
        Handles (pure 0) c (Accepts request c) (Rejects request c) := by
      simp only [List.mem_cons, List.not_mem_nil, or_false] at among
      exact silent (by simp only [List.mem_cons]; omega) (fun _ => foreign) (by omega) state
        (by omega)
    simp only [plain, meaning]
    cases command
    all_goals simp only [Command.index] at index
    case goIdleState => exact handles_reset index
    case selectCard => exact handles_select index
    case readSingleBlock =>
      exact handles_read .readSingleBlock index (.inl rfl) (by simp [readJob, index])
    case readMultipleBlock =>
      exact handles_read .readMultipleBlock index (.inr rfl) (by simp [readJob, index])
    case writeBlock => exact handles_write .writeBlock index (.inl rfl)
    case writeMultipleBlock => exact handles_write .writeMultipleBlock index (.inr rfl)
    case appCommand =>
      refine .current ?_
      split
      · rename_i foreign
        exact silent (by simp [index]) (fun _ => by simpa using foreign.2) (fun _ => foreign.1)
          (by cases c.state <;> decide) (by omega)
      · rename_i own
        exact .replies (.announce index (by simpa [or_iff_not_imp_left] using own)) fun _ => rfl
    all_goals refine .expect (wrong (by decide)) fun state => ?_
    case allSendCid =>
      exact .replies (.identify index (List.mem_singleton.1 state))
        (long_eq c.cid { c with state := .ident })
    case sendRelativeAddress =>
      refine .replies (.address index (by simpa using state)) fun response => ?_
      rw [change_bind]
      -- Left open, the new address is computed whenever a field of the state is looked at.
      generalize nextRca c.rca = rca
      exact bind_of_ok (r6_eq { c with rca } response)
    case sendInterfaceCondition =>
      split
      · rename_i range
        exact silent (by simp [index]) (by omega) (by omega) state fun _ => range
      · rename_i range
        exact .replies (.voltage index (List.mem_singleton.1 state) (by simpa using range))
          (short_eq _ c)
    case sendCsd =>
      refine .ifAddressed (fun own => ?_) (elsewhere (by simp [index]) state)
      exact handles_sendCsd index (List.mem_singleton.1 state) own
    case sendCid =>
      refine .ifAddressed (fun own => ?_) (elsewhere (by simp [index]) state)
      exact .replies (.identity index (List.mem_singleton.1 state) own) (long_eq c.cid c)
    case stopTransmission =>
      exact .replies (.stop index (List.mem_singleton.1 state)) fun response =>
        bind_of_ok (hand_eq (by decide) c response)
    case sendStatus =>
      refine .ifAddressed (fun own => ?_) (elsewhere (by simp [index]) state)
      exact .replies (.status index state own) (r1_eq c · 0)
    case setBlockLength =>
      split
      · rename_i length
        exact .replies (.otherLength index (List.mem_singleton.1 state) length) fun _ => rfl
      · rename_i length
        exact .replies (.blockLength index (List.mem_singleton.1 state) (by simpa using length))
          fun _ => rfl

theorem handles_send {job : Commands → Job} {accepts : Reply → Commands → Prop}
    {rejects : Failure ProtocolError → Prop}
    (fits : (job c.reported).payload ≤ Ticket.payloadMask)
    (wrong : c.state ∉ [.transfer] → rejects (.error (.wrongState request.command c.state.name)))
    (accepted : c.state = .transfer → accepts (c.statusReply Status.appCommand)
      { c.reported.issued (job c.reported) with state := .sendingData }) :
    Handles (send job request) c accepts rejects := by
  refine .expect wrong fun state =>
    .replies (accepted (List.mem_singleton.1 state)) fun response => ?_
  refine (bind_of_ok (r1_eq c response Status.appCommand)).trans ?_
  exact bind_of_ok (hand_eq fits c.reported _)

/-- One case for each application command. -/
theorem handles_app : Handles (app request) c (AcceptsApp request c) (RejectsApp request c) := by
  cases meaning : AppCommand.ofIndex? request.command with
  | none =>
    simp only [app, meaning]
    have none := AppCommand.index_ne_of_ofIndex? meaning
    exact handles_plain.mono (fun _ _ accepts => .plain none accepts) fun _ rejects =>
      .plain none rejects
  | some command =>
    have index := AppCommand.toNat_of_ofIndex? meaning
    simp only [app, meaning]
    have wrong (state : c.state ∉ command.states) :
        RejectsApp request c (.error (.wrongState request.command c.state.name)) :=
      .wrongState command index state
    cases command
    all_goals simp only [AppCommand.index] at index
    case setBusWidth =>
      refine .expect wrong fun state => ?_
      have transfer := List.mem_singleton.1 state
      split
      · rename_i field
        exact .replies (.width index transfer false field) fun _ => rfl
      · rename_i notNarrow
        split
        · rename_i field
          exact .replies (.width index transfer true field) fun _ => rfl
        · rename_i notWide
          exact .refuse (.width index transfer ⟨notNarrow, notWide⟩)
    case sdStatus =>
      have fits : ∀ wideBus, (Job.sdStatus wideBus).payload ≤ Ticket.payloadMask := by decide
      exact handles_send (fits c.wideBus) wrong (.status index)
    case sendOperatingCondition =>
      refine .expect wrong fun state => ?_
      have early : c.state = .idle ∨ c.state = .ready := by simpa using state
      split
      · rename_i window
        exact .replies (.operate index early window) fun _ => rfl
      · rename_i window
        exact .replies (.inquire index early (by simpa using window)) fun _ => rfl
    case sendScr => exact handles_send (by decide) wrong (.scr index)

end

end SdBridge.Card.Commands
