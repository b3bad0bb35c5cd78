import SdBridge.Proofs.Card.Acceptance

/-!
Why a card does not accept a command, one case for each reason. A command is not both accepted and
rejected, and it is rejected for one reason only.
-/
namespace SdBridge.Card.Commands

inductive Rejects (request : Request) (c : Commands) : Failure ProtocolError → Prop where
  | illegal (unknown : ∀ command : Command, request.command.toNat ≠ command.index) :
    Rejects request c (.error (.illegalCommand request.command))
  /-- Only the card that it addresses minds the state at a command to select a card. -/
  | wrongState (command : Command) (index : request.command.toNat = command.index)
      (state : c.state ∉ command.states)
      (own : command = .selectCard → c.addressed request.argument = true) :
    Rejects request c (.error (.wrongState request.command c.state.name))
  | uncounted (index : request.command.toNat = 9) (state : c.state = .standby)
      (addressed : c.addressed request.argument = true)
      (large : ¬c.sectors.toNat * Image.sectorSize < UInt64.size) :
    Rejects request c (.fault (.overflow .multiply))

inductive RejectsApp (request : Request) (c : Commands) : Failure ProtocolError → Prop where
  | wrongState (command : AppCommand) (index : request.command.toNat = command.index)
      (state : c.state ∉ command.states) :
    RejectsApp request c (.error (.wrongState request.command c.state.name))
  | width (index : request.command.toNat = 6) (state : c.state = .transfer)
      (field : request.argument &&& 3 ≠ 0 ∧ request.argument &&& 3 ≠ 2) :
    RejectsApp request c (.error (.outOfRange request.command request.argument))
  | plain (index : ∀ command : AppCommand, request.command.toNat ≠ command.index) {failure}
      (rejects : Rejects request c failure) : RejectsApp request c failure

variable {request : Request} {c c' : Commands} {reply : Reply}
  {failure other : Failure ProtocolError}

theorem command_unique {a b : Command} (first : request.command.toNat = a.index)
    (second : request.command.toNat = b.index) : a = b :=
  Option.some.inj ((Command.ofIndex?_of_toNat first).symm.trans (Command.ofIndex?_of_toNat second))

theorem appCommand_unique {a b : AppCommand} (first : request.command.toNat = a.index)
    (second : request.command.toNat = b.index) : a = b :=
  Option.some.inj
    ((AppCommand.ofIndex?_of_toNat first).symm.trans (AppCommand.ofIndex?_of_toNat second))

/-- An accepted command has a meaning, and the card is in a state for it. -/
theorem Accepts.known (accepts : Accepts request c reply c') :
    ∃ command : Command, request.command.toNat = command.index ∧
      ((command = .selectCard → c.addressed request.argument = true) →
        c.state ∈ command.states) := by
  cases accepts with
  | reset index => exact ⟨.goIdleState, index, fun _ => by cases c.state <;> decide⟩
  | identify index state => exact ⟨.allSendCid, index, fun _ => by simp [state, Command.states]⟩
  | address index state =>
    exact ⟨.sendRelativeAddress, index, fun _ => by simpa [Command.states] using state⟩
  | select index state => exact ⟨.selectCard, index, fun _ => by simp [state, Command.states]⟩
  | deselect index addressed =>
    exact ⟨.selectCard, index, fun own => by simp [addressed] at own⟩
  | ignore index foreign _ _ state =>
    simp only [List.mem_cons, List.not_mem_nil, or_false] at index
    rcases index with index | index | index | index | index | index
    · refine ⟨.selectCard, index, fun own => ?_⟩
      rw [foreign (by omega)] at own
      simp at own
    · exact ⟨.sendInterfaceCondition, index, fun _ => state _ index (by decide)⟩
    · exact ⟨.sendCsd, index, fun _ => state _ index (by decide)⟩
    · exact ⟨.sendCid, index, fun _ => state _ index (by decide)⟩
    · exact ⟨.sendStatus, index, fun _ => state _ index (by decide)⟩
    · exact ⟨.appCommand, index, fun _ => state _ index (by decide)⟩
  | voltage index state =>
    exact ⟨.sendInterfaceCondition, index, fun _ => by simp [state, Command.states]⟩
  | capacity index state => exact ⟨.sendCsd, index, fun _ => by simp [state, Command.states]⟩
  | identity index state => exact ⟨.sendCid, index, fun _ => by simp [state, Command.states]⟩
  | stop index state => exact ⟨.stopTransmission, index, fun _ => by simp [state, Command.states]⟩
  | status index state => exact ⟨.sendStatus, index, fun _ => state⟩
  | blockLength index state | otherLength index state =>
    exact ⟨.setBlockLength, index, fun _ => by simp [state, Command.states]⟩
  | outside index state | read index state =>
    simp only [List.mem_cons, List.not_mem_nil, or_false] at index
    rcases index with index | index
    · exact ⟨.readSingleBlock, index, fun _ => by simp [state, Command.states]⟩
    · exact ⟨.readMultipleBlock, index, fun _ => by simp [state, Command.states]⟩
  | write index state =>
    simp only [List.mem_cons, List.not_mem_nil, or_false] at index
    rcases index with index | index
    · exact ⟨.writeBlock, index, fun _ => by simp [state, Command.states]⟩
    · exact ⟨.writeMultipleBlock, index, fun _ => by simp [state, Command.states]⟩
  | announce index => exact ⟨.appCommand, index, fun _ => by cases c.state <;> decide⟩

/-- The size of an addressed card in the stand-by state is told only if a word can hold it. -/
theorem Accepts.counted (accepts : Accepts request c reply c') (index : request.command.toNat = 9)
    (addressed : c.addressed request.argument = true) :
    c.sectors.toNat * Image.sectorSize < UInt64.size := by
  cases accepts with
  | capacity _ _ bytes size => exact lt_of_checkedMul size
  | ignore _ foreign =>
    rw [foreign (by omega)] at addressed
    contradiction
  | outside other | read other | write other =>
    simp only [List.mem_cons, List.not_mem_nil, or_false] at other
    omega
  | _ => omega

theorem Accepts.not_rejects (accepts : Accepts request c reply c') :
    ¬Rejects request c failure := by
  obtain ⟨command, meaning, state⟩ := accepts.known
  intro rejects
  cases rejects with
  | illegal unknown => exact unknown command meaning
  | wrongState other index wrong own =>
    obtain rfl := command_unique meaning index
    exact wrong (state own)
  | uncounted index _ addressed large => exact large (accepts.counted index addressed)

theorem Rejects.unique (first : Rejects request c failure) (second : Rejects request c other) :
    failure = other := by
  cases first with
  | illegal unknown =>
    cases second with
    | illegal => rfl
    | wrongState command index => exact absurd index (unknown command)
    | uncounted index => exact absurd index (unknown .sendCsd)
  | wrongState command index wrong =>
    cases second with
    | illegal unknown => exact absurd index (unknown command)
    | wrongState => rfl
    | uncounted nine state =>
      obtain rfl := command_unique index (b := .sendCsd) nine
      simp [state, Command.states] at wrong
  | uncounted nine state =>
    cases second with
    | illegal unknown => exact absurd nine (unknown .sendCsd)
    | wrongState command index wrong =>
      obtain rfl := command_unique index (b := .sendCsd) nine
      simp [state, Command.states] at wrong
    | uncounted => rfl

theorem AcceptsApp.not_rejectsApp (accepts : AcceptsApp request c reply c') :
    ¬RejectsApp request c failure := by
  -- An index that is that of an application command is met by no reason for other indices.
  have own (command : AppCommand) (index : request.command.toNat = command.index)
      (state : c.state ∈ command.states)
      (field : command = .setBusWidth → request.argument &&& 3 = 0 ∨ request.argument &&& 3 = 2) :
      ¬RejectsApp request c failure := by
    intro rejects
    cases rejects with
    | wrongState other same wrong =>
      obtain rfl := appCommand_unique index same
      exact wrong state
    | width six _ neither =>
      have width := appCommand_unique index (b := .setBusWidth) six
      exact (field width).elim neither.1 neither.2
    | plain none => exact none command index
  cases accepts with
  | width index state wideBus field =>
    refine own .setBusWidth index (by simp [state, AppCommand.states]) fun _ => ?_
    cases wideBus
    · exact .inl field
    · exact .inr field
  | status index state => exact own .sdStatus index (by simp [state, AppCommand.states]) nofun
  | operate index state | inquire index state =>
    exact own .sendOperatingCondition index (by simpa [AppCommand.states] using state) nofun
  | scr index state => exact own .sendScr index (by simp [state, AppCommand.states]) nofun
  | plain none accepts =>
    intro rejects
    cases rejects with
    | wrongState command index => exact none command index
    | width index => exact none .setBusWidth index
    | plain _ rejects => exact accepts.not_rejects rejects

theorem RejectsApp.unique (first : RejectsApp request c failure)
    (second : RejectsApp request c other) : failure = other := by
  cases first with
  | wrongState command index wrong =>
    cases second with
    | wrongState => rfl
    | width six state =>
      obtain rfl := appCommand_unique index (b := .setBusWidth) six
      simp [state, AppCommand.states] at wrong
    | plain none => exact absurd index (none command)
  | width six state =>
    cases second with
    | wrongState command index wrong =>
      obtain rfl := appCommand_unique index (b := .setBusWidth) six
      simp [state, AppCommand.states] at wrong
    | width => rfl
    | plain none => exact absurd six (none .setBusWidth)
  | plain none rejects =>
    cases second with
    | wrongState command index => exact absurd index (none command)
    | width six => exact absurd six (none .setBusWidth)
    | plain _ other => exact rejects.unique other

/-- Whether a command is rejected, and why, depends on the state, the address and the size. -/
theorem Rejects.congr (rejects : Rejects request c failure) (state : c'.state = c.state)
    (rca : c'.rca = c.rca) (sectors : c'.sectors = c.sectors) : Rejects request c' failure := by
  have addressed : c'.addressed request.argument = c.addressed request.argument := by
    rw [Commands.addressed, rca, Commands.addressed]
  cases rejects with
  | illegal unknown => exact .illegal unknown
  | wrongState command index wrong own =>
    rw [← state] at wrong ⊢
    exact .wrongState command index wrong (addressed ▸ own)
  | uncounted index standby own large =>
    exact .uncounted index (state.trans standby) (addressed.trans own) (sectors ▸ large)

theorem RejectsApp.congr (rejects : RejectsApp request c failure) (state : c'.state = c.state)
    (rca : c'.rca = c.rca) (sectors : c'.sectors = c.sectors) : RejectsApp request c' failure := by
  cases rejects with
  | wrongState command index wrong =>
    rw [← state] at wrong ⊢
    exact .wrongState command index wrong
  | width index transfer field => exact .width index (state.trans transfer) field
  | plain none rejects => exact .plain none (rejects.congr state rca sectors)

end SdBridge.Card.Commands
