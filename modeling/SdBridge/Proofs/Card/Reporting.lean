import SdBridge.Proofs.Card.Selection
import SdBridge.Proofs.Register.Bits

/-!
Status words. A refused command leaves a mark, and the next status word reports it and clears it.
What is wrong with the command at hand is told in its own response.
-/
namespace SdBridge.Card

namespace Status

def flag (applies : Bool) (bits : UInt32) : UInt32 := if applies then bits else 0

/-- No flag hides another one, nor the state. -/
theorem flags_of_word (state : State) : ∀ app illegal range length protection : Bool,
    let word := word (flag illegal illegalCommand ||| (flag range outOfRange |||
      flag length blockLengthError ||| flag protection writeProtectViolation))
      (flag app appCommand) state
    (word &&& stateMask) >>> stateShift = state.code ∧ word &&& readyForData ≠ 0 ∧
      (word &&& appCommand ≠ 0 ↔ app = true) ∧ (word &&& illegalCommand ≠ 0 ↔ illegal = true) ∧
      (word &&& outOfRange ≠ 0 ↔ range = true) ∧ (word &&& blockLengthError ≠ 0 ↔ length = true) ∧
      (word &&& writeProtectViolation ≠ 0 ↔ protection = true) ∧
      word &&& ~~~(stateMask ||| readyForData ||| appCommand ||| illegalCommand ||| outOfRange |||
        blockLengthError ||| writeProtectViolation) = 0 := by
  cases state <;> decide +kernel

/-- A report clears every error, those it tells of included. -/
theorem errors_cleared : ∀ illegal range length protection : Bool,
    (flag illegal illegalCommand ||| (flag range outOfRange ||| flag length blockLengthError |||
      flag protection writeProtectViolation)) &&& ~~~errors = 0 := by
  decide +kernel

/-- The lower half of the response that publishes an address. -/
theorem bit_condensed (word : UInt32) {i : Nat} (low : i < 16) : bit (condensed word) i =
    if i ≤ 12 then bit word i else if i = 13 then bit word 19 else bit word (i + 8) := by
  have masks : ∀ j < 16, bit 0xc000 j = decide (13 < j) ∧ bit 0x2000 j = decide (j = 13) ∧
      bit 0x1fff j = decide (j ≤ 12) := by decide
  obtain ⟨upper, middle, lower⟩ := masks i low
  have shifts : (8 : UInt32).toNat % 32 = 8 ∧ (6 : UInt32).toNat % 32 = 6 := by decide
  simp only [condensed, bit_or, bit_and, bit_shiftRight, upper, middle, lower, shifts]
  by_cases lowest : i ≤ 12
  · simp [lowest, Nat.not_lt.2 (Nat.le_succ_of_le lowest), show i ≠ 13 by omega]
  · by_cases next : i = 13
    · simp [next]
    · simp [lowest, next, show 13 < i by omega, Nat.add_comm 8]

theorem bit_published (rca : UInt16) (word : UInt32) {i : Nat} (low : i < 16) :
    bit ((rca.toUInt32 <<< 16) ||| condensed word) i =
      if i ≤ 12 then bit word i else if i = 13 then bit word 19 else bit word (i + 8) := by
  rw [bit_or, bit_shiftLeft_of_lt _ (by simpa using low), Bool.false_or, bit_condensed word low]

end Status

namespace Exchange

def Illegal (x : Exchange) : Prop :=
  ∃ command, x.result = .error (.error (.illegalCommand command))

/-- A prefix, or an application command that is answered by a status word. -/
def ForApp (x : Exchange) : Prop := x.index = 55 ∨ x.isApp = true ∧ x.index ∈ [6, 13, 51]

/-- The command is answered by a status word, if by a word at all. -/
def AsksStatus (x : Exchange) : Prop := x.index ∈ [7, 12, 13, 16, 17, 18, 24, 25] ∨ x.ForApp

/-- The response carries the pending errors: it is a status word or publishes an address. -/
def Reports (x : Exchange) : Prop :=
  (x.AsksStatus ∨ x.index = 3) ∧ ∃ word, x.result = .ok (.short word)

def Beyond (sectors : UInt64) (x : Exchange) : Prop :=
  x.index ∈ [17, 18] ∧ sectors ≤ x.request.argument.toUInt64

def OtherLength (x : Exchange) : Prop := x.index = 16 ∧ x.request.argument ≠ 512

def Writes (x : Exchange) : Prop := x.index ∈ [24, 25]

instance (x : Exchange) : Decidable x.ForApp := inferInstanceAs (Decidable (_ ∨ _))

instance (sectors : UInt64) (x : Exchange) : Decidable (x.Beyond sectors) :=
  inferInstanceAs (Decidable (_ ∧ _))

instance (x : Exchange) : Decidable x.OtherLength := inferInstanceAs (Decidable (_ ∧ _))

instance (x : Exchange) : Decidable x.Writes := inferInstanceAs (Decidable (_ ∈ _))

/-- The error bits that a command earns by itself. -/
def ownError (x : Exchange) : UInt32 :=
  Status.flag (x.Beyond x.before.sectors) Status.outOfRange |||
    Status.flag x.OtherLength Status.blockLengthError |||
    Status.flag x.Writes Status.writeProtectViolation

def ownExtra (x : Exchange) : UInt32 := Status.flag x.ForApp Status.appCommand

end Exchange

/-- A command was illegal, and neither a report nor a reset came after it. -/
def Owed (past : List Exchange) : Prop :=
  Since (fun _ x => x.Illegal) (fun y => ¬y.Reports ∧ ¬y.Resets) past

structure Exchange.Tells (x : Exchange) (sectors : UInt64) (owed : Prop) (word : UInt32) :
    Prop where
  state : (word &&& Status.stateMask) >>> Status.stateShift = x.before.state.code
  ready : word &&& Status.readyForData ≠ 0
  app : word &&& Status.appCommand ≠ 0 ↔ x.ForApp
  illegal : word &&& Status.illegalCommand ≠ 0 ↔ owed
  range : word &&& Status.outOfRange ≠ 0 ↔ x.Beyond sectors
  length : word &&& Status.blockLengthError ≠ 0 ↔ x.OtherLength
  protection : word &&& Status.writeProtectViolation ≠ 0 ↔ x.Writes
  others : word &&& ~~~(Status.stateMask ||| Status.readyForData ||| Status.appCommand |||
    Status.illegalCommand ||| Status.outOfRange ||| Status.blockLengthError |||
    Status.writeProtectViolation) = 0

inductive Exchange.Report (x : Exchange) : Except (Failure ProtocolError) Reply → UInt32 → Prop where
  | word (asks : x.AsksStatus) :
    Report x (.ok (.short (Status.word (x.before.status ||| x.ownError) x.ownExtra x.before.state)))
      ((x.before.status ||| x.ownError) &&& ~~~Status.errors)
  | address (index : x.index = 3) (rca : UInt16) :
    Report x (.ok (.short ((rca.toUInt32 <<< 16) |||
      Status.condensed (Status.word x.before.status 0 x.before.state))))
      (x.before.status &&& ~~~Status.errors)
  | reset (resets : x.Resets) : Report x (.ok .silent) 0
  | illegal (command : UInt8) :
    Report x (.error (.error (.illegalCommand command))) (x.before.status ||| Status.illegalCommand)
  | other {result : Except (Failure ProtocolError) Reply} (running : ¬x.Resets)
      (known : ∀ command, result ≠ .error (.error (.illegalCommand command)))
      (silent : ∀ word, result = .ok (.short word) → ¬x.AsksStatus ∧ x.index ≠ 3) :
    Report x result x.before.status

namespace Exchange

variable {x : Exchange} {reply : Reply} {after : Commands}

/-- A command with nothing wrong about itself. -/
theorem report_clean (asks : x.AsksStatus) (error : x.ownError = 0) {extra : UInt32}
    (own : x.ownExtra = extra) :
    x.Report (.ok (x.before.prepared.statusReply extra)) x.before.prepared.reported.status := by
  have word := Report.word asks
  rw [error, own, UInt32.or_zero] at word
  exact word

/-- A command that earns an error bit. -/
theorem report_error (asks : x.AsksStatus) {error : UInt32} (own : x.ownError = error)
    (extra : x.ownExtra = 0) :
    x.Report (.ok (.short (Status.word (x.before.status ||| error) 0 x.before.state)))
      ((x.before.status ||| error) &&& ~~~Status.errors) := by
  have word := Report.word asks
  rwa [own, extra] at word

theorem not_asksStatus {n : Nat} (index : x.index = n)
    (other : n ∉ [6, 7, 12, 13, 16, 17, 18, 24, 25, 51, 55]) : ¬x.AsksStatus := by
  simp only [List.mem_cons, List.not_mem_nil, or_false, not_or] at other
  simp [AsksStatus, ForApp, index, other]

theorem AsksStatus.index_ne (asks : x.AsksStatus) : x.index ≠ 3 :=
  fun index => not_asksStatus index (by simp) asks

theorem ownError_eq_zero {n : Nat} (index : x.index = n)
    (calm : n ∉ [16, 17, 18, 24, 25]) : x.ownError = 0 := by
  simp only [List.mem_cons, List.not_mem_nil, or_false, not_or] at calm
  simp [ownError, Status.flag, Beyond, OtherLength, Writes, index, calm]

theorem ownExtra_eq_zero (plain : x.isApp = true → ∀ command : AppCommand, x.index ≠ command.index)
    (index : x.index ≠ 55) : x.ownExtra = 0 := by
  suffices other : ¬x.ForApp by simp [ownExtra, Status.flag, other]
  rintro (announces | ⟨app, member⟩)
  · exact index announces
  · have other := plain app
    simp only [List.mem_cons, List.not_mem_nil, or_false] at member
    rcases member with same | same | same
    · exact other .setBusWidth same
    · exact other .sdStatus same
    · exact other .sendScr same

theorem ownExtra_of_forApp (forApp : x.ForApp) : x.ownExtra = Status.appCommand := by
  simp [ownExtra, Status.flag, forApp]

theorem report_of_accepts (accepts : Commands.Accepts x.request x.before.prepared reply after)
    (plain : x.isApp = true → ∀ command : AppCommand, x.index ≠ command.index) :
    x.Report (.ok reply) after.status := by
  have of_index {n : Nat} (index : x.request.command.toNat = n) : x.index = n := index
  cases accepts with
  | reset index => exact .reset index
  | address index =>
    -- Left open, the new address is computed whenever a field of the state is looked at.
    generalize Commands.nextRca x.before.prepared.rca = rca
    exact .address index rca
  | identify index | deselect index | capacity index | identity index =>
    have running : ¬x.Resets := by simp [Resets, of_index index]
    exact .other running (by simp) (by simp)
  | ignore index =>
    have running : ¬x.Resets := by
      intro resets
      simp only [List.mem_cons, List.not_mem_nil, or_false] at index
      simp only [Resets, Exchange.index] at resets
      omega
    exact .other running (by simp) (by simp)
  | voltage index =>
    have running : ¬x.Resets := by simp [Resets, of_index index]
    have other : ¬x.AsksStatus := not_asksStatus index (by simp)
    exact .other running (by simp) fun _ _ => ⟨other, by simp [of_index index]⟩
  | select index | stop index | status index =>
    have asks : x.AsksStatus := .inl (by simp [of_index index])
    have extra := ownExtra_eq_zero plain (by simp [of_index index])
    exact report_clean asks (ownError_eq_zero index (by simp)) extra
  | announce index =>
    exact report_clean (.inr (.inl index)) (ownError_eq_zero index (by simp))
      (ownExtra_of_forApp (.inl index))
  | blockLength index _ length =>
    have error : x.ownError = 0 := by
      simp [ownError, Status.flag, Beyond, OtherLength, Writes, of_index index, length, Commands.blockLength]
    exact report_clean (.inl (by simp [of_index index])) error
      (ownExtra_eq_zero plain (by simp [of_index index]))
  | otherLength index _ length =>
    have own : x.ownError = Status.blockLengthError := by
      have other : x.OtherLength := ⟨index, length⟩
      simp [ownError, Status.flag, Beyond, Writes, of_index index, other]
    exact report_error (.inl (by simp [of_index index])) own
      (ownExtra_eq_zero plain (by simp [of_index index]))
  | outside index _ range =>
    have asks : x.AsksStatus := .inl ((show [17, 18] ⊆ _ by simp) index)
    have beyond : x.Beyond x.before.sectors := ⟨index, range⟩
    simp only [List.mem_cons, List.not_mem_nil, or_false] at index
    have other : x.index ≠ 55 ∧ ¬x.OtherLength ∧ ¬x.Writes := by
      simp only [OtherLength, Writes, Exchange.index, List.mem_cons, List.not_mem_nil, or_false]
      omega
    have own : x.ownError = Status.outOfRange := by simp [ownError, Status.flag, beyond, other]
    exact report_error asks own (ownExtra_eq_zero plain other.1)
  | read index _ range =>
    have asks : x.AsksStatus := .inl ((show [17, 18] ⊆ _ by simp) index)
    have within : ¬x.Beyond x.before.sectors := fun beyond => UInt64.not_le.2 range beyond.2
    simp only [List.mem_cons, List.not_mem_nil, or_false] at index
    have other : x.index ≠ 55 ∧ ¬x.OtherLength ∧ ¬x.Writes := by
      simp only [OtherLength, Writes, Exchange.index, List.mem_cons, List.not_mem_nil, or_false]
      omega
    have error : x.ownError = 0 := by simp [ownError, Status.flag, within, other]
    exact report_clean asks error (ownExtra_eq_zero plain other.1)
  | write index =>
    have asks : x.AsksStatus := .inl ((show [24, 25] ⊆ _ by simp) index)
    have writes : x.Writes := index
    simp only [List.mem_cons, List.not_mem_nil, or_false] at index
    have other : x.index ≠ 55 ∧ ¬x.Beyond x.before.sectors ∧ ¬x.OtherLength := by
      simp only [OtherLength, Beyond, Exchange.index, List.mem_cons, List.not_mem_nil, or_false]
      omega
    have own : x.ownError = Status.writeProtectViolation := by simp [ownError, Status.flag, writes, other]
    exact report_error asks own (ownExtra_eq_zero plain other.1)

theorem report_of_acceptsApp (app : x.isApp = true)
    (accepts : Commands.AcceptsApp x.request x.before.prepared reply after) :
    x.Report (.ok reply) after.status := by
  have of_index {n : Nat} (index : x.request.command.toNat = n) : x.index = n := index
  cases accepts with
  | width index | status index | scr index =>
    have forApp : x.ForApp := .inr ⟨app, by simp [of_index index]⟩
    exact report_clean (.inr forApp) (ownError_eq_zero index (by simp)) (ownExtra_of_forApp forApp)
  | operate index | inquire index =>
    have running : ¬x.Resets := by simp [Resets, of_index index]
    have other : ¬x.AsksStatus := not_asksStatus index (by simp)
    exact .other running (by simp) fun _ _ => ⟨other, by simp [of_index index]⟩
  | plain other accepts => exact report_of_accepts accepts fun _ => other

theorem report (x : Exchange) : x.Report x.result x.after.status := by
  have answered := x.answered
  have resets (accepted : ¬x.Accepted) : ¬x.Resets := fun resets => accepted resets.accepted
  generalize result : x.result = answer at answered
  generalize x.after = after at answered ⊢
  cases answered with
  | plain plain accepts =>
    refine report_of_accepts accepts fun app => ?_
    rw [isApp, plain] at app
    contradiction
  | app app accepts => exact report_of_acceptsApp app accepts
  | @refused cause refused =>
    have running : ¬x.Resets := resets (by simp [Accepted, result])
    cases cause with
    | illegalCommand command => exact .illegal command
    | wrongState | outOfRange => exact .other running (by simp) (by simp)
  | faulted fault =>
    have running : ¬x.Resets := resets (by simp [Accepted, result])
    exact .other running (by simp) (by simp)

theorem tells_word {sectors : UInt64} {owed : Prop} {illegal : Bool} (size : x.before.sectors = sectors)
    (status : x.before.status = Status.flag illegal Status.illegalCommand)
    (told : illegal = true ↔ owed) : x.Tells sectors owed
      (Status.word (x.before.status ||| x.ownError) x.ownExtra x.before.state) := by
  rw [status, ownError, ownExtra, size]
  obtain ⟨state, ready, app, illegal, range, length, protection, others⟩ :=
    Status.flags_of_word x.before.state x.ForApp illegal (x.Beyond sectors) x.OtherLength x.Writes
  exact ⟨state, ready, app.trans decide_eq_true_iff, illegal.trans told,
    range.trans decide_eq_true_iff, length.trans decide_eq_true_iff,
    protection.trans decide_eq_true_iff, others⟩

end Exchange

structure Latched (sectors : UInt64) (past : List Exchange) (c : Commands) : Prop where
  size : c.sectors = sectors
  status : ∃ illegal, c.status = Status.flag illegal Status.illegalCommand ∧
    (illegal = true ↔ Owed past)

section Next

variable {past : List Exchange} {x : Exchange}

theorem not_owed_of_reports (reports : x.Reports) : ¬Owed (past ++ [x]) := by
  rw [Owed, since_append]
  rintro (⟨command, illegal⟩ | ⟨-, others, -⟩)
  · obtain ⟨-, word, result⟩ := reports
    simp [result] at illegal
  · exact others reports

theorem not_owed_of_resets (resets : x.Resets) : ¬Owed (past ++ [x]) := by
  rw [Owed, since_append]
  rintro (⟨command, illegal⟩ | ⟨-, -, others⟩)
  · exact Exchange.not_refused_of_accepted resets.accepted ⟨_, illegal⟩
  · exact others resets

theorem Latched.next {sectors : UInt64} (latched : Latched sectors past x.before) :
    Latched sectors (past ++ [x]) x.after := by
  refine ⟨x.effect.sectors.trans latched.size, ?_⟩
  obtain ⟨illegal, status, told⟩ := latched.status
  have report := x.report
  generalize result : x.result = answer at report
  generalize x.after.status = after at report ⊢
  cases report with
  | word asks =>
    refine ⟨false, ?_, by simp [not_owed_of_reports ⟨.inl asks, _, result⟩]⟩
    rw [status]
    exact Status.errors_cleared illegal _ _ _
  | address index rca =>
    refine ⟨false, ?_, by simp [not_owed_of_reports ⟨.inr index, _, result⟩]⟩
    rw [status]
    simpa [Status.flag] using Status.errors_cleared illegal false false false
  | reset resets => exact ⟨false, rfl, by simp [not_owed_of_resets resets]⟩
  | illegal command =>
    refine ⟨true, ?_, iff_of_true rfl (since_append.2 (.inl ⟨command, result⟩))⟩
    rw [status]
    cases illegal <;> rfl
  | other running known silent =>
    have calm : ¬x.Illegal := by
      rintro ⟨command, illegal⟩
      rw [result] at illegal
      exact known command illegal
    have quiet : ¬x.Reports := by
      rintro ⟨asks, word, reply⟩
      rw [result] at reply
      exact asks.elim (silent word reply).1 (silent word reply).2
    refine ⟨illegal, status, told.trans ?_⟩
    rw [Owed, Owed, since_append, or_iff_right calm, and_iff_left ⟨quiet, running⟩]

end Next

namespace Dialogue

variable {β : Type} [Image.Store β]

theorem latched_run (image : β) (identity : Identity) (turns : List Turn) :
    Latched (Image.Store.sectorCount image) (run image identity turns).exchanges
        (run image identity turns).commands ∧
      ∀ k x, (run image identity turns).exchanges[k]? = some x →
        Latched (Image.Store.sectorCount image) ((run image identity turns).exchanges.take k)
          x.before := by
  apply holds_run
  · exact ⟨rfl, false, rfl, by simp [Owed, not_since_nil]⟩
  · intro past c finished latched
    simp only [Commands.sync]
    split
    · exact ⟨latched.size, latched.status⟩
    · exact latched
  · intro past c request latched
    exact Latched.next (x := ⟨request, c⟩) latched

/-- Every status word tells the state that the command met, what is wrong with the command, and
whether one was illegal since the last report. -/
theorem status_told (image : β) (identity : Identity) (turns : List Turn) :
    let d := run image identity turns
    (d.commands.status = 0 ∨ d.commands.status = Status.illegalCommand) ∧
      ∀ k x (word : UInt32), d.exchanges[k]? = some x → x.result = .ok (.short word) →
        let owed := Owed (d.exchanges.take k)
        (x.AsksStatus → x.Tells (Image.Store.sectorCount image) owed word) ∧
          (x.index = 3 → (word >>> 16).toUInt16 = x.after.rca ∧
            ∃ status, x.Tells (Image.Store.sectorCount image) owed status ∧
              bit word 15 = bit status 23 ∧ bit word 14 = bit status 22 ∧
              bit word 13 = bit status 19 ∧ ∀ i ≤ 12, bit word i = bit status i) := by
  intro d
  obtain ⟨now, past⟩ := latched_run image identity turns
  constructor
  · obtain ⟨illegal, status, -⟩ := now.status
    cases illegal with
    | false => exact .inl status
    | true => exact .inr status
  · intro k x word listed result owed
    obtain ⟨size, illegal, status, told⟩ := past k x listed
    have tells := Exchange.tells_word size status told
    have report := x.report
    rw [result] at report
    constructor
    · intro asks
      generalize x.after.status = after at report
      cases report with
      | word => exact tells
      | address index => exact absurd index asks.index_ne
      | other running known silent => exact absurd asks (silent word rfl).1
    · intro index
      constructor
      · rcases x.move.address with ⟨resets, -⟩ | ⟨⟨-, same, again, published⟩, -⟩ | ⟨stays, -⟩
        · exact absurd (resets.symm.trans index) (by simp)
        · rw [result] at again
          cases again
          exact published
        · exact absurd ⟨_, result⟩ (stays.silent index)
      · generalize x.after.status = after at report
        cases report with
        | word asks => exact absurd index asks.index_ne
        | address index rca =>
          have extra : x.ownExtra = 0 := by simp [Exchange.ownExtra, Status.flag, Exchange.ForApp, index]
          rw [Exchange.ownError_eq_zero index (by simp), extra, UInt32.or_zero] at tells
          refine ⟨_, tells, ?_, ?_, ?_, fun i low => ?_⟩
          · exact Status.bit_published rca _ (by simp)
          · exact Status.bit_published rca _ (by simp)
          · exact Status.bit_published rca _ (by simp)
          · rw [Status.bit_published rca _ (by omega), if_pos low]
        | other running known silent => exact absurd index (silent word rfl).2

/-- A command that does not exist is given before a prefix, and again before an address is asked
for. -/
def illegalTwice : List Turn :=
  let command (index : UInt8) (argument : UInt32) : List Turn :=
    [.sync ⟨index, argument, 0⟩, .answer]
  command 1 0 ++ command 55 0 ++ command 41 Card.ocrVoltageWindow ++ command 2 0 ++ command 1 0 ++
    command 3 0

theorem status_told_illegalTwice :
    let d := run Handshake.blank {} illegalTwice
    Owed (d.exchanges.take 1) ∧ ∃ x, d.exchanges[5]? = some x ∧
      ∃ status, x.Tells 1 (Owed (d.exchanges.take 5)) status ∧ bit status 22 = true := by
  intro d
  obtain ⟨-, each⟩ := status_told Handshake.blank {} illegalTwice
  have announced : (d.exchanges[1]?.map fun x => (x.index, x.result)) =
      some (55, .ok (.short 0x00400120)) := by decide +kernel
  have addressed : (d.exchanges[5]?.map fun x => (x.index, x.result)) =
      some (3, .ok (.short 0x45674500)) := by decide +kernel
  constructor
  · obtain ⟨x, listed, same⟩ := Option.map_eq_some_iff.1 announced
    rw [Prod.mk.injEq] at same
    have tells := (each 1 x _ listed same.2).1 (.inr (.inl same.1))
    exact tells.illegal.1 (by decide)
  · obtain ⟨x, listed, same⟩ := Option.map_eq_some_iff.1 addressed
    rw [Prod.mk.injEq] at same
    obtain ⟨-, status, tells, -, illegal, -⟩ := (each 5 x _ listed same.2).2 same.1
    exact ⟨x, listed, status, tells, illegal.symm.trans (by decide)⟩

end Dialogue
end SdBridge.Card
