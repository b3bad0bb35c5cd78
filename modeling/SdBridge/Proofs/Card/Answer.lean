import SdBridge.Card
import SdBridge.Proofs.Card.Handling

/-!
The answer to a command, apart from the buffer. It can be told from a run over any buffer, since the
handlers write what they announce and look at nothing that is in the buffer before.
-/
namespace SdBridge.Card

namespace Commands

/-- What is done with a command once the data state is up to date. -/
def answer (request : Request) (c : Commands) : Except (Failure ProtocolError) Reply × Commands :=
  match handle request ⟨c, Vector.replicate 16 0⟩ with
  | .ok length desk => (.ok (.ofBuffer length desk.response), desk.commands)
  | .error failure desk => (.error failure, desk.commands)

def dispatch (finished : Ticket) (request : Request) (c : Commands) :
    Except (Failure ProtocolError) Reply × Commands :=
  (c.sync finished).answer request

/-- The state in which a handler finds the command half. -/
def prepared (c : Commands) : Commands :=
  { c with pending := none, refused := none, appExpected := false }

def noted (cause : ProtocolError) (status : UInt32) : UInt32 :=
  match cause with
  | .illegalCommand _ => status ||| Status.illegalCommand
  | .wrongState _ _ | .outOfRange _ _ => status

def declined (request : Request) (cause : ProtocolError) (c : Commands) : Commands :=
  { c with
    pending := none
    appExpected := false
    refused := if c.readsAsApp request then some request else none
    status := noted cause c.status }

/-- Why a command is not accepted, read as it is to be read. -/
def RejectsAs (request : Request) (c : Commands) (failure : Failure ProtocolError) : Prop :=
  if c.readsAsApp request then RejectsApp request c.prepared failure
  else Rejects request c.prepared failure

/-- The ways in which a command is answered. -/
inductive Answered (request : Request) (c : Commands) :
    Except (Failure ProtocolError) Reply → Commands → Prop where
  | plain (plain : c.readsAsApp request = false) {reply c'}
      (accepts : Accepts request c.prepared reply c') : Answered request c (.ok reply) c'
  | app (app : c.readsAsApp request = true) {reply c'}
      (accepts : AcceptsApp request c.prepared reply c') : Answered request c (.ok reply) c'
  | refused {cause} (rejects : c.RejectsAs request (.error cause)) :
    Answered request c (.error (.error cause)) (c.declined request cause)
  | faulted {fault} (rejects : c.RejectsAs request (.fault fault)) :
    Answered request c (.error (.fault fault)) c.prepared

def written (response : Response) :
    Except (Failure ProtocolError) Reply × Commands →
      EStateM.Result (Failure ProtocolError) Desk Nat
  | (.ok reply, c) => .ok reply.length ⟨c, reply.writeTo response⟩
  | (.error failure, c) => .error failure ⟨c, response⟩

variable {request : Request} {c c' : Commands} {response : Response} {reply : Reply}

theorem catch_of_ok {work : Work Nat} {next : Failure ProtocolError → Work Nat} {desk desk' : Desk}
    {length : Nat} (ran : work desk = .ok length desk') :
    (tryCatch work next) desk = .ok length desk' := by
  simp only [tryCatch, tryCatchThe, MonadExceptOf.tryCatch, EStateM.tryCatch, ran]

theorem catch_of_error {work : Work Nat} {next : Failure ProtocolError → Work Nat}
    {desk desk' : Desk} {failure : Failure ProtocolError}
    (failed : work desk = .error failure desk') :
    (tryCatch work next) desk = next failure desk' := by
  simp only [tryCatch, tryCatchThe, MonadExceptOf.tryCatch, EStateM.tryCatch, failed]
  rfl

def handlerOf (request : Request) (c : Commands) : Work Nat :=
  if c.readsAsApp request then app request else plain request

theorem handles_meant (request : Request) (c : Commands) :
    Handles (handlerOf request c) c.prepared (fun reply c' => Answered request c (.ok reply) c')
      (c.RejectsAs request) := by
  rw [handlerOf]
  by_cases isApp : c.readsAsApp request = true
  · rw [if_pos isApp]
    refine handles_app.mono (fun _ _ => .app isApp) fun _ rejects => ?_
    rwa [RejectsAs, if_pos isApp]
  · rw [if_neg isApp]
    refine handles_plain.mono (fun _ _ => .plain (Bool.not_eq_true _ ▸ isApp)) fun _ rejects => ?_
    rwa [RejectsAs, if_neg isApp]

theorem noteRefusal_eq (request : Request) (c : Commands) (cause : ProtocolError)
    (response : Response) :
    noteRefusal request (c.readsAsApp request) cause ⟨c.prepared, response⟩ =
      .ok () ⟨c.declined request cause, response⟩ := by
  cases isApp : c.readsAsApp request <;> cases cause <;> simp only [declined, isApp] <;> rfl

theorem handle_of_replies
    (run : ∀ response, handlerOf request c ⟨c.prepared, response⟩ =
      .ok reply.length ⟨c', reply.writeTo response⟩) (response : Response) :
    handle request ⟨c, response⟩ = written response (.ok reply, c') :=
  catch_of_ok (run response)

/-- A refusal is noted once the handler is done. A fault is not. -/
theorem handle_of_fails {failure : Failure ProtocolError}
    (run : ∀ response, handlerOf request c ⟨c.prepared, response⟩ =
      .error failure ⟨c.prepared, response⟩) (response : Response) :
    handle request ⟨c, response⟩ = written response (.error failure,
      match failure with
      | .error cause => c.declined request cause
      | .fault _ => c.prepared) := by
  refine (catch_of_error (run response)).trans ?_
  cases failure with
  | fault fault => rfl
  | error cause => exact bind_of_ok (noteRefusal_eq request c cause response)

/-- Every answer is one of these, and it is the same through any buffer. -/
theorem handled (request : Request) (c : Commands) : ∃ result c', Answered request c result c' ∧
    ∀ response, handle request ⟨c, response⟩ = written response (result, c') := by
  cases handles_meant request c with
  | replies answered run => exact ⟨_, _, answered, handle_of_replies run⟩
  | @fails failure rejects run =>
    refine ⟨_, _, ?_, handle_of_fails run⟩
    cases failure with
    | fault fault => exact .faulted rejects
    | error cause => exact .refused rejects

theorem answer_of_run {result : Except (Failure ProtocolError) Reply}
    (run : ∀ response, handle request ⟨c, response⟩ = written response (result, c')) :
    c.answer request = (result, c') := by
  rw [answer, run]
  cases result with
  | error failure => rfl
  | ok reply => exact congrArg (fun reply => (Except.ok reply, c')) (reply.ofBuffer_writeTo _)

theorem answered (request : Request) (c : Commands) :
    Answered request c (c.answer request).1 (c.answer request).2 := by
  obtain ⟨result, c', answered, run⟩ := handled request c
  rwa [answer_of_run run]

/-- As many bytes are written as are announced, and none if the command fails. -/
theorem handle_eq (request : Request) (c : Commands) (response : Response) :
    handle request ⟨c, response⟩ = written response (c.answer request) := by
  obtain ⟨result, c', -, run⟩ := handled request c
  rw [answer_of_run run, run]

theorem RejectsAs.unique {failure other : Failure ProtocolError}
    (first : c.RejectsAs request failure) (second : c.RejectsAs request other) :
    failure = other := by
  rw [RejectsAs] at first second
  split at first
  · rw [if_pos ‹_›] at second
    exact RejectsApp.unique first second
  · rw [if_neg ‹_›] at second
    exact Rejects.unique first second

theorem not_rejectsAs_of_accepted {failure : Failure ProtocolError}
    (answered : Answered request c (.ok reply) c') : ¬c.RejectsAs request failure := by
  intro rejects
  rw [RejectsAs] at rejects
  cases answered with
  | plain plain accepts =>
    rw [plain] at rejects
    exact accepts.not_rejects rejects
  | app app accepts =>
    rw [app] at rejects
    exact accepts.not_rejectsApp rejects

theorem answer_of_rejects {cause : ProtocolError} (rejects : c.RejectsAs request (.error cause)) :
    c.answer request = (.error (.error cause), c.declined request cause) := by
  obtain ⟨result, c', answered, run⟩ := handled request c
  rw [answer_of_run run]
  cases answered with
  | plain plain accepts => exact absurd rejects (not_rejectsAs_of_accepted (.plain plain accepts))
  | app app accepts => exact absurd rejects (not_rejectsAs_of_accepted (.app app accepts))
  | refused other =>
    cases rejects.unique other
    rfl
  | faulted other => cases rejects.unique other

/-- A refusal is there for a reason. -/
theorem rejectsAs_of_answer {cause : ProtocolError}
    (refused : (c.answer request).1 = .error (.error cause)) :
    c.RejectsAs request (.error cause) := by
  have answered := answered request c
  rw [refused] at answered
  generalize (c.answer request).2 = c' at answered
  cases answered with
  | refused rejects => exact rejects

section Plain

variable (command : Command) (index : request.command.toNat = command.index)
  (own : command ≠ .sendStatus)

include index own

/-- Only the status commands share an index, so that others mean the same after a prefix. -/
theorem index_ne_appCommand (other : AppCommand) : request.command.toNat ≠ other.index := by
  rw [index]
  cases command
  case sendStatus => contradiction
  all_goals cases other <;> decide

theorem rejectsAs_iff {failure : Failure ProtocolError} :
    c.RejectsAs request failure ↔ Rejects request c.prepared failure := by
  have none := index_ne_appCommand command index own
  rw [RejectsAs]
  split
  · constructor
    · intro rejects
      cases rejects with
      | wrongState other same => exact absurd same (none other)
      | width six => exact absurd six (none .setBusWidth)
      | plain _ rejects => exact rejects
    · exact .plain none
  · exact Iff.rfl

theorem accepts_of_answered (answered : Answered request c (.ok reply) c') :
    Accepts request c.prepared reply c' := by
  have none := index_ne_appCommand command index own
  cases answered with
  | plain _ accepts => exact accepts
  | app _ accepts =>
    cases accepts with
    | plain _ accepts => exact accepts
    | width same => exact absurd same (none .setBusWidth)
    | status same => exact absurd same (none .sdStatus)
    | operate same | inquire same => exact absurd same (none .sendOperatingCondition)
    | scr same => exact absurd same (none .sendScr)

/-- A command in a state for it is accepted, but for a size that no word can hold. -/
theorem accepted_of_state (state : c.state ∈ command.states)
    (counted : command = .sendCsd → c.sectors.toNat * Image.sectorSize < UInt64.size) :
    ∃ reply c', c.answer request = (.ok reply, c') ∧ Accepts request c.prepared reply c' := by
  have none (failure : Failure ProtocolError) : ¬Rejects request c.prepared failure := by
    intro rejects
    cases rejects with
    | illegal unknown => exact unknown command index
    | wrongState other same wrong =>
      obtain rfl := command_unique index same
      exact wrong state
    | uncounted nine _ _ large => exact large (counted (command_unique index (b := .sendCsd) nine))
  obtain ⟨result, c', answered, run⟩ := handled request c
  rw [answer_of_run run]
  cases result with
  | ok reply => exact ⟨reply, c', rfl, accepts_of_answered command index own answered⟩
  | error failure =>
    cases answered with
    | refused rejects | faulted rejects =>
      exact absurd ((rejectsAs_iff command index own).1 rejects) (none _)

end Plain

end Commands

variable {β : Type} {request : Request} {card : Card β} {commands : Commands}

/-- The bytes that a response announces are written to the buffer, and nothing else is. -/
theorem dispatch_eq (request : Request) (response : Response) (card : Card β) :
    card.dispatch request response =
      match card.commands.dispatch card.data.finished request with
      | (.ok reply, commands) =>
        ⟨.ok reply.length, reply.writeTo response, { card with commands }⟩
      | (.error failure, commands) => ⟨.error failure, response, { card with commands }⟩ := by
  simp only [dispatch, Commands.handle_eq, Commands.dispatch]
  rcases (card.commands.sync card.data.finished).answer request with ⟨failure | reply, commands⟩
  · rfl
  · rfl

theorem dispatch_of_answer {reply : Reply}
    (answer : (card.commands.sync card.data.finished).answer request = (.ok reply, commands))
    (response : Response) : card.dispatch request response =
      ⟨.ok reply.length, reply.writeTo response, { card with commands }⟩ := by
  rw [dispatch_eq, Commands.dispatch, answer]

theorem dispatch_of_failure {failure : Failure ProtocolError}
    (answer : (card.commands.sync card.data.finished).answer request = (.error failure, commands))
    (response : Response) : card.dispatch request response =
      ⟨.error failure, response, { card with commands }⟩ := by
  rw [dispatch_eq, Commands.dispatch, answer]

/-- A command is answered by a response or not at all, whatever is in the buffer. -/
theorem dispatch_cases (request : Request) (card : Card β) :
    (∃ reply state, ∀ response, card.dispatch request response =
      ⟨.ok (Reply.length reply), reply.writeTo response, state⟩) ∨
    ∃ failure state, ∀ response, card.dispatch request response =
      ⟨.error failure, response, state⟩ := by
  rcases answer : (card.commands.sync card.data.finished).answer request with
    ⟨failure | reply, commands⟩
  · exact .inr ⟨_, _, dispatch_of_failure answer⟩
  · exact .inl ⟨_, _, dispatch_of_answer answer⟩

theorem dispatch_state (request : Request) (response : Response) (card : Card β) :
    (card.dispatch request response).state =
      { card with commands := (card.commands.dispatch card.data.finished request).2 } := by
  rw [dispatch_eq]
  split
  · rename_i answer
    rw [answer]
  · rename_i answer
    rw [answer]

end SdBridge.Card
