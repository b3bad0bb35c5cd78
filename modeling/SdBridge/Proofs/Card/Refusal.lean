import SdBridge.Proofs.Card.Coherence

/-!
Refused commands. A refusal is a fixed point: the same command finds the card as it was, is read
as an application command if it was one, and is refused for the same reason.
-/
namespace SdBridge.Card

namespace Commands

theorem noted_noted (cause : ProtocolError) (status : UInt32) :
    noted cause (noted cause status) = noted cause status := by
  cases cause with
  | illegalCommand command => rw [noted, noted, UInt32.or_assoc, UInt32.or_self]
  | wrongState | outOfRange => rfl

variable {request : Request} {cause : ProtocolError} {c : Commands} {finished : Ticket}

/-- A refused application command is still one. -/
theorem readsAsApp_declined :
    (c.declined request cause).readsAsApp request = c.readsAsApp request := by
  have remembered : (c.declined request cause).readsAsApp request =
      ((if c.readsAsApp request then some request else none) == some request) :=
    Bool.false_or _
  rw [remembered]
  cases c.readsAsApp request <;> simp

/-- The reason to refuse a command is still there when the same command comes again. -/
theorem rejectsAs_declined (rejects : c.RejectsAs request (.error cause)) :
    (c.declined request cause).RejectsAs request (.error cause) := by
  rw [RejectsAs, readsAsApp_declined]
  rw [RejectsAs] at rejects
  split at rejects
  · rw [if_pos ‹_›]
    exact rejects.congr rfl rfl rfl
  · rw [if_neg ‹_›]
    exact rejects.congr rfl rfl rfl

theorem declined_declined :
    (c.declined request cause).declined request cause = c.declined request cause := by
  rw [declined, readsAsApp_declined]
  simp only [declined, noted_noted]

theorem sync_declined :
    ((c.sync finished).declined request cause).sync finished =
      (c.sync finished).declined request cause := by
  have settled : ¬((c.sync finished).state = .sendingData ∧ finished = c.posted) := by
    rintro ⟨sending, done⟩
    simp only [sync, done] at sending
    split at sending
    · cases sending
    · rename_i other
      exact other ⟨sending, trivial⟩
  rw [sync, if_neg]
  simpa only [declined, sync_posted] using settled

end Commands

variable {β : Type} {card : Card β} {request : Request} {response : Response}
  {cause : ProtocolError}

def declined (request : Request) (cause : ProtocolError) (card : Card β) : Card β :=
  { card with commands := (card.commands.sync card.data.finished).declined request cause }

theorem dispatch_of_rejects
    (rejects : (card.commands.sync card.data.finished).RejectsAs request (.error cause)) :
    card.dispatch request response =
      ⟨.error (.error cause), response, card.declined request cause⟩ :=
  dispatch_of_failure (Commands.answer_of_rejects rejects) response

theorem rejectsAs_of_dispatch
    (refused : (card.dispatch request response).result = .error (.error cause)) :
    (card.commands.sync card.data.finished).RejectsAs request (.error cause) := by
  apply Commands.rejectsAs_of_answer
  rcases answer : (card.commands.sync card.data.finished).answer request with
    ⟨failure | reply, commands⟩
  · rw [dispatch_of_failure answer] at refused
    cases refused
    rfl
  · rw [dispatch_of_answer answer] at refused
    cases refused

theorem length_of_dispatch {length : Nat}
    (answered : (card.dispatch request response).result = .ok length) :
    ∃ reply : Reply, length = reply.length := by
  obtain ⟨reply, state, answer⟩ | ⟨failure, state, answer⟩ := dispatch_cases request card
  · rw [answer] at answered
    cases answered
    exact ⟨reply, rfl⟩
  · rw [answer] at answered
    cases answered

theorem dispatch_refused
    (refused : (card.dispatch request response).result = .error (.error cause)) :
    card.dispatch request response =
      ⟨.error (.error cause), response, card.declined request cause⟩ :=
  dispatch_of_rejects (rejectsAs_of_dispatch refused)

/-- The same command again finds nothing changed, whatever is in the buffer by then. -/
theorem dispatch_declined
    (refused : (card.dispatch request response).result = .error (.error cause))
    (other : Response) : (card.declined request cause).dispatch request other =
      ⟨.error (.error cause), other, card.declined request cause⟩ := by
  have rejects := Commands.rejectsAs_declined (rejectsAs_of_dispatch refused)
  have again : ((card.declined request cause).commands.sync
      (card.declined request cause).data.finished) = (card.declined request cause).commands :=
    Commands.sync_declined
  have refused : ((card.declined request cause).commands.sync
      (card.declined request cause).data.finished).RejectsAs request (.error cause) := by
    rwa [again]
  rw [dispatch_of_rejects refused, declined, again]
  simp only [declined, Commands.declined_declined]

end SdBridge.Card
