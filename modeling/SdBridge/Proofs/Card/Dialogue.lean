import SdBridge.Proofs.Card.Handshake
import SdBridge.Proofs.Card.Refusal

/-!
What a card was asked and what it answered, command by command, under turns of its halves in any
order. What a command meets depends on the commands before it; "since" says how far back one has to
look.
-/
namespace SdBridge.Card

/-- A command, and the command half as it was when the command was answered: up to date with the data
half. -/
structure Exchange where
  request : Request
  before : Commands

namespace Exchange

def index (x : Exchange) : Nat := x.request.command.toNat

def isApp (x : Exchange) : Bool := x.before.readsAsApp x.request

def result (x : Exchange) : Except (Failure ProtocolError) Reply := (x.before.answer x.request).1

def after (x : Exchange) : Commands := (x.before.answer x.request).2

def Accepted (x : Exchange) : Prop := ∃ reply, x.result = .ok reply

/-- Refused for a cause; a fault is none. -/
def Refused (x : Exchange) : Prop := ∃ cause, x.result = .error (.error cause)

def Resets (x : Exchange) : Prop := x.index = 0

end Exchange

/-- There was an exchange as said, given those before it, and only such exchanges came after it as
are said to come meanwhile. -/
def Since (event : List Exchange → Exchange → Prop) (meanwhile : Exchange → Prop)
    (past : List Exchange) : Prop :=
  ∃ before x after, past = before ++ x :: after ∧ event before x ∧ ∀ y ∈ after, meanwhile y

section Since

variable {event : List Exchange → Exchange → Prop} {meanwhile : Exchange → Prop}
  {past : List Exchange} {x : Exchange}

theorem not_since_nil : ¬Since event meanwhile [] := by
  rintro ⟨before, x, after, past, -⟩
  simp at past

theorem Since.later (since : Since event meanwhile past) {others : List Exchange}
    (kept : ∀ y ∈ others, meanwhile y) : Since event meanwhile (past ++ others) := by
  obtain ⟨before, x, after, rfl, found, still⟩ := since
  refine ⟨before, x, after ++ others, by simp, found, fun y among => ?_⟩
  rcases List.mem_append.1 among with old | new
  · exact still y old
  · exact kept y new

/-- One exchange more is the one looked for, or one that came meanwhile. -/
theorem since_append : Since event meanwhile (past ++ [x]) ↔
    event past x ∨ Since event meanwhile past ∧ meanwhile x := by
  constructor
  · rintro ⟨before, y, after, same, found, others⟩
    rcases List.eq_nil_or_concat after with rfl | ⟨rest, z, rfl⟩
    · obtain ⟨rfl, last⟩ := List.append_inj' same rfl
      cases last
      exact .inl found
    · rw [List.concat_eq_append] at same others
      rw [← List.cons_append, ← List.append_assoc] at same
      obtain ⟨rfl, last⟩ := List.append_inj' same rfl
      cases last
      refine .inr ⟨⟨before, y, rest, rfl, found, fun w among => ?_⟩, ?_⟩
      · exact others w (List.mem_append_left _ among)
      · exact others x (List.mem_append_right _ List.mem_cons_self)
  · rintro (found | ⟨since, next⟩)
    · exact ⟨past, x, [], rfl, found, by simp⟩
    · exact since.later (by simpa using next)

end Since

/-- A reset is accepted in every state. -/
theorem Commands.answer_reset {request : Request} (index : request.command.toNat = 0)
    (c : Commands) : ∃ c', c.answer request = (.ok .silent, c') := by
  obtain ⟨reply, c', answer, accepts⟩ := accepted_of_state (c := c) .goIdleState index (by decide)
    (by cases c.state <;> decide) nofun
  rw [answer]
  cases accepts with
  | reset => exact ⟨_, rfl⟩
  | ignore other | outside other | read other | write other => simp [index] at other
  | _ => omega

namespace Exchange

theorem answered (x : Exchange) : Commands.Answered x.request x.before x.result x.after :=
  Commands.answered x.request x.before

theorem Resets.accepted {x : Exchange} (resets : x.Resets) : x.Accepted := by
  obtain ⟨c', answer⟩ := Commands.answer_reset resets x.before
  exact ⟨.silent, by rw [result, answer]⟩

theorem not_refused_of_accepted {x : Exchange} (accepted : x.Accepted) : ¬x.Refused := by
  rintro ⟨cause, refused⟩
  obtain ⟨reply, result⟩ := accepted
  rw [result] at refused
  contradiction

end Exchange

/-- A card under turns of its halves, and its exchanges so far, oldest first. -/
structure Dialogue (β : Type) where
  handshake : Handshake β
  exchanges : List Exchange := []

namespace Dialogue

variable {β : Type} [Image.Store β]

omit [Image.Store β] in
/-- The exchange that a turn completes, if it does: an answer completes one. -/
def completed? (turn : Turn) (d : Dialogue β) : Option Exchange :=
  match turn with
  | .answer => d.handshake.request.map fun request => ⟨request, d.handshake.card.commands⟩
  | _ => none

def turn (turn : Turn) (d : Dialogue β) : Dialogue β where
  handshake := d.handshake.turn turn
  exchanges := d.exchanges ++ (d.completed? turn).toList

def run (image : β) (identity : Identity) (turns : List Turn) : Dialogue β :=
  turns.foldl (fun d turn => d.turn turn) { handshake := { card := ofImage image identity } }

theorem run_append (image : β) (identity : Identity) (turns : List Turn) (turn : Turn) :
    run image identity (turns ++ [turn]) = (run image identity turns).turn turn := by
  simp [run, List.foldl_append]

omit [Image.Store β] in
def commands (d : Dialogue β) : Commands := d.handshake.card.commands

/-- Nothing is done to the command half between two exchanges, but for the data state. -/
inductive Step (d : Dialogue β) : List Exchange → Commands → Prop where
  | still : Step d d.exchanges d.commands
  | synced (finished : Ticket) : Step d d.exchanges (d.commands.sync finished)
  | answered (request : Request) :
    Step d (d.exchanges ++ [⟨request, d.commands⟩]) (d.commands.answer request).2

theorem step_turn (turn : Turn) (d : Dialogue β) :
    Step d (d.turn turn).exchanges (d.turn turn).commands := by
  cases turn with
  | sync request =>
    simp only [Dialogue.turn, completed?, Option.toList_none, List.append_nil, commands,
      Handshake.turn]
    split
    · exact .still
    · exact .synced _
  | answer =>
    simp only [Dialogue.turn, completed?, commands, Handshake.turn]
    cases d.handshake.request with
    | none =>
      rw [Option.map_none, Option.toList_none, List.append_nil]
      exact .still
    | some request => exact .answered request
  | follow | prepare | next =>
    simp only [Dialogue.turn, completed?, Option.toList_none, List.append_nil, commands,
      Handshake.turn]
    split <;> exact .still

/-- What holds of a fresh card and is kept by every exchange holds in every run, and held whenever a
command was answered. -/
theorem holds_run {holds : List Exchange → Commands → Prop} (image : β) (identity : Identity)
    (fresh : holds [] (.ofImage (Image.Store.sectorCount image) identity))
    (sync : ∀ past c finished, holds past c → holds past (c.sync finished))
    (answer : ∀ past c request, holds past c →
      holds (past ++ [⟨request, c⟩]) (c.answer request).2) (turns : List Turn) :
    holds (run image identity turns).exchanges (run image identity turns).commands ∧
      ∀ k x, (run image identity turns).exchanges[k]? = some x →
        holds ((run image identity turns).exchanges.take k) x.before := by
  induction turns using List.reverseRecOn with
  | nil => exact ⟨fresh, by simp [run]⟩
  | append_singleton turns turn before =>
    obtain ⟨now, past⟩ := before
    rw [run_append]
    have step := step_turn turn (run image identity turns)
    generalize ((run image identity turns).turn turn).exchanges = exchanges at step ⊢
    generalize ((run image identity turns).turn turn).commands = c at step ⊢
    cases step with
    | still => exact ⟨now, past⟩
    | synced finished => exact ⟨sync _ _ finished now, past⟩
    | answered request =>
      refine ⟨answer _ _ request now, fun k x listed => ?_⟩
      by_cases last : k < (run image identity turns).exchanges.length
      · rw [List.getElem?_append_left last] at listed
        rw [List.take_append_of_le_length (Nat.le_of_lt last)]
        exact past k x listed
      · have inside := (List.getElem?_eq_some_iff.1 listed).1
        rw [List.length_append, List.length_singleton] at inside
        obtain rfl : k = (run image identity turns).exchanges.length := by omega
        rw [List.getElem?_concat_length, Option.some.injEq] at listed
        rw [← listed, List.take_left]
        exact now

end Dialogue
end SdBridge.Card
