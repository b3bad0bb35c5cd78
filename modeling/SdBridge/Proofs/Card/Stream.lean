import SdBridge.Proofs.Card.Coherence

/-!
The byte stream of a card whose halves are called in any order. Commands may fall between any two
calls to the data half, but a byte is only taken after the data half said that there is one. The
calls themselves are whole here; how the accesses inside them may interleave is not considered.
-/
namespace SdBridge.Card

inductive Call where
  | dispatch (request : Request) (response : Response)
  | dataReady
  | nextByte

structure Session (β : Type) where
  card : Card β
  /-- The jobs posted, oldest first. Posts are numbered from one. -/
  posts : List Job := []
  /-- The bytes handed out, each with the number of the post that was looked at before. -/
  handed : List (Nat × UInt8) := []
  /-- The post that a byte may be taken for now. -/
  granted : Option Nat := none

namespace Session

variable {β : Type} [Image.Store β]

/-- Make a call. A byte is not taken unless the call before to the data half granted it. -/
def call : Call → Session β → Session β
  | .dispatch request response, s =>
    let card := (s.card.dispatch request response).state
    { s with card, posts := Commands.postsAfter s.posts request s.card.commands card.commands }
  | .dataReady, s =>
    let served := s.card.dataReady
    let granted := match served.answer with
      | .ok true => some s.posts.length
      | _ => none
    { s with card := served.state, granted }
  | .nextByte, s =>
    match s.granted with
    | none => s
    | some number =>
      let served := s.card.nextByte
      let handed := match served.answer with
        | .ok byte => s.handed ++ [(number, byte)]
        | .error _ => s.handed
      { s with card := served.state, handed, granted := none }

def run (image : β) (identity : Identity) (calls : List Call) : Session β :=
  calls.foldl (fun s call => s.call call) { card := ofImage image identity }

omit [Image.Store β] in
def handedFor (s : Session β) (number : Nat) : List UInt8 :=
  s.handed.filterMap fun (post, byte) => if post = number then some byte else none

theorem run_append (image : β) (identity : Identity) (calls : List Call) (call : Call) :
    run image identity (calls ++ [call]) = (run image identity calls).call call := by
  simp [run, List.foldl_append]

theorem length_posts_call (s : Session β) (call : Call) :
    s.posts.length ≤ (s.call call).posts.length := by
  cases call with
  | dispatch request response =>
    simp only [Session.call, Commands.postsAfter]
    split <;> simp
  | dataReady => exact Nat.le_refl _
  | nextByte =>
    simp only [Session.call]
    split <;> exact Nat.le_refl _

/-- The bytes handed out for the ticket at hand and those to come make up its job. Other posts got
the front part of theirs. -/
structure Streams (contents : Image.Contents) (s : Session β) : Prop where
  coherent : Coherent s.posts contents.sectors s.card
  shown : contents.ShownBy s.card.data.store
  whole : s.handedFor s.card.data.ticket.number ++ s.card.data.rest contents =
    s.card.data.ticket.job.bytes contents
  begun : ∀ number, s.handedFor number <+: (jobAt s.posts number).bytes contents
  past : ∀ entry ∈ s.handed, entry.1 ≤ s.card.data.ticket.number
  ordered : (s.handed.map Prod.fst).Pairwise (· ≤ ·)
  granted : ∀ number, s.granted = some number →
    number = s.card.data.ticket.number ∧ s.card.data.unread ≠ []

variable {contents : Image.Contents} {s : Session β}

omit [Image.Store β] in
theorem handedFor_eq_nil {number : Nat} (later : ∀ entry ∈ s.handed, entry.1 < number) :
    s.handedFor number = [] := by
  simp only [handedFor, List.filterMap_eq_nil_iff]
  intro entry handed
  have := later entry handed
  simp only [ite_eq_right_iff, reduceCtorEq, imp_false]
  omega

/-- The bytes to come after a look at the posted word: the rest of the same job, or a whole one. -/
theorem Streams.whole_follow (streams : Streams contents s) :
    s.handedFor s.posts.length ++ s.card.owed contents =
      (jobAt s.posts s.posts.length).bytes contents := by
  have numbered := streams.coherent.numbered
  have follows := streams.coherent.follows
  rw [← numbered.job]
  by_cases now : s.card.commands.posted = s.card.data.ticket
  · have number := (follows.ticket_eq_iff numbered).1 now.symm
    rw [owed_of_ticket now.symm, now, ← number]
    exact streams.whole
  · have before := follows.number_le numbered
    have other : s.card.data.ticket.number ≠ s.posts.length := fun last =>
      now ((follows.ticket_eq_iff numbered).2 last).symm
    have none : s.handedFor s.posts.length = [] :=
      handedFor_eq_nil fun entry handed => by
        have := streams.past entry handed
        omega
    rw [none, owed_of_behind now, List.nil_append]

theorem Streams.dispatch (streams : Streams contents s) (request : Request) (response : Response)
    (few : (s.call (.dispatch request response)).posts.length < 2 ^ 28) :
    Streams contents (s.call (.dispatch request response)) := by
  have coherent := streams.coherent.dispatch request response few
  have data : (s.card.dispatch request response).state.data = s.card.data := by
    rw [dispatch_state]
  have before := streams.coherent.follows.number_le streams.coherent.numbered
  have kept (number : Nat) : s.handedFor number <+:
      (jobAt (s.call (.dispatch request response)).posts number).bytes contents := by
    by_cases old : number ≤ s.posts.length
    · have same : jobAt (s.call (.dispatch request response)).posts number =
          jobAt s.posts number := by
        simp only [Session.call, Commands.postsAfter]
        split
        · rfl
        · exact jobAt_append_of_le old
      rw [same]
      exact streams.begun number
    · have none : s.handedFor number = [] :=
        handedFor_eq_nil fun entry handed => by
          have := streams.past entry handed
          omega
      simp [none]
  exact ⟨coherent, by simpa only [Session.call, data] using streams.shown,
    by simpa only [Session.call, handedFor, data] using streams.whole, kept,
    by simpa only [Session.call, data] using streams.past, streams.ordered,
    by simpa only [Session.call, data] using streams.granted⟩

/-- Whether there is a byte is answered for the post made last. -/
theorem Streams.answer_dataReady (streams : Streams contents s) :
    s.card.dataReady.answer = .ok (decide (s.handedFor s.posts.length ≠
      (jobAt s.posts s.posts.length).bytes contents)) := by
  obtain ⟨after, log, ready, _⟩ := streams.coherent.dataReady streams.shown
  rw [ready, ← streams.whole_follow]
  simp

theorem Streams.dataReady (streams : Streams contents s) :
    Streams contents (s.call .dataReady) := by
  obtain ⟨after, log, ready, rest, front, ticket, shown, coherent⟩ :=
    streams.coherent.dataReady streams.shown
  have number : after.ticket.number = s.posts.length := by
    rw [ticket, streams.coherent.numbered.number]
  have before := streams.coherent.follows.number_le streams.coherent.numbered
  simp only [Session.call, ready]
  refine ⟨coherent, shown, ?_, streams.begun, ?_, streams.ordered, ?_⟩
  · change s.handedFor after.ticket.number ++ after.rest contents = after.ticket.job.bytes contents
    rw [number, rest, streams.whole_follow, ticket, streams.coherent.numbered.job]
  · intro entry handed
    have := streams.past entry handed
    simp only [number]
    omega
  · intro post granted
    by_cases left : s.card.owed contents = []
    · simp [left] at granted
    · simp only [ne_eq, left, not_false_eq_true, decide_true, Option.some.injEq] at granted
      exact ⟨by rw [← granted, number], front left⟩

theorem Streams.nextByte (streams : Streams contents s) :
    Streams contents (s.call .nextByte) := by
  simp only [Session.call]
  cases granted : s.granted with
  | none => exact streams
  | some number =>
    obtain ⟨rfl, front⟩ := streams.granted number granted
    obtain ⟨byte, after, next, rest, ticket, store, coherent⟩ := streams.coherent.nextByte front
    have taken (post : Nat) : (s.handed ++ [(s.card.data.ticket.number, byte)]).filterMap
        (fun (owner, byte) => if owner = post then some byte else none) =
          s.handedFor post ++ if s.card.data.ticket.number = post then [byte] else [] := by
      rw [List.filterMap_append, handedFor]
      split <;> simp [*]
    have whole : s.handedFor s.card.data.ticket.number ++ [byte] ++ after.rest contents =
        s.card.data.ticket.job.bytes contents := by
      rw [← streams.whole, rest, List.append_assoc, List.singleton_append]
    simp only [next]
    refine ⟨coherent, ?_, ?_, ?_, ?_, ?_, nofun⟩
    · exact store ▸ streams.shown
    · simp only [handedFor, ticket, taken, if_true]
      exact whole
    · intro post
      simp only [handedFor, taken]
      by_cases own : s.card.data.ticket.number = post
      · rw [if_pos own, ← own, ← streams.coherent.follows.job]
        exact ⟨_, whole⟩
      · rw [if_neg own, List.append_nil]
        exact streams.begun post
    · intro entry handed
      simp only [ticket]
      rcases List.mem_append.1 handed with old | new
      · exact streams.past entry old
      · exact Nat.le_of_eq (by rw [List.mem_singleton.1 new])
    · rw [List.map_append, List.pairwise_append]
      refine ⟨streams.ordered, by simp, ?_⟩
      intro post old last new
      obtain ⟨entry, handed, rfl⟩ := List.mem_map.1 old
      simp only [List.map_cons, List.map_nil, List.mem_singleton] at new
      rw [new]
      exact streams.past entry handed

end Session
end SdBridge.Card
