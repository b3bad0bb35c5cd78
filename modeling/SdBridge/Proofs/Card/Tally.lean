import SdBridge.Proofs.Card.Obtaining
import SdBridge.Proofs.Card.Stream

/-!
Calls to a card over a store that may fail. No ticket is ahead of the one at hand, neither among the
bytes handed out nor as the one finished last. Which calls write the finished word is seen by what
becomes of another word put in its place.
-/
namespace SdBridge.Card

def Call.isData : Call → Bool
  | .dispatch .. => false
  | .dataReady | .nextByte => true

namespace Session

variable {β : Type} [Image.Store β] {sectors : UInt64} {s : Session β}

section Calls

variable (s : Session β)

theorem call_dataReady :
    (s.call .dataReady).card = { s.card with data := s.card.followed.prepare.state } := rfl

theorem call_nextByte_of_none (granted : s.granted = none) : s.call .nextByte = s := by
  simp only [Session.call, granted]

theorem call_nextByte_of_some {number : Nat} (granted : s.granted = some number) {byte : UInt8}
    {more : List UInt8} (unread : s.card.data.unread = byte :: more) :
    s.call .nextByte =
      { s with
        card := { s.card with data := s.card.data.next.2 }
        handed := s.handed ++ [(number, byte)]
        granted := none } := by
  obtain ⟨after, next, -⟩ := Data.next_of_unread unread
  simp only [Session.call, granted, Card.nextByte, next]

omit [Image.Store β] in
theorem handedFor_append (after : Session β) {number : Nat} {byte : UInt8}
    (handed : after.handed = s.handed ++ [(number, byte)]) (post : Nat) :
    after.handedFor post = s.handedFor post ++ if number = post then [byte] else [] := by
  rw [handedFor, handed, List.filterMap_append, handedFor]
  split <;> simp [*]

/-- The data half leaves the command half and the posts alone. -/
theorem call_data {call : Call} (data : call.isData = true) :
    (s.call call).card.commands = s.card.commands ∧ (s.call call).posts = s.posts := by
  cases call with
  | dispatch => cases data
  | dataReady => exact ⟨rfl, rfl⟩
  | nextByte =>
    simp only [Session.call]
    split <;> exact ⟨rfl, rfl⟩

theorem foldl_data {steps : List Call} (data : ∀ step ∈ steps, step.isData = true) :
    (steps.foldl (fun s call => s.call call) s).card.commands = s.card.commands ∧
      (steps.foldl (fun s call => s.call call) s).posts = s.posts := by
  induction steps generalizing s with
  | nil => exact ⟨rfl, rfl⟩
  | cons step steps ih =>
    obtain ⟨first, rest⟩ := List.forall_mem_cons.1 data
    obtain ⟨commands, posts⟩ := call_data s first
    obtain ⟨commands', posts'⟩ := ih (s.call step) rest
    exact ⟨commands'.trans commands, posts'.trans posts⟩

theorem run_append_list (image : β) (identity : Identity) (calls more : List Call) :
    run image identity (calls ++ more) =
      more.foldl (fun s call => s.call call) (run image identity calls) := by
  simp only [run, List.foldl_append]

end Calls

structure Accounted (sectors : UInt64) (s : Session β) : Prop where
  coherent : Coherent s.posts sectors s.card
  fallible : Image.Fallible sectors s.card.data.store
  past : ∀ entry ∈ s.handed, entry.1 ≤ s.card.data.ticket.number
  finished : s.card.data.finished.number ≤ s.card.data.ticket.number
  granted : ∀ number, s.granted = some number →
    number = s.card.data.ticket.number ∧ s.card.data.unread ≠ []

theorem accounted_fresh {image : β} (fallible : Image.Fallible sectors image)
    (identity : Identity) : Accounted sectors (run image identity []) where
  coherent := fallible.sectorCount ▸ coherent_ofImage image identity
  fallible := fallible
  past := by simp [run]
  finished := Nat.le_refl _
  granted := by simp [run]

namespace Accounted

theorem number_le (accounted : Accounted sectors s) :
    s.card.data.ticket.number ≤ s.posts.length :=
  accounted.coherent.follows.number_le accounted.coherent.numbered

theorem readied (accounted : Accounted sectors s) :
    s.card.followed.Readied sectors s.card.followed.prepare := by
  have follows := accounted.coherent.follows.follow accounted.coherent.numbered
  apply Data.readied_prepare
  · rw [followed, Data.follow_store]
    exact accounted.fallible
  · exact follows.inRange

theorem ticket_dataReady (accounted : Accounted sectors s) :
    s.card.followed.prepare.state.ticket = s.card.commands.posted := by
  rw [accounted.readied.ticket, followed, Data.follow_ticket]

/-- Once asked for a byte, the data half has looked at the posted word. -/
theorem followed_dataReady (accounted : Accounted sectors s) :
    (s.call .dataReady).card.followed = s.card.followed.prepare.state :=
  followed_of_ticket accounted.ticket_dataReady

theorem dispatch (accounted : Accounted sectors s) (request : Request) (response : Response)
    (few : (s.call (.dispatch request response)).posts.length < 2 ^ 28) :
    Accounted sectors (s.call (.dispatch request response)) := by
  have data : (s.call (.dispatch request response)).card.data = s.card.data := by
    simp only [Session.call, dispatch_state]
  refine ⟨accounted.coherent.dispatch request response few, ?_, ?_, ?_, ?_⟩
  · exact data ▸ accounted.fallible
  · exact data ▸ accounted.past
  · exact data ▸ accounted.finished
  · exact data ▸ accounted.granted

theorem dataReady (accounted : Accounted sectors s) : Accounted sectors (s.call .dataReady) := by
  have numbered := accounted.coherent.numbered
  have follows := accounted.coherent.follows.follow numbered
  have before := accounted.number_le
  have readied := accounted.readied
  have ticket := accounted.ticket_dataReady
  have number : (s.call .dataReady).card.data.ticket.number = s.posts.length :=
    (congrArg Ticket.number ticket).trans numbered.number
  refine ⟨⟨numbered, follows.congr readied.ticket readied.inRange⟩, readied.fallible, ?_, ?_, ?_⟩
  · intro entry handed
    rw [number]
    exact Nat.le_trans (accounted.past entry handed) before
  · rw [number, call_dataReady, readied.finished, followed, Data.follow_ticket,
      Data.follow_finished]
    split
    · exact Nat.le_of_eq numbered.number
    · exact Nat.le_trans accounted.finished before
  · intro post granted
    have answer : s.card.dataReady.answer = .ok (decide (s.card.followed.toCome sectors ≠ [])) :=
      readied.answer
    simp only [Session.call, answer] at granted
    by_cases left : s.card.followed.toCome sectors = []
    · simp [left] at granted
    · simp only [ne_eq, left, not_false_eq_true, decide_true, Option.some.injEq] at granted
      exact ⟨by rw [number, granted], readied.front left⟩

theorem nextByte (accounted : Accounted sectors s) : Accounted sectors (s.call .nextByte) := by
  cases granted : s.granted with
  | none => rwa [call_nextByte_of_none s granted]
  | some number =>
    obtain ⟨rfl, front⟩ := accounted.granted number granted
    obtain ⟨byte, more, unread⟩ := List.exists_cons_of_ne_nil front
    obtain ⟨after, next, left, job, ticket, store, finished⟩ := Data.next_of_unread unread
    have follows := accounted.coherent.follows
    rw [call_nextByte_of_some s granted unread, next]
    refine ⟨⟨accounted.coherent.numbered, follows.congr ticket (job ▸ follows.inRange)⟩,
      store ▸ accounted.fallible, ?_, ?_, nofun⟩
    · intro entry handed
      simp only [ticket]
      rcases List.mem_append.1 handed with old | new
      · exact accounted.past entry old
      · exact Nat.le_of_eq (by rw [List.mem_singleton.1 new])
    · simp only [ticket, finished]
      split
      · exact Nat.le_refl _
      · exact accounted.finished

end Accounted

theorem accounted_run {image : β} (fallible : Image.Fallible sectors image) (identity : Identity)
    (calls : List Call) (few : (run image identity calls).posts.length < 2 ^ 28) :
    Accounted sectors (run image identity calls) := by
  induction calls using List.reverseRecOn with
  | nil => exact accounted_fresh fallible identity
  | append_singleton calls call before =>
    rw [run_append] at few ⊢
    have accounted := before (Nat.lt_of_le_of_lt (length_posts_call _ call) few)
    cases call with
    | dispatch request response => exact accounted.dispatch request response few
    | dataReady => exact accounted.dataReady
    | nextByte => exact accounted.nextByte

/-- The job posted last is over, as far as the command half can tell. -/
def Ended (s : Session β) : Prop := s.card.data.finished = s.card.commands.posted

/-- The end of a job that the data half has yet to see was not told. -/
theorem Accounted.running_of_behind (accounted : Accounted sectors s)
    (behind : s.card.data.ticket ≠ s.card.commands.posted) : ¬s.Ended := by
  intro ended
  have told := accounted.finished
  have earlier := accounted.coherent.follows.place.resolve_left behind
  rw [show s.card.data.finished = s.card.commands.posted from ended,
    accounted.coherent.numbered.number] at told
  omega

def retold (word : Ticket) (s : Session β) : Session β :=
  { s with card := { s.card with data := { s.card.data with finished := word } } }

/-- Whether a call tells that the job posted last is over. Another word is put in place of the one
told before, so that telling the same again is seen. -/
def tells (s : Session β) (call : Call) : Bool :=
  let other : Ticket := ⟨~~~s.card.commands.posted.word⟩
  ((s.retold other).call call).card.data.finished == s.card.commands.posted

omit [Image.Store β] in
theorem other_ne (posted : Ticket) : (⟨~~~posted.word⟩ : Ticket) ≠ posted := by
  intro same
  have bits := congrArg (fun t => t.word.toBitVec.getLsbD 0) same
  simp at bits

def told : List Call → Session β → Nat
  | [], _ => 0
  | call :: calls, s => (s.tells call).toNat + told calls (s.call call)

section Tells

variable (word : Ticket)

omit [Image.Store β] in
theorem followed_retold : (s.retold word).card.followed =
    { s.card.followed with finished := word } := by
  by_cases now : s.card.commands.posted = s.card.data.ticket <;>
    simp only [followed, retold, Data.follow, now, if_true, if_false]

theorem finished_dataReady (accounted : Accounted sectors s) :
    ((s.retold word).call .dataReady).card.data.finished =
      if s.card.followed.toCome sectors = [] ∧ s.card.followed.job ≠ .idle then
        s.card.commands.posted else word := by
  have readied := accounted.readied
  have inRange := (accounted.coherent.follows.follow accounted.coherent.numbered).inRange
  have store : Image.Fallible sectors s.card.followed.store := by
    rw [followed, Data.follow_store]
    exact accounted.fallible
  have again := Data.readied_prepare (d := { s.card.followed with finished := word }) store inRange
  rw [call_dataReady, followed_retold]
  refine again.finished.trans ?_
  have ticket : s.card.followed.ticket = s.card.commands.posted := Data.follow_ticket _ _
  simp only [ticket]
  rfl

theorem finished_nextByte :
    ((s.retold word).call .nextByte).card.data.finished =
      if s.granted ≠ none ∧ s.card.data.unread.length = 1 ∧ s.card.data.job = .idle then
        s.card.data.ticket else word := by
  cases granted : s.granted with
  | none =>
    rw [call_nextByte_of_none (s.retold word) granted, if_neg (by simp)]
    rfl
  | some number =>
    have data : ((s.retold word).call .nextByte).card.data = (s.retold word).card.data.next.2 := by
      simp only [Session.call, retold, granted, Card.nextByte]
    rw [data]
    cases unread : s.card.data.unread with
    | nil =>
      rw [Data.next_of_none (d := (s.retold word).card.data) unread, if_neg (by simp)]
      rfl
    | cons byte more =>
      obtain ⟨after, next, -, -, -, -, finished⟩ :=
        Data.next_of_unread (d := (s.retold word).card.data) unread
      rw [next, finished]
      by_cases last : more = [] ∧ s.card.data.job = .idle
      · exact (if_pos last).trans (if_pos ⟨by simp, by simp [last.1], last.2⟩).symm
      · exact (if_neg last).trans
          (if_neg fun ended => last ⟨by simpa using ended.2.1, ended.2.2⟩).symm

end Tells

end Session
end SdBridge.Card
