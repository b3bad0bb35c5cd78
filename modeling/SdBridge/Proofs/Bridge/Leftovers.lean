import SdBridge.Proofs.Bridge.Course
import SdBridge.Proofs.Bridge.Serving
import SdBridge.Proofs.Card.Answer

/-!
The command loop has one response buffer for all exchanges, and trusts the length that the engine
announces. What an earlier exchange left in the buffer never shows, if the engine writes as many
bytes as it announces.
-/
namespace SdBridge

/-- An engine that writes as many bytes as it announces and does not look at the buffer: what is in
it changes neither the result nor the state. -/
structure Tidy (π : Type) [Responder π] : Prop where
  result : ∀ request a b (p : π), (Responder.dispatch request b p).result =
    (Responder.dispatch request a p).result
  state : ∀ request a b (p : π), (Responder.dispatch request b p).state =
    (Responder.dispatch request a p).state
  length : ∀ request a (p : π) length, (Responder.dispatch request a p).result = .ok length →
    length ∈ [0, shortResponse, longResponse]
  shown : ∀ request a b (p : π) length, (Responder.dispatch request a p).result = .ok length →
    (Responder.dispatch request b p).response.toList.take length =
      (Responder.dispatch request a p).response.toList.take length
  kept : ∀ request a (p : π) length, (Responder.dispatch request a p).result = .ok length →
    (Responder.dispatch request a p).response.toList.drop length = a.toList.drop length
  refused : ∀ request a (p : π) failure, (Responder.dispatch request a p).result = .error failure →
    (Responder.dispatch request a p).response = a

theorem Card.tidy (β : Type) : Tidy (Card β) := by
  have answered (request : Request) (card : Card β) := dispatch_cases request card
  constructor
  case result | state =>
    intro request a b card
    obtain ⟨reply, state, answer⟩ | ⟨failure, state, answer⟩ := answered request card
    all_goals simp only [Responder.dispatch, answer]
  case length =>
    intro request a card length ok
    obtain ⟨reply, state, answer⟩ | ⟨failure, state, answer⟩ := answered request card
    all_goals simp only [Responder.dispatch, answer] at ok
    · cases ok
      exact reply.length_mem
    · cases ok
  case shown =>
    intro request a b card length ok
    obtain ⟨reply, state, answer⟩ | ⟨failure, state, answer⟩ := answered request card
    all_goals simp only [Responder.dispatch, answer] at ok ⊢
    · cases ok
      rw [Reply.take_writeTo, Reply.take_writeTo]
    · cases ok
  case kept =>
    intro request a card length ok
    obtain ⟨reply, state, answer⟩ | ⟨failure, state, answer⟩ := answered request card
    all_goals simp only [Responder.dispatch, answer] at ok ⊢
    · cases ok
      exact reply.drop_writeTo a
  case refused =>
    intro request a card failure error
    obtain ⟨reply, state, answer⟩ | ⟨other, state, answer⟩ := answered request card
    all_goals simp only [Responder.dispatch, answer] at error ⊢
    cases error

namespace Bridge

/-- Answers of an engine, which differ in no byte that is announced. -/
def Presenting (result : Except ProtocolError Nat) (a b : Response) : Prop :=
  ∀ length, result = .ok length → length ∈ [0, shortResponse, longResponse] ∧
    b.toList.take length = a.toList.take length

def Access.unbuffered : Access → Access
  | .dispatch request _ => .dispatch request (Vector.replicate 16 0)
  | access => access

/-- An event other than the one for a response of no legal length. -/
def Access.Harmless : Access → Prop
  | .publish record => record.kind ≠ .badResponseLength
  | _ => True

def Exchange.Legal (done : Exchange) : Prop :=
  ∀ command length, done ≠ .rejected command (.badLength length)

/-- Programs that do the same, whatever is in the buffers that they hand to the engine. They may
differ in their results as said. -/
inductive Twin {α : Type} (same : α → α → Prop) : Loop α → Loop α → Prop where
  | done {a a' : α} (here : same a a') : Twin same (.done a) (.done a')
  | fail (fault : Fault) : Twin same (.fail fault) (.fail fault)
  | access {access : Access} {next next' : Access.Answer access → Loop α}
      (harmless : access.Harmless) (rest : ∀ answer, Twin same (next answer) (next' answer)) :
      Twin same (.call access next) (.call access next')
  | dispatch {request : Request} {a b : Response}
      {next next' : Except ProtocolError Nat × Response → Loop α}
      (rest : ∀ result a b, Presenting result a b → Twin same (next (result, a)) (next' (result, b))) :
      Twin same (.call (.dispatch request a) next) (.call (.dispatch request b) next')

section Programs

variable {α γ : Type} {same : α → α → Prop} {also : γ → γ → Prop}

theorem twin_bind {p p' : Loop α} {k k' : α → Loop γ} (first : Twin same p p')
    (rest : ∀ a a', same a a' → Twin also (k a) (k' a')) : Twin also (p >>= k) (p' >>= k') := by
  induction first with
  | done here => exact rest _ _ here
  | fail fault => exact .fail fault
  | access harmless _ ih => exact .access harmless ih
  | dispatch _ ih => exact .dispatch ih

theorem twin_pure {a a' : α} (here : same a a') : Twin same (pure a) (pure a') := .done here

theorem twin_access_bind {access : Access} {k k' : Access.Answer access → Loop γ}
    (harmless : access.Harmless) (rest : ∀ answer, Twin also (k answer) (k' answer)) :
    Twin also (@Program.access _ Access.Answer access >>= k)
      (@Program.access _ Access.Answer access >>= k') := .access harmless rest

theorem twin_writeAll (writes : List RegisterWrite) :
    Twin Eq (Loop.writeAll writes) (Loop.writeAll writes) := by
  induction writes with
  | nil => exact twin_pure rfl
  | cons w rest ih => exact .access trivial fun _ => ih

def Notice.Harmless (n : Notice) : Prop := n.kind ≠ .badResponseLength

theorem twin_tellAll {notices : List Notice} (harmless : ∀ n ∈ notices, n.Harmless) :
    Twin Eq (Loop.tellAll notices) (Loop.tellAll notices) := by
  induction notices with
  | nil => exact twin_pure rfl
  | cons n rest ih =>
    have here : ∀ time, (Access.publish (n.record time)).Harmless := fun _ =>
      harmless n List.mem_cons_self
    refine .access trivial fun time => .access (here time) fun _ => ?_
    exact ih fun m listed => harmless m (List.mem_cons_of_mem _ listed)

end Programs

namespace Commander

theorem harmless_blockNotices (block : Option BlockRequest) :
    ∀ n ∈ blockNotices block, n.Harmless := by
  rcases block with _ | ⟨_ | _ | _⟩ <;> simp [blockNotices, Notice.Harmless]

theorem harmless_completionNotices (status : StatusWord) (slow : UInt8) :
    ∀ n ∈ completionNotices status slow, n.Harmless := by
  rw [completionNotices]
  split
  · split <;> simp [Notice.Harmless]
  · simp

theorem responseWord_congr {a b : Response} {length : Nat} {word : Fin 4}
    (announced : 4 * word.val + 4 ≤ length) (same : b.toList.take length = a.toList.take length) :
    responseWord b word = responseWord a word := by
  have part (r : Response) : (r.toList.drop (4 * word.val)).take 4 =
      ((r.toList.take length).take (4 * word.val + 4)).drop (4 * word.val) := by
    rw [List.take_take, Nat.min_eq_left announced, List.take_drop]
  have bytes : bytesOfWord (responseWord b word) = bytesOfWord (responseWord a word) := by
    rw [bytes_responseWord, bytes_responseWord, part, part, same]
  simp only [bytesOfWord, List.cons.injEq, and_true] at bytes
  rw [← wordOfBytes_bytes (responseWord b word), ← wordOfBytes_bytes (responseWord a word)]
  simp only [bytes]

/-- The words that are sent lie within the announced bytes. -/
theorem sending_congr (command : UInt8) {length : Nat} {a b : Response}
    (legal : length ∈ [0, shortResponse, longResponse])
    (same : b.toList.take length = a.toList.take length) :
    sending command length b = sending command length a := by
  simp only [List.mem_cons, List.not_mem_nil, or_false] at legal
  obtain rfl | rfl | rfl := legal
  · simp [sending, shortResponse, longResponse]
  · have first (r : Response) : (List.zipWith RegisterWrite.mk Offset.responseWords
        (List.ofFn (responseWord r))).take 1 = [⟨Offset.argument, responseWord r 0⟩] := rfl
    rw [sending, sending, if_neg (by decide), if_pos rfl, if_neg (by decide), if_pos rfl, first,
      first, responseWord_congr (by decide) same]
  · have words : responseWord b = responseWord a := funext fun word =>
      responseWord_congr (by rw [longResponse]; omega) same
    rw [sending, sending, words]

/-- An answer of legal length is not dropped for its length, and it makes the same writes out of both
buffers. -/
theorem ofResult_of_presenting (command : UInt8) {result : Except ProtocolError Nat}
    {a b : Response} (presenting : Presenting result a b) :
    (Exchange.ofResult command result).Legal ∧
      (Exchange.ofResult command result).writes b = (Exchange.ofResult command result).writes a := by
  cases result with
  | error cause => exact ⟨fun _ length => by simp [Exchange.ofResult, legalLength], rfl⟩
  | ok length =>
    obtain ⟨legal, same⟩ := presenting length rfl
    have answered : Exchange.ofResult command (.ok length) = .answered command length := by
      simp only [List.mem_cons, List.not_mem_nil, or_false] at legal
      simp only [Exchange.ofResult, legalLength, if_pos legal]
    rw [answered]
    exact ⟨fun _ _ => by simp, sending_congr command legal same⟩

theorem harmless_notices {done : Exchange} (legal : done.Legal) (status : StatusWord)
    (last : Option UInt32) (block : Option BlockRequest) :
    ∀ n ∈ done.notices status last block, n.Harmless := by
  have block := harmless_blockNotices block
  cases done with
  | answered command length =>
    simp only [Exchange.notices, List.forall_mem_append, List.forall_mem_singleton]
    refine ⟨?_, block, by simp [Notice.Harmless]⟩
    split <;> simp [Notice.Harmless]
  | rejected command why =>
    simp only [Exchange.notices, List.forall_mem_append]
    refine ⟨?_, block⟩
    cases why with
    | badLength length => exact absurd rfl (legal command length)
    | refused cause => split <;> simp [rejectionNotice, Notice.Harmless]

/-- Two commanders that differ in nothing but the response buffer. -/
def Like (c c' : Commander) : Prop := c' = { c with response := c'.response }

def Ended (out out' : Outcome × Commander) : Prop :=
  out'.1 = out.1 ∧ (∀ done, out.1.exchange = some done → done.Legal) ∧ out.2.Like out'.2

theorem twin_report {c c' : Commander} (like : c.Like c') (seen : UInt64) (status : StatusWord)
    {done : Exchange} (legal : done.Legal) :
    Twin Ended (c.report seen status done) (c'.report seen status done) := by
  rw [Like] at like
  rw [report_eq, report_eq, like]
  refine twin_access_bind trivial fun block => ?_
  refine twin_bind (?_ : Twin Eq _ _) fun _ _ _ => ?_
  · cases done with
    | answered command length => exact .access nofun fun _ => .done rfl
    | rejected command why => exact twin_pure rfl
  refine twin_bind (twin_tellAll ?_) fun _ _ _ => twin_pure ⟨rfl, ?_, rfl⟩
  · exact List.forall_mem_append.2
      ⟨harmless_notices legal _ _ _, harmless_completionNotices _ _⟩
  · rintro _ ⟨⟩
    exact legal

theorem twin_serve {c c' : Commander} (like : c.Like c') (status : StatusWord) :
    Twin Ended (c.serve status) (c'.serve status) := by
  refine twin_access_bind trivial fun seen => twin_access_bind trivial fun argument => ?_
  refine twin_access_bind trivial fun _ => ?_
  refine .dispatch fun result a b presenting => ?_
  obtain ⟨legal, writes⟩ := ofResult_of_presenting status.commandIndex presenting
  refine twin_access_bind trivial fun _ => ?_
  dsimp only
  rw [writes]
  refine twin_bind (twin_writeAll _) fun _ _ _ => twin_report ?_ seen status legal
  rw [Like] at like ⊢
  rw [like]

theorem twin_idle {c c' : Commander} (like : c.Like c') (status : StatusWord) :
    Twin Ended (c.idle status) (c'.idle status) := by
  rw [Like] at like
  rw [idle_eq, idle_eq, like]
  refine twin_bind (twin_writeAll _) fun _ _ _ => ?_
  exact twin_bind (twin_tellAll (harmless_completionNotices _ _)) fun _ _ _ =>
    twin_pure ⟨rfl, nofun, rfl⟩

/-- What is in the response buffer before a pass does not show. -/
theorem twin_poll {c c' : Commander} (like : c.Like c') : Twin Ended c.poll c'.poll := by
  rw [poll_eq_serve, poll_eq_serve]
  refine twin_access_bind trivial fun word => ?_
  split
  · exact twin_serve like _
  · exact twin_idle like _

end Commander

section Runs

variable {π : Type} [Responder π] [ByteSource π] {b : Bridge π}

inductive Both {α : Type} (same : α → α → Prop) : Except Fault α → Except Fault α → Prop where
  | ok {a a' : α} (here : same a a') : Both same (.ok a) (.ok a')
  | error (fault : Fault) : Both same (.error fault) (.error fault)

structure Identical {α : Type} (same : α → α → Prop)
    (r r' : Except Fault α × Bridge π × List Access) : Prop where
  result : Both same r.1 r'.1
  bridge : r'.2.1 = r.2.1
  accesses : r'.2.2.map Access.unbuffered = r.2.2.map Access.unbuffered
  harmless : ∀ access ∈ r.2.2, access.Harmless

/-- A tidy engine answers alike through any buffers. -/
theorem perform_dispatch_tidy (tidy : Tidy π) (request : Request) (a a' : Response) (b : Bridge π) :
    (∃ result r r' after, Presenting result r r' ∧
      perform (.dispatch request a) b = (.ok (result, r), after) ∧
      perform (.dispatch request a') b = (.ok (result, r'), after)) ∨
    ∃ fault after, perform (.dispatch request a) b = (.error fault, after) ∧
      perform (.dispatch request a') b = (.error fault, after) := by
  have result := tidy.result request a a' b.engine
  have state := tidy.state request a a' b.engine
  have presenting := fun length ok => And.intro (tidy.length request a b.engine length ok)
    (tidy.shown request a a' b.engine length ok)
  simp only [perform, dispatched, result, state]
  split
  · rename_i length answered
    refine .inl ⟨.ok length, _, _, _, fun announced same => ?_, rfl, rfl⟩
    cases same
    exact presenting length answered
  · rename_i cause _
    exact .inl ⟨.error cause, _, _, _, fun _ same => (by cases same), rfl, rfl⟩
  · exact .inr ⟨_, _, rfl, rfl⟩

theorem unbuffered_append {k k' : List Access} {access access' : Access}
    (same : k'.map Access.unbuffered = k.map Access.unbuffered)
    (like : access'.unbuffered = access.unbuffered) :
    (k' ++ [access']).map Access.unbuffered = (k ++ [access]).map Access.unbuffered := by
  rw [List.map_append, List.map_append, same, List.map_singleton, List.map_singleton, like]

theorem Twin.run (tidy : Tidy π) {α : Type} {same : α → α → Prop} {p p' : Loop α}
    (twin : Twin same p p') {k k' : List Access}
    (before : k'.map Access.unbuffered = k.map Access.unbuffered)
    (harmless : ∀ access ∈ k, access.Harmless) :
    Identical same (p.run transcribed (b, k)) (p'.run transcribed (b, k')) := by
  induction twin generalizing b k k' with
  | done here => exact ⟨.ok here, rfl, before, harmless⟩
  | fail fault => exact ⟨.error fault, rfl, before, harmless⟩
  | @access access next next' here _ ih =>
    rcases performed : Bridge.perform access b with ⟨fault | answer, after⟩
    · rw [run_call_fault next k performed, run_call_fault next' k' performed]
      exact ⟨.error fault, rfl, before, harmless⟩
    · rw [run_call next k performed, run_call next' k' performed]
      refine ih answer (unbuffered_append before rfl) ?_
      exact List.forall_mem_append.2 ⟨harmless, List.forall_mem_singleton.2 here⟩
  | @dispatch request a a' next next' _ ih =>
    obtain ⟨result, r, r', after, presenting, performed, performed'⟩ | ⟨fault, after, failed, failed'⟩
      := perform_dispatch_tidy tidy request a a' b
    · rw [run_call next k performed, run_call next' k' performed']
      refine ih result r r' presenting (unbuffered_append before rfl) ?_
      exact List.forall_mem_append.2 ⟨harmless, List.forall_mem_singleton.2 trivial⟩
    · rw [run_call_fault next k failed, run_call_fault next' k' failed']
      exact ⟨.error fault, rfl, before, harmless⟩

end Runs

def Pass.unbuffered (pass : Pass) : Pass :=
  { pass with accesses := pass.accesses.map Access.unbuffered }

structure Pass.Legal (pass : Pass) : Prop where
  exchange : ∀ done, pass.outcome.exchange = some done → done.Legal
  harmless : ∀ access ∈ pass.accesses, access.Harmless

namespace Course

variable {π : Type}

structure Same (t t' : Course π) : Prop where
  bridge : t'.bridge = t.bridge
  commander : t.commander.Like t'.commander
  passes : t'.passes.map Pass.unbuffered = t.passes.map Pass.unbuffered
  fault : t'.fault.map (Prod.map id (List.map Access.unbuffered)) =
    t.fault.map (Prod.map id (List.map Access.unbuffered))

/-- No pass met a response of no legal length, nor did the pass that a fault ended. -/
structure Legal (t : Course π) : Prop where
  passes : ∀ pass ∈ t.passes, pass.Legal
  fault : ∀ fault accesses, t.fault = some (fault, accesses) → ∀ access ∈ accesses, access.Harmless

variable [Responder π] [ByteSource π] {t t' : Course π}

theorem Same.poll (tidy : Tidy π) (same : Same t t') (legal : t.Legal) :
    Same t.poll t'.poll ∧ t.poll.Legal := by
  have fault := same.fault
  cases met : t.fault with
  | some earlier =>
    obtain ⟨other, met'⟩ : ∃ other, t'.fault = some other := by
      rw [met] at fault
      cases met' : t'.fault with
      | none => rw [met'] at fault; contradiction
      | some other => exact ⟨other, rfl⟩
    rw [poll_of_fault met, poll_of_fault met']
    exact ⟨same, legal⟩
  | none =>
    have met' : t'.fault = none := by
      rw [met] at fault
      simpa using fault
    have fresh : ([] : List Access).map Access.unbuffered = ([] : List Access).map _ := rfl
    have runs := (Commander.twin_poll same.commander).run (b := t.bridge) tidy fresh (by simp)
    rcases ran : t.commander.poll.run transcribed (t.bridge, []) with ⟨result, after, accesses⟩
    rcases ran' : t'.commander.poll.run transcribed (t.bridge, []) with ⟨result', after', accesses'⟩
    rw [ran, ran'] at runs
    obtain ⟨results, bridge, alike, harmless⟩ := runs
    dsimp only at results bridge alike harmless
    subst bridge
    rw [← same.bridge] at ran'
    cases results with
    | ok here =>
      rename_i out out'
      obtain ⟨outcome, exchange, like⟩ := here
      rw [poll_eq_of_ok met ran, poll_eq_of_ok met' ran']
      refine ⟨⟨rfl, like, ?_, same.fault⟩, ?_, legal.fault⟩
      · rw [List.map_append, List.map_append, same.passes]
        simp only [List.map_singleton, Pass.unbuffered, alike, outcome]
      · exact List.forall_mem_append.2
          ⟨legal.passes, List.forall_mem_singleton.2 ⟨exchange, harmless⟩⟩
    | error fault =>
      rw [poll_eq_of_error met ran, poll_eq_of_error met' ran']
      refine ⟨⟨rfl, same.commander, same.passes, ?_⟩, legal.passes, ?_⟩
      · simp only [Option.map_some, Prod.map, alike]
      · rintro _ _ ⟨⟩
        exact harmless

/-- Passes of the command loop, before each of which anything may happen to the bridge. -/
def passing (changes : List (Bridge π → Bridge π)) (t : Course π) : Course π :=
  changes.foldl (fun t change => poll { t with bridge := change t.bridge }) t

theorem Same.passing (tidy : Tidy π) (same : Same t t') (legal : t.Legal)
    (changes : List (Bridge π → Bridge π)) :
    Same (t.passing changes) (t'.passing changes) ∧ (t.passing changes).Legal := by
  induction changes generalizing t t' with
  | nil => exact ⟨same, legal⟩
  | cons change rest ih =>
    have changed : Same { t with bridge := change t.bridge } { t' with bridge := change t'.bridge } :=
      ⟨congrArg change same.bridge, same.commander, same.passes, same.fault⟩
    have next := changed.poll tidy ⟨legal.passes, legal.fault⟩
    exact ih next.1 next.2

/-- A card writes the bytes that it announces, and nothing depends on what earlier responses left in
the buffer. -/
theorem card_leaves_nothing {β : Type} [Image.Store β] :
    Tidy (Card β) ∧ ∀ (b : Bridge (Card β)) (c : Commander) (buffer : Response)
      (changes : List (Bridge (Card β) → Bridge (Card β))),
      let t : Course (Card β) := ⟨b, c, [], none⟩
      let t' : Course (Card β) := ⟨b, { c with response := buffer }, [], none⟩
      Same (t.passing changes) (t'.passing changes) ∧ (t.passing changes).Legal := by
  refine ⟨Card.tidy β, fun b c buffer changes => ?_⟩
  have same : Same (⟨b, c, [], none⟩ : Course (Card β)) ⟨b, { c with response := buffer }, [], none⟩ :=
    ⟨rfl, rfl, rfl, rfl⟩
  exact same.passing (Card.tidy β) ⟨nofun, nofun⟩ changes

end Course

end Bridge
end SdBridge
