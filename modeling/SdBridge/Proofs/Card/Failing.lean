import SdBridge.Proofs.Card.Stopping
import SdBridge.Proofs.Card.Tally

/-!
Reads of a store that may fail. Whatever the data half is asked, what was handed out and what can
still be handed out stay the same in all. The end of a read is told once, and nothing happens after
it.
-/
namespace SdBridge.Card
namespace Session

variable {β : Type} [Image.Store β] {sectors : UInt64} {whole : List UInt8} {s : Session β}

/-- The job posted last, of which some bytes were handed out and the others can still be. -/
structure Underway (sectors : UInt64) (whole : List UInt8) (s : Session β) : Prop where
  accounted : Accounted sectors s
  whole : s.handedFor s.posts.length ++ s.card.followed.toCome sectors = whole
  ended : s.Ended ↔ s.card.followed.unread = [] ∧ s.card.followed.job = .idle

namespace Underway

theorem answer_dataReady (underway : Underway sectors whole s) :
    s.card.dataReady.answer = .ok (decide (s.handedFor s.posts.length ≠ whole)) := by
  have answer : s.card.dataReady.answer = .ok (decide (s.card.followed.toCome sectors ≠ [])) :=
    underway.accounted.readied.answer
  rw [answer, ← underway.whole]
  simp

/-- Once the end was told, the data half is at the job posted last, with nothing left of it. -/
theorem spent_of_ended (underway : Underway sectors whole s) (ended : s.Ended) :
    s.card.followed = s.card.data ∧ s.card.data.unread = [] ∧ s.card.data.job = .idle := by
  have accounted := underway.accounted
  have numbered := accounted.coherent.numbered
  have told := accounted.finished
  rw [show s.card.data.finished = s.card.commands.posted from ended, numbered.number] at told
  have now := (accounted.coherent.follows.ticket_eq_iff numbered).2
    (Nat.le_antisymm accounted.number_le told)
  have same := followed_of_ticket now
  exact ⟨same, same ▸ underway.ended.1 ended⟩

/-- Nothing happens after the end: no byte, no read of the store, no word. -/
theorem call_of_ended (underway : Underway sectors whole s) (ended : s.Ended) {call : Call}
    (data : call.isData = true) :
    (s.call call).card = s.card ∧ (s.call call).handed = s.handed ∧
      s.card.dataReady = ⟨.ok false, s.card, []⟩ ∧ s.tells call = false := by
  obtain ⟨same, none, job⟩ := underway.spent_of_ended ended
  have spent : s.card.followed.prepare = ⟨.ok false, s.card.data, []⟩ := by
    rw [same, Data.prepare_of_spent none job]
  have ready : s.card.dataReady = ⟨.ok false, s.card, []⟩ := by
    change (⟨s.card.followed.prepare.answer, { s.card with data := s.card.followed.prepare.state },
      s.card.followed.prepare.log⟩ : Served Bool (Card β)) = _
    rw [spent]
  have quiet : s.granted = .none := by
    cases granted : s.granted with
    | none => rfl
    | some number => exact absurd none (underway.accounted.granted number granted).2
  have other := other_ne s.card.commands.posted
  cases call with
  | dispatch => cases data
  | dataReady =>
    refine ⟨?_, rfl, ready, ?_⟩
    · rw [call_dataReady, spent]
    · simp [tells, finished_dataReady _ underway.accounted, same, job, other]
  | nextByte =>
    refine ⟨?_, ?_, ready, ?_⟩
    · rw [call_nextByte_of_none s quiet]
    · rw [call_nextByte_of_none s quiet]
    · simp [tells, finished_nextByte, quiet, other]

theorem dataReady (underway : Underway sectors whole s) :
    Underway sectors whole (s.call .dataReady) := by
  have accounted := underway.accounted
  have readied := accounted.readied
  have finished := finished_dataReady s.card.data.finished accounted
  have now := accounted.followed_dataReady
  refine ⟨accounted.dataReady, ?_, ?_⟩
  · rw [now, readied.toCome]
    exact underway.whole
  · rw [now]
    have word : (s.call .dataReady).card.data.finished = _ := finished
    rw [Ended, word]
    by_cases dry : s.card.followed.toCome sectors = []
    · have unread : s.card.followed.prepare.state.unread = [] :=
        Data.unread_of_toCome (readied.toCome.trans dry)
      refine iff_of_true ?_ ⟨unread, readied.idle dry⟩
      by_cases job : s.card.followed.job = .idle
      · rw [if_neg fun busy => busy.2 job]
        exact underway.ended.2 ⟨Data.unread_of_toCome dry, job⟩
      · rw [if_pos ⟨dry, job⟩]
        rfl
    · refine iff_of_false ?_ fun spent => readied.front dry spent.1
      rw [if_neg fun busy => dry busy.1]
      intro ended
      obtain ⟨none, job⟩ := underway.ended.1 ended
      exact dry (Data.toCome_of_spent none job)

theorem nextByte (underway : Underway sectors whole s) :
    Underway sectors whole (s.call .nextByte) := by
  have accounted := underway.accounted
  have numbered := accounted.coherent.numbered
  have follows := accounted.coherent.follows
  cases granted : s.granted with
  | none => rwa [call_nextByte_of_none s granted]
  | some number =>
    obtain ⟨rfl, front⟩ := accounted.granted number granted
    obtain ⟨byte, more, unread⟩ := List.exists_cons_of_ne_nil front
    obtain ⟨after, next, left, job, ticket, store, finished⟩ := Data.next_of_unread unread
    have block : after.block = s.card.data.block := by
      rw [← Data.next_block s.card.data, next]
    have called := call_nextByte_of_some s granted unread
    rw [next] at called
    have counted := accounted.nextByte
    have handed := s.handedFor_append (s.call .nextByte) (by rw [called]) s.posts.length
    rw [show s.posts.length = (s.call .nextByte).posts.length by rw [called]] at handed
    rw [called] at counted handed ⊢
    by_cases now : s.card.data.ticket = s.card.commands.posted
    · have before : s.card.followed = s.card.data := followed_of_ticket now
      have here : ({ s.card with data := after } : Card β).followed = after :=
        followed_of_ticket (ticket.trans now)
      have running : ¬s.Ended := fun ended => front (before ▸ underway.ended.1 ended).1
      refine ⟨counted, ?_, ?_⟩
      · rw [handed, if_pos ((follows.ticket_eq_iff numbered).1 now), here, ← underway.whole, before,
          Data.toCome, Data.toCome, left, job, block, store, unread, List.append_assoc]
        rfl
      · rw [Ended, here, left, job, finished]
        split
        · rename_i last
          exact iff_of_true now last
        · rename_i more
          exact iff_of_false running more
    · have earlier := follows.place.resolve_left now
      have other : s.card.commands.posted ≠ after.ticket := fun same => now (ticket ▸ same).symm
      have behind : s.card.commands.posted ≠ s.card.data.ticket := fun same => now same.symm
      refine ⟨counted, ?_, ?_⟩
      · rw [handed, if_neg (Nat.ne_of_lt earlier), List.append_nil, ← underway.whole]
        simp only [followed]
        rw [Data.toCome_follow_of_behind other, Data.toCome_follow_of_behind behind, block, store]
      · -- Neither half of the equivalence holds, before the call as after it.
        have running := accounted.running_of_behind now
        have fresh := Data.follow_new behind
        refine iff_of_false (counted.running_of_behind other.symm) fun spent =>
          running (underway.ended.2 ?_)
        exact ⟨fresh.1, fresh.2.trans ((Data.follow_new other).2.symm.trans spent.2)⟩

theorem call (underway : Underway sectors whole s) {call : Call} (data : call.isData = true) :
    Underway sectors whole (s.call call) := by
  cases call with
  | dispatch => cases data
  | dataReady => exact underway.dataReady
  | nextByte => exact underway.nextByte

/-- A call tells the end of a read that was not over before exactly when the read is over after it. -/
theorem tells_iff (underway : Underway sectors whole s) (running : ¬s.Ended) {call : Call}
    (data : call.isData = true) : s.tells call = true ↔ (s.call call).Ended := by
  have other := other_ne s.card.commands.posted
  have same : s.retold s.card.data.finished = s := rfl
  simp only [tells, beq_iff_eq, Ended, (call_data s data).1]
  cases call with
  | dispatch => cases data
  | dataReady =>
    have now := finished_dataReady s.card.data.finished underway.accounted
    rw [same] at now
    rw [now, finished_dataReady _ underway.accounted]
    split
    · rfl
    · exact iff_of_false other running
  | nextByte =>
    have now := finished_nextByte (s := s) s.card.data.finished
    rw [same] at now
    rw [now, finished_nextByte]
    split
    · rfl
    · exact iff_of_false other running

theorem foldl (underway : Underway sectors whole s) {steps : List Call}
    (data : ∀ step ∈ steps, step.isData = true) :
    Underway sectors whole (steps.foldl (fun s call => s.call call) s) := by
  induction steps generalizing s with
  | nil => exact underway
  | cons step steps ih =>
    obtain ⟨first, rest⟩ := List.forall_mem_cons.1 data
    exact ih (underway.call first) rest

theorem foldl_of_ended (underway : Underway sectors whole s) (ended : s.Ended) {steps : List Call}
    (data : ∀ step ∈ steps, step.isData = true) :
    (steps.foldl (fun s call => s.call call) s).card = s.card ∧
      (steps.foldl (fun s call => s.call call) s).handed = s.handed ∧ told steps s = 0 := by
  induction steps generalizing s with
  | nil => exact ⟨rfl, rfl, rfl⟩
  | cons step steps ih =>
    obtain ⟨first, rest⟩ := List.forall_mem_cons.1 data
    obtain ⟨card, handed, -, silent⟩ := underway.call_of_ended ended first
    have still : (s.call step).Ended := by rwa [Ended, card]
    obtain ⟨card', handed', quiet⟩ := ih (underway.call first) still rest
    refine ⟨card'.trans card, handed'.trans handed, ?_⟩
    rw [told, silent, quiet]
    rfl

/-- Calls to the data half tell the end of a read once if it ends, and not at all otherwise. -/
theorem told_eq (underway : Underway sectors whole s) (running : ¬s.Ended) {steps : List Call}
    (data : ∀ step ∈ steps, step.isData = true) :
    told steps s = 0 ∧ ¬(steps.foldl (fun s call => s.call call) s).Ended ∨
      told steps s = 1 ∧ (steps.foldl (fun s call => s.call call) s).Ended := by
  induction steps generalizing s with
  | nil => exact .inl ⟨rfl, running⟩
  | cons step steps ih =>
    obtain ⟨first, rest⟩ := List.forall_mem_cons.1 data
    have tells := underway.tells_iff running first
    by_cases ended : (s.call step).Ended
    · obtain ⟨card, -, quiet⟩ := (underway.call first).foldl_of_ended ended rest
      refine .inr ⟨?_, ?_⟩
      · rw [told, tells.2 ended, quiet]
        rfl
      · rw [List.foldl_cons, Ended, card]
        exact ended
    · have silent : s.tells step = false := Bool.eq_false_iff.2 (mt tells.1 ended)
      rw [told, silent, Bool.toNat_false, Nat.zero_add]
      exact ih (underway.call first) ended rest

/-- A read that has no byte left is over once it was asked for one. -/
theorem ended_of_false (underway : Underway sectors whole s)
    (answer : s.card.dataReady.answer = .ok false) : (s.call .dataReady).Ended := by
  rw [underway.answer_dataReady, Except.ok.injEq, decide_eq_false_iff_not, not_not] at answer
  have readied := underway.accounted.readied
  have none : s.card.followed.toCome sectors = [] := by
    have all := underway.whole
    rwa [answer, List.append_right_eq_self] at all
  refine underway.dataReady.ended.2 ?_
  rw [underway.accounted.followed_dataReady]
  exact ⟨Data.unread_of_toCome (readied.toCome.trans none), readied.idle none⟩

/-- Whatever is called then, the card stays as it is. -/
theorem foldl_of_false (underway : Underway sectors whole s)
    (answer : s.card.dataReady.answer = .ok false) {more : List Call}
    (data : ∀ step ∈ more, step.isData = true) :
    let later := more.foldl (fun s call => s.call call) (s.call .dataReady)
    later.handed = s.handed ∧ later.card = s.card.dataReady.state ∧
      later.card.dataReady = ⟨.ok false, later.card, []⟩ ∧ later.Ended := by
  intro later
  have told := underway.ended_of_false answer
  obtain ⟨card, handed, -⟩ := underway.dataReady.foldl_of_ended told data
  have ended : later.Ended := by
    rw [Ended, card]
    exact told
  have spent := (underway.dataReady.foldl data).call_of_ended ended
    (rfl : Call.dataReady.isData = true)
  exact ⟨handed, card, spent.2.2.1, ended⟩

theorem handedFor_prefix (underway : Underway sectors whole s) :
    s.handedFor s.posts.length <+: whole :=
  ⟨_, underway.whole⟩

end Underway

def bytewise (count : Nat) : List Call := (List.replicate count [.dataReady, .nextByte]).flatten

/-- One byte more is handed out, if there is one. -/
theorem Underway.handedFor_pair (underway : Underway sectors whole s) :
    ((s.call .dataReady).call .nextByte).handedFor s.posts.length =
      whole.take ((s.handedFor s.posts.length).length + 1) := by
  have readied := underway.accounted.readied
  have asked := underway.dataReady
  have answer := underway.answer_dataReady
  by_cases all : s.handedFor s.posts.length = whole
  · have told := underway.ended_of_false (by rw [answer]; simp [all])
    have kept : ((s.call .dataReady).call .nextByte).handed = s.handed :=
      (asked.call_of_ended told rfl).2.1
    have still : ((s.call .dataReady).call .nextByte).handedFor s.posts.length =
        s.handedFor s.posts.length := by
      rw [handedFor, kept, handedFor]
    rw [still, all, List.take_of_length_le (Nat.le_succ _)]
  · have granted : (s.call .dataReady).granted = some s.posts.length := by
      simp only [Session.call, answer, ne_eq, all, not_false_eq_true, decide_true]
    obtain ⟨byte, more, unread⟩ :=
      List.exists_cons_of_ne_nil (asked.accounted.granted _ granted).2
    have handed := (s.call .dataReady).handedFor_append
      ((s.call .dataReady).call .nextByte)
      (by rw [call_nextByte_of_some _ granted unread]) s.posts.length
    have front := asked.nextByte.handedFor_prefix
    rw [(call_data (s.call .dataReady) (rfl : Call.nextByte.isData = true)).2] at front
    change _ <+: _ at front
    rw [if_pos rfl] at handed
    have length : (((s.call .dataReady).call .nextByte).handedFor s.posts.length).length =
        (s.handedFor s.posts.length).length + 1 := by
      rw [handed, List.length_append]
      rfl
    rw [← length]
    exact List.prefix_iff_eq_take.1 front

theorem Underway.handedFor_bytewise (underway : Underway sectors whole s) (count : Nat) :
    ((bytewise count).foldl (fun s call => s.call call) s).handedFor s.posts.length =
      whole.take ((s.handedFor s.posts.length).length + count) := by
  induction count generalizing s with
  | zero => exact List.prefix_iff_eq_take.1 underway.handedFor_prefix
  | succ count ih =>
    have one := underway.handedFor_pair
    have rest := ih underway.dataReady.nextByte
    have posts : ((s.call .dataReady).call .nextByte).posts = s.posts :=
      (call_data (s.call .dataReady) (rfl : Call.nextByte.isData = true)).2
    rw [posts, one] at rest
    change ((bytewise count).foldl _ ((s.call .dataReady).call .nextByte)).handedFor _ = _
    rw [rest, List.take_eq_take_iff, List.length_take]
    omega

section Read

variable {request : Request} {response : Response} {length : Nat}

/-- A read that is accepted is posted under a number of its own. -/
theorem Accounted.posts_read (accounted : Accounted sectors s)
    (index : request.command.toNat ∈ [17, 18]) (inside : request.argument.toUInt64 < sectors)
    (accepted : (s.card.dispatch request response).result = .ok length)
    (few : (s.call (.dispatch request response)).posts.length < 2 ^ 28) :
    let begun := s.call (.dispatch request response)
    begun.card.commands.state = .sendingData ∧
      begun.card.commands.posted.job = Commands.readJob request ∧
      s.posts.length < begun.posts.length := by
  intro begun
  obtain ⟨reply, answered⟩ := Handshake.reply_of_dispatch accepted
  have state := Commands.transfer_of_read index answered
  have numbered := accounted.coherent.numbered
  have answer := Commands.answer_read index state
    (by rwa [Commands.sync_sectors, numbered.image])
  have commands : begun.card.commands =
      (s.card.commands.sync s.card.data.finished).prepared.readStarted request := by
    simp only [begun, Session.call, dispatch_state, Commands.dispatch, answer]
  have counted : Accounted sectors begun := accounted.dispatch request response few
  have generation : begun.card.commands.generation =
      nextGeneration s.card.commands.generation := by
    rw [commands, ← Commands.sync_generation s.card.data.finished s.card.commands]
    rfl
  have bound : s.card.commands.generation.toNat < 2 ^ 28 := by
    rw [numbered.generation]
    exact Nat.lt_of_le_of_lt (length_posts_call s _) few
  refine ⟨by rw [commands]; rfl, ?_, Nat.lt_of_le_of_ne (length_posts_call s _) ?_⟩
  · rw [commands]
    exact Ticket.job_pack _ _ (Commands.readJob_fits request)
  · rw [← numbered.generation, ← counted.coherent.numbered.generation, generation]
    exact (nextGeneration_ne bound).symm

/-- It has all its bytes to come, and nothing was told of it. -/
theorem Accounted.read_begins (accounted : Accounted sectors s)
    (index : request.command.toNat ∈ [17, 18]) (inside : request.argument.toUInt64 < sectors)
    (accepted : (s.card.dispatch request response).result = .ok length)
    (few : (s.call (.dispatch request response)).posts.length < 2 ^ 28) :
    let begun := s.call (.dispatch request response)
    begun.card.commands.state = .sendingData ∧ begun.handedFor begun.posts.length = [] ∧
      ¬begun.Ended ∧ Underway sectors ((Image.readable (Commands.blockCount sectors request)
        request.argument.toUInt64 s.card.data.block s.card.data.store).flatMap Vector.toList)
        begun := by
  intro begun
  obtain ⟨sending, job, later⟩ := accounted.posts_read index inside accepted few
  have data : begun.card.data = s.card.data := by
    simp only [begun, Session.call, dispatch_state]
  have counted : Accounted sectors begun := accounted.dispatch request response few
  have before : s.card.data.ticket.number < begun.posts.length :=
    Nat.lt_of_le_of_lt accounted.number_le later
  have behind : begun.card.data.ticket ≠ begun.card.commands.posted := by
    intro now
    rw [← data, now, counted.coherent.numbered.number] at before
    exact Nat.lt_irrefl _ before
  have running := counted.running_of_behind behind
  have none : begun.handedFor begun.posts.length = [] :=
    handedFor_eq_nil fun entry handed =>
      Nat.lt_of_le_of_lt (accounted.past entry handed) before
  refine ⟨sending, none, running, counted, ?_, iff_of_false running ?_⟩
  · rw [none, followed, Data.toCome_follow_of_behind behind.symm, job, Job.obtainable_readJob, data,
      List.nil_append]
  · rintro ⟨-, idle⟩
    rw [followed, (Data.follow_new behind.symm).2, job, Commands.readJob] at idle
    split at idle <;> cases idle

end Read

/-- A read hands out the sectors in front of the first one that fails, and nothing after it. Its end
is told once. -/
theorem failed_read_ends {image : β} (fallible : Image.Fallible sectors image) (identity : Identity)
    (calls : List Call) (request : Request) (index : request.command.toNat ∈ [17, 18])
    (inside : request.argument.toUInt64 < sectors) (response : Response) (length : Nat)
    (accepted : ((run image identity calls).card.dispatch request response).result = .ok length)
    (few : (run image identity (calls ++ [.dispatch request response])).posts.length ≤ 2 ^ 28 - 1)
    (steps : List Call) (data : ∀ step ∈ steps, step.isData = true) :
    let before := (run image identity calls).card.data
    let begun := run image identity (calls ++ [.dispatch request response])
    let s := run image identity (calls ++ [.dispatch request response] ++ steps)
    let good := Image.readable (Commands.blockCount sectors request) request.argument.toUInt64
      before.block before.store
    let whole := good.flatMap Vector.toList
    let handed := s.handedFor begun.posts.length
    handed <+: whole ∧
      s.card.dataReady.answer = .ok (decide (handed ≠ whole)) ∧
      (∀ lba error, Data.readFailed lba error ∈ s.card.dataReady.log →
        s.card.dataReady.answer = .ok false) ∧
      (s.card.dataReady.answer = .ok false → ∀ more : List Call, (∀ step ∈ more, step.isData = true) →
        let later := run image identity
          (calls ++ [.dispatch request response] ++ steps ++ .dataReady :: more)
        later.handed = s.handed ∧ later.card = s.card.dataReady.state ∧
          later.card.dataReady = ⟨.ok false, later.card, []⟩ ∧
          told (steps ++ .dataReady :: more) begun = 1) ∧
      told steps begun ≤ 1 ∧
      (s.card.commands.sync s.card.data.finished).state =
        (if told steps begun = 1 then .transfer else .sendingData) ∧
      ∀ count, steps = bytewise count → handed = whole.take count ∧
        (good.length = Commands.blockCount sectors request →
          count ≤ Image.sectorSize * Commands.blockCount sectors request →
            handed.length = count) := by
  intro before begun s good whole handed
  have few : begun.posts.length < 2 ^ 28 := Nat.lt_of_le_of_lt few (by decide)
  have begins : begun = (run image identity calls).call (.dispatch request response) :=
    run_append ..
  have accounted := accounted_run fallible identity calls
    (Nat.lt_of_le_of_lt (length_posts_call _ _) (begins ▸ few))
  obtain ⟨sending, none, running, underway⟩ :=
    accounted.read_begins index inside accepted (begins ▸ few)
  rw [← begins] at sending none running underway
  have reached : s = steps.foldl (fun s call => s.call call) begun := run_append_list ..
  have now : Underway sectors whole s := reached ▸ underway.foldl data
  obtain ⟨commands, posts⟩ : s.card.commands = begun.card.commands ∧ s.posts = begun.posts :=
    reached ▸ foldl_data begun data
  have number : begun.posts.length = s.posts.length := by rw [posts]
  have ready := now.answer_dataReady
  rw [← number] at ready
  have front := now.handedFor_prefix
  rw [← number] at front
  refine ⟨front, ready, ?_, ?_, ?_, ?_, ?_⟩
  · intro lba error logged
    have none := now.accounted.readied.failed lba error logged
    have answer : s.card.dataReady.answer = _ := now.accounted.readied.answer
    rw [answer, none]
    rfl
  · intro answer more rest later
    have last : later = more.foldl (fun s call => s.call call) (s.call .dataReady) :=
      run_append_list ..
    obtain ⟨kept, card, quiet, ended⟩ := now.foldl_of_false answer rest
    rw [← last] at kept card quiet ended
    refine ⟨kept, card, quiet, ?_⟩
    have all : ∀ step ∈ steps ++ .dataReady :: more, step.isData = true := by
      intro step among
      simp only [List.mem_append, List.mem_cons] at among
      rcases among with old | rfl | new
      · exact data step old
      · rfl
      · exact rest step new
    have final : later = (steps ++ .dataReady :: more).foldl (fun s call => s.call call) begun := by
      rw [List.foldl_append, ← reached, last]
      rfl
    rcases underway.told_eq running all with ⟨-, other⟩ | ⟨once, -⟩
    · rw [← final] at other
      exact absurd ended other
    · exact once
  · rcases underway.told_eq running data with ⟨never, -⟩ | ⟨once, -⟩ <;> omega
  · have state : s.card.commands.state = .sendingData := commands ▸ sending
    rcases underway.told_eq running data with ⟨never, other⟩ | ⟨once, ended⟩
    · rw [if_neg (by omega), Commands.sync, if_neg fun both => other (reached ▸ both.2)]
      exact state
    · rw [if_pos once, Commands.sync, if_pos ⟨state, show s.Ended from reached ▸ ended⟩]
  · intro count bytes
    have taken : handed = whole.take count := by
      have taken := underway.handedFor_bytewise count
      rw [none, List.length_nil, Nat.zero_add, ← bytes, ← reached] at taken
      exact taken
    refine ⟨taken, fun full fits => ?_⟩
    rw [taken, List.length_take, Image.length_flatMap_toList, full, Nat.min_eq_left fits]

/-- A file that had two sectors when it was opened and has lost a part of the second one since. -/
def shortened : Image.File := ⟨⟨⟨700, fun place => (place / 512 + 1).toUInt8⟩, false⟩, 2, false⟩

theorem readable_shortened (buffer : Image.Sector) :
    Image.readable 2 0 buffer shortened = [Vector.replicate 512 1] := by
  have first (buffer : Image.Sector) :
      Image.Store.read 0 buffer shortened = ⟨.ok (), Vector.replicate 512 1, shortened⟩ := by
    have sector : Image.sectorAt shortened.file.bytes 0 = Vector.replicate 512 1 := by
      ext i inside
      simp [Image.sectorAt, shortened, Nat.div_eq_of_lt inside]
    exact congrArg (fun sector => (⟨.ok (), sector, shortened⟩ : Image.Read Image.File)) sector
  have second (buffer : Image.Sector) : (Image.Store.read 1 buffer shortened).result =
      .error (.error (.io 1 .unexpectedEnd)) := rfl
  rw [Image.readable_of_ok (by rw [first]), first]
  exact congrArg _ (Image.readable_of_error (second _))

/-- The second sector is asked for first, which fills the start of the buffer and fails. -/
def readBeyond : List Call :=
  let command (index : UInt8) (argument : UInt32) : Call :=
    .dispatch ⟨index, argument, 0⟩ (Vector.replicate 16 0)
  [command 55 0, command 41 Card.ocrVoltageWindow, command 2 0, command 3 0,
    command 7 0x45670000, command 17 1, .dataReady]

/-- Both sectors are read then: the first one comes as a whole, and nothing after it. -/
theorem failed_read_ends_shortened :
    let read : Call := .dispatch ⟨18, 0, 0⟩ (Vector.replicate 16 0)
    let begun := run shortened {} (readBeyond ++ [read])
    let s := run shortened {} (readBeyond ++ [read] ++ bytewise 512)
    s.handedFor begun.posts.length = List.replicate 512 1 ∧
      s.card.dataReady.answer = .ok false ∧ told (bytewise 512 ++ [.dataReady]) begun = 1 := by
  intro read begun s
  have whole : (Image.readable (Commands.blockCount shortened.sectors ⟨18, 0, 0⟩) 0
      (run shortened {} readBeyond).card.data.block
      (run shortened {} readBeyond).card.data.store).flatMap Vector.toList =
        List.replicate 512 1 := by
    have good := readable_shortened (run shortened {} readBeyond).card.data.block
    refine (congrArg (List.flatMap Vector.toList) good).trans ?_
    rw [List.flatMap_singleton, Vector.toList_replicate]
  obtain ⟨-, answer, -, spent, -, -, bytes⟩ := failed_read_ends
    (Image.fallible_file (f := shortened) (by decide)) {} readBeyond ⟨18, 0, 0⟩ (by decide)
    (by decide) (Vector.replicate 16 0) shortResponse (by decide +kernel) (by decide +kernel)
    (bytewise 512) (by decide +kernel)
  have all : s.handedFor begun.posts.length = List.replicate 512 1 := by
    refine (bytes 512 rfl).1.trans ?_
    exact (congrArg (List.take 512) whole).trans
      (List.take_of_length_le (Nat.le_of_eq List.length_replicate))
  have none : s.card.dataReady.answer = .ok false := by
    refine answer.trans ?_
    rw [Except.ok.injEq, decide_eq_false_iff_not, not_not]
    exact all.trans whole.symm
  exact ⟨all, none, (spent none [] (by simp)).2.2.2⟩

end Session
end SdBridge.Card
