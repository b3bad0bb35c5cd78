import SdBridge.Proofs.Card.Coherence

/-!
How the command half learns that the data half is done. Every access to one of the two shared words
is a turn of its own, so that the data half may finish a job while a command that cancels it is
being answered. The order of turns is arbitrary, and the words are read as they were written last;
weaker memory orders are not considered. Sector reads may fail.
-/
namespace SdBridge.Card

/-- One access to a shared word, with what its half does up to the next one. -/
inductive Turn where
  /-- A command arrives: the finished word is read. -/
  | sync (request : Request)
  /-- The command is answered: the posted word may be written. -/
  | answer
  /-- The data half is asked for a byte: the posted word is read. -/
  | follow
  /-- A block is staged if need be: the finished word may be written. -/
  | prepare
  /-- A byte is handed out: the finished word may be written. -/
  | next

def Data.failing {β : Type} [Image.Store β] (d : Data β) : Bool :=
  match d.job.sector? with
  | none => false
  | some lba => d.size ≤ d.position &&
    match (Image.Store.read lba d.block d.store).result with
    | .error (.error _) => true
    | _ => false

structure Handshake (β : Type) where
  card : Card β
  request : Option Request := none
  /-- The data half has looked at the posted word and will prepare a byte. -/
  asking : Bool := false
  /-- The jobs posted, oldest first. Posts are numbered from one. -/
  posts : List Job := []
  /-- The post that the data half found when it looked last. -/
  seen : Nat := 0
  /-- For each byte handed out, the post it belongs to. -/
  handed : List Nat := []
  failed : List Nat := []

namespace Handshake

variable {β : Type} [Image.Store β]

/-- Take a turn. A turn that does not come next in its half does nothing. -/
def turn : Turn → Handshake β → Handshake β
  | .sync request, h =>
    if h.request.isSome then h
    else
      let commands := h.card.commands.sync h.card.data.finished
      { h with card := { h.card with commands }, request := some request }
  | .answer, h =>
    match h.request with
    | none => h
    | some request =>
      let commands := (h.card.commands.answer request).2
      { h with
        card := { h.card with commands }, request := none
        posts := Commands.postsAfter h.posts request h.card.commands commands }
  | .follow, h =>
    if h.asking then h
    else
      let data := h.card.data.follow h.card.commands.posted
      { h with card := { h.card with data }, asking := true, seen := h.posts.length }
  | .prepare, h =>
    if h.asking then
      let data := h.card.data.prepare.state
      let failed := if h.card.data.failing then h.failed ++ [h.seen] else h.failed
      { h with card := { h.card with data }, asking := false, failed }
    else h
  | .next, h =>
    if h.asking then h
    else
      let data := h.card.data.next.2
      let handed := if h.card.data.position < h.card.data.size then h.handed ++ [h.seen]
        else h.handed
      { h with card := { h.card with data }, handed }

def run (image : β) (identity : Identity) (turns : List Turn) : Handshake β :=
  turns.foldl (fun h turn => h.turn turn) { card := ofImage image identity }

section Calls

variable (h : Handshake β)

/-- Two turns in a row are a call to the command half. -/
theorem turn_sync_answer (request : Request) (response : Response) (free : h.request = none) :
    ((h.turn (.sync request)).turn .answer).card = (h.card.dispatch request response).state := by
  simp [turn, free, dispatch_state, Commands.dispatch]

/-- Two turns in a row are a question to the data half. -/
theorem turn_follow_prepare (free : h.asking = false) :
    ((h.turn .follow).turn .prepare).card = h.card.dataReady.state := by
  simp [turn, free, Card.dataReady, Data.ready]

theorem turn_next (free : h.asking = false) : (h.turn .next).card = h.card.nextByte.state := by
  simp [turn, free, Card.nextByte]

end Calls

theorem run_append (image : β) (identity : Identity) (turns : List Turn) (turn : Turn) :
    run image identity (turns ++ [turn]) = (run image identity turns).turn turn := by
  simp [run, List.foldl_append]

theorem length_posts_turn (h : Handshake β) (turn : Turn) :
    h.posts.length ≤ (h.turn turn).posts.length := by
  cases turn with
  | answer =>
    simp only [Handshake.turn]
    split
    · exact Nat.le_refl _
    · simp only [Commands.postsAfter]
      split <;> simp
  | _ =>
    simp only [Handshake.turn]
    try split
    all_goals exact Nat.le_refl _

/-- Where the ticket at hand stands. Unless a sector could not be read, its end is told exactly when
no byte of it is left. -/
structure Settles (sectors : UInt64) (number : Nat) (handed failed : List Nat) (d : Data β) :
    Prop where
  finished : d.finished.number ≤ d.ticket.number
  ended : d.ticket.job ≠ .idle → (d.finished = d.ticket ↔ d.unread = [] ∧ d.job = .idle)
  counted : number ∉ failed →
    handed.count number + d.unread.length + d.job.length sectors = d.ticket.job.length sectors
  failed : number ∈ failed → d.unread = [] ∧ d.job = .idle

variable {sectors : UInt64} {number : Nat} {handed failed : List Nat} {d : Data β}

theorem failing_of_sector {lba : UInt64} (starts : d.job.sector? = some lba)
    (none : d.unread = []) : d.failing = match (Image.Store.read lba d.block d.store).result with
      | .error (.error _) => true
      | _ => false := by
  simp [Data.failing, starts, (Data.unread_eq_nil_iff d).1 none]

theorem failing_of_no_sector (starts : d.job.sector? = none) : d.failing = false := by
  simp [Data.failing, starts]

omit [Image.Store β] in
/-- A new ticket has all its bytes still to come, and was not told to be done. -/
theorem settles_follow {posted : Ticket} (settles : Settles sectors number handed failed d)
    (new : d.ticket.number < posted.number) (past : ∀ old ∈ handed ++ failed, old < posted.number) :
    Settles sectors posted.number handed failed (d.follow posted) := by
  have other : posted ≠ d.ticket := by
    rintro rfl
    exact Nat.lt_irrefl _ new
  obtain ⟨unread, job⟩ := Data.follow_new other
  have notHanded : posted.number ∉ handed := fun found =>
    Nat.lt_irrefl _ (past _ (List.mem_append_left _ found))
  have notFailed : posted.number ∉ failed := fun found =>
    Nat.lt_irrefl _ (past _ (List.mem_append_right _ found))
  have finished := settles.finished
  refine ⟨?_, ?_, ?_, fun found => absurd found notFailed⟩
  · simp only [Data.follow_finished, Data.follow_ticket]
    omega
  · intro some
    simp only [Data.follow_ticket] at some
    simp only [Data.follow_finished, Data.follow_ticket, unread, job, some, and_false, iff_false]
    rintro rfl
    omega
  · intro _
    simp [unread, job, List.count_eq_zero.2 notHanded]

omit [Image.Store β] in
/-- A block was staged, and nothing else happened. -/
theorem Settles.staged (settles : Settles sectors number handed failed d) {after : Data β}
    (none : d.unread = []) (busy : d.job ≠ .idle) (some : after.unread ≠ [])
    (ticket : after.ticket = d.ticket) (finished : after.finished = d.finished)
    (length : after.unread.length + after.job.length sectors = d.job.length sectors) :
    Settles sectors number handed failed after := by
  refine ⟨?_, ?_, ?_, ?_⟩
  · simpa only [finished, ticket] using settles.finished
  · intro begun
    rw [ticket] at begun
    simp only [finished, ticket, settles.ended begun, none, busy, some, and_false, false_and]
  · intro working
    have counted := settles.counted working
    simp only [none, List.length_nil] at counted
    rw [ticket]
    omega
  · intro found
    exact absurd (settles.failed found).2 busy

/-- Preparing a byte ends the job only where a sector cannot be read. -/
theorem settles_prepare [Image.LawfulStore β] (settles : Settles sectors number handed failed d)
    (inRange : d.job.InRange sectors) (store : Image.Store.sectorCount d.store = sectors) :
    Settles sectors number handed (if d.failing then failed ++ [number] else failed)
        d.prepare.state ∧
      d.prepare.state.job.InRange sectors ∧ d.prepare.state.ticket = d.ticket ∧
      Image.Store.sectorCount d.prepare.state.store = sectors := by
  have prepared := Data.prepared_prepare inRange
  have kept (lba : UInt64) :
      Image.Store.sectorCount (Image.Store.read lba d.block d.store).store = sectors :=
    (Image.LawfulStore.sectorCount_read lba d.block d.store).trans store
  generalize d.prepare = served at prepared
  cases prepared with
  | waiting some =>
    have calm : d.failing = false := by
      simp only [Data.failing]
      split
      · rfl
      · simp [Nat.not_le.2 some]
    rw [calm]
    exact ⟨settles, inRange, rfl, store⟩
  | spent none job =>
    rw [failing_of_no_sector (by rw [job]; rfl)]
    exact ⟨settles, inRange, rfl, store⟩
  | short none starts after job bytes some ticket finished same =>
    have busy : d.job ≠ .idle := fun idle => some (by simp [bytes ⟨sectors, fun _ => d.block⟩, idle,
      Job.bytes])
    have staged : after.unread.length = d.job.length sectors := by
      rw [bytes ⟨sectors, fun _ => d.block⟩, Job.length_bytes]
    have length : after.unread.length + after.job.length sectors = d.job.length sectors := by
      rw [staged, job, Job.length_idle, Nat.add_zero]
    rw [failing_of_no_sector starts]
    exact ⟨settles.staged none busy some ticket finished length, by rw [job]; trivial, ticket,
      same ▸ store⟩
  | sector none lba starts after read bytes same job ticket finished =>
    have busy : d.job ≠ .idle := fun idle => by simp [idle, Job.sector?] at starts
    have some : after.unread ≠ [] := by simp [bytes]
    rw [same, kept] at job
    have length : after.unread.length + after.job.length sectors = d.job.length sectors := by
      rw [bytes, job, Vector.length_toList, Job.length_of_sector starts inRange]
    rw [failing_of_sector starts none, read]
    exact ⟨settles.staged none busy some ticket finished length, job ▸ Job.inRange_next starts _,
      ticket, same ▸ kept lba⟩
  | failed none lba starts after error read same job unread ticket finished =>
    rw [failing_of_sector starts none, read]
    refine ⟨⟨?_, ?_, ?_, fun _ => ⟨unread, job⟩⟩, by rw [job]; trivial, ticket, same ▸ kept lba⟩
    · simp [finished, ticket]
    · simp [finished, ticket, unread, job]
    · simp
  | faulted none lba starts after fault read same job unread ticket finished =>
    rw [failing_of_sector starts none, read, if_neg Bool.false_ne_true]
    refine ⟨⟨?_, ?_, ?_, ?_⟩, job ▸ inRange, ticket, same ▸ kept lba⟩
    · simpa only [finished, ticket] using settles.finished
    · simpa only [finished, ticket, unread, job, none] using settles.ended
    · simpa only [ticket, unread, job, none] using settles.counted
    · simpa only [unread, job, none] using settles.failed

omit [Image.Store β] in
/-- Handing out the last byte, and no byte before it, tells the end. -/
theorem settles_next (settles : Settles sectors number handed failed d) :
    Settles sectors number (if d.position < d.size then handed ++ [number] else handed) failed
        d.next.2 ∧
      d.next.2.job = d.job ∧ d.next.2.ticket = d.ticket ∧ d.next.2.store = d.store := by
  by_cases front : d.unread = []
  · have none := (Data.unread_eq_nil_iff d).1 front
    rw [Data.next_of_none front, if_neg (Nat.not_lt.2 none)]
    exact ⟨settles, rfl, rfl, rfl⟩
  · obtain ⟨byte, more, unread⟩ := List.exists_cons_of_ne_nil front
    obtain ⟨after, next, left, job, ticket, store, finished⟩ := Data.next_of_unread unread
    have some : d.position < d.size := by
      rw [Data.unread_eq_nil_iff] at front
      omega
    rw [next, if_pos some]
    refine ⟨⟨?_, ?_, ?_, ?_⟩, job, ticket, store⟩
    · rw [finished, ticket]
      split
      · exact Nat.le_refl _
      · exact settles.finished
    · intro begun
      rw [ticket] at begun
      have before : d.finished ≠ d.ticket := fun told =>
        front ((settles.ended begun).1 told).1
      rw [finished, ticket, left, job]
      split
      · simp [*]
      · simp [*]
    · intro working
      have counted := settles.counted working
      simp only [unread, List.length_cons] at counted
      simp only [left, job, ticket, List.count_append, List.count_singleton_self]
      omega
    · intro found
      exact absurd (settles.failed found).1 front

structure Tracked (sectors : UInt64) (h : Handshake β) : Prop where
  coherent : Coherent h.posts sectors h.card
  store : Image.Store.sectorCount h.card.data.store = sectors
  seen : h.seen = h.card.data.ticket.number
  settles : Settles sectors h.seen h.handed h.failed h.card.data
  past : ∀ number ∈ h.handed ++ h.failed, number ≤ h.seen

theorem tracked_fresh (image : β) (identity : Identity) :
    Tracked (Image.Store.sectorCount image) (run image identity []) where
  coherent := coherent_ofImage image identity
  store := rfl
  seen := Ticket.number_idle.symm
  settles := ⟨Nat.le_refl _, fun busy => absurd Ticket.job_idle busy, by simp [run, ofImage,
    Data.unread], by simp [run]⟩
  past := by simp [run]

variable {h : Handshake β}

theorem tracked_sync (tracked : Tracked sectors h) (request : Request) :
    Tracked sectors (h.turn (.sync request)) := by
  simp only [turn]
  split
  · exact tracked
  · exact ⟨⟨tracked.coherent.numbered.sync _, tracked.coherent.follows.sync _⟩, tracked.store,
      tracked.seen, tracked.settles, tracked.past⟩

theorem tracked_answer (tracked : Tracked sectors h)
    (few : (h.turn .answer).posts.length < 2 ^ 28) : Tracked sectors (h.turn .answer) := by
  simp only [turn] at few ⊢
  cases arrived : h.request with
  | none => exact tracked
  | some request =>
    simp only [arrived] at few ⊢
    obtain ⟨numbered, _⟩ := tracked.coherent.numbered.answer (Eq.refl (Commands.answer request _)) few
    have follows := tracked.coherent.follows.answer tracked.coherent.numbered rfl few
    exact ⟨⟨numbered, follows⟩, tracked.store, tracked.seen, tracked.settles, tracked.past⟩

theorem tracked_follow (tracked : Tracked sectors h) : Tracked sectors (h.turn .follow) := by
  have numbered := tracked.coherent.numbered
  have follows := tracked.coherent.follows
  have before := follows.number_le numbered
  simp only [turn]
  split
  · exact tracked
  · refine ⟨⟨numbered, follows.follow numbered⟩, by simpa using tracked.store, ?_, ?_, ?_⟩
    · simp [numbered.number]
    · by_cases now : h.card.data.ticket = h.card.commands.posted
      · have same : h.seen = h.posts.length :=
          tracked.seen.trans ((follows.ticket_eq_iff numbered).1 now)
        rw [← now, Data.follow_self, ← same]
        exact tracked.settles
      · have earlier : h.seen < h.posts.length := by
          rw [tracked.seen]
          exact follows.place.resolve_left now
        rw [← numbered.number] at earlier ⊢
        refine settles_follow tracked.settles (tracked.seen ▸ earlier) fun old found => ?_
        exact Nat.lt_of_le_of_lt (tracked.past old found) earlier
    · intro number found
      have := tracked.past number found
      have := tracked.seen
      simp only
      omega

theorem tracked_prepare [Image.LawfulStore β] (tracked : Tracked sectors h) :
    Tracked sectors (h.turn .prepare) := by
  obtain ⟨settles, inRange, ticket, store⟩ :=
    settles_prepare tracked.settles tracked.coherent.follows.inRange tracked.store
  simp only [turn]
  split
  · refine ⟨⟨tracked.coherent.numbered, tracked.coherent.follows.congr ticket inRange⟩, store, ?_,
      settles, ?_⟩
    · simpa only [ticket] using tracked.seen
    · intro number found
      simp only [List.mem_append] at found
      rcases found with handed | failed
      · exact tracked.past number (List.mem_append_left _ handed)
      · split at failed
        · rcases List.mem_append.1 failed with old | new
          · exact tracked.past number (List.mem_append_right _ old)
          · exact Nat.le_of_eq (List.mem_singleton.1 new)
        · exact tracked.past number (List.mem_append_right _ failed)
  · exact tracked

theorem tracked_next (tracked : Tracked sectors h) : Tracked sectors (h.turn .next) := by
  obtain ⟨settles, job, ticket, store⟩ := settles_next tracked.settles
  simp only [turn]
  split
  · exact tracked
  · refine ⟨⟨tracked.coherent.numbered, tracked.coherent.follows.congr ticket ?_⟩, ?_, ?_, settles,
      ?_⟩
    · rw [job]
      exact tracked.coherent.follows.inRange
    · simpa only [store] using tracked.store
    · simpa only [ticket] using tracked.seen
    · intro number found
      simp only [List.mem_append] at found
      rcases found with handed | failed
      · split at handed
        · rcases List.mem_append.1 handed with old | new
          · exact tracked.past number (List.mem_append_left _ old)
          · exact Nat.le_of_eq (List.mem_singleton.1 new)
        · exact tracked.past number (List.mem_append_left _ handed)
      · exact tracked.past number (List.mem_append_right _ failed)

theorem tracked_run [Image.LawfulStore β] (image : β) (identity : Identity) (turns : List Turn)
    (few : (run image identity turns).posts.length < 2 ^ 28) :
    Tracked (Image.Store.sectorCount image) (run image identity turns) := by
  induction turns using List.reverseRecOn with
  | nil => exact tracked_fresh image identity
  | append_singleton turns turn before =>
    rw [run_append] at few ⊢
    have tracked := before (Nat.lt_of_le_of_lt (length_posts_turn _ turn) few)
    cases turn with
    | sync request => exact tracked_sync tracked request
    | answer => exact tracked_answer tracked few
    | follow => exact tracked_follow tracked
    | prepare => exact tracked_prepare tracked
    | next => exact tracked_next tracked

/-- The finished word names the post made last exactly when that one is done: a ticket that was
superseded has another number, whatever was done for it meanwhile. -/
theorem finished_eq_posted_iff (tracked : Tracked sectors h)
    (sending : h.card.commands.state = .sendingData) :
    h.card.data.finished = h.card.commands.posted ↔
      h.handed.count h.posts.length = (jobAt h.posts h.posts.length).length sectors ∨
        h.posts.length ∈ h.failed := by
  have numbered := tracked.coherent.numbered
  have follows := tracked.coherent.follows
  have busy := numbered.sending sending
  have some : (jobAt h.posts h.posts.length).length sectors ≠ 0 := by
    rw [← numbered.job, Ne, Job.length_eq_zero_iff numbered.inRange]
    exact busy
  by_cases now : h.card.data.ticket = h.card.commands.posted
  · have seen : h.seen = h.posts.length :=
      tracked.seen.trans ((follows.ticket_eq_iff numbered).1 now)
    have settles := tracked.settles
    rw [seen] at settles
    rw [← numbered.job, ← now]
    rw [← now] at busy
    rw [settles.ended busy]
    by_cases failed : h.posts.length ∈ h.failed
    · simp [settles.failed failed, failed]
    · have counted := settles.counted failed
      have idle := Job.length_eq_zero_iff follows.inRange
      rw [← List.length_eq_zero_iff, ← idle]
      simp only [failed, or_false]
      omega
  · have earlier : h.seen < h.posts.length := by
      rw [tracked.seen]
      exact follows.place.resolve_left now
    have notFinished : h.card.data.finished ≠ h.card.commands.posted := by
      intro told
      have finished := tracked.settles.finished
      have seen := tracked.seen
      rw [told, numbered.number] at finished
      omega
    have notHanded : h.posts.length ∉ h.handed := fun found =>
      Nat.not_le.2 earlier (tracked.past _ (List.mem_append_left _ found))
    have notFailed : h.posts.length ∉ h.failed := fun found =>
      Nat.not_le.2 earlier (tracked.past _ (List.mem_append_right _ found))
    simp [notFinished, notFailed, List.count_eq_zero.2 notHanded, some.symm]

/-- A command leaves the data state exactly when the job posted last is over. The end of an earlier
job makes no difference. -/
theorem sync_leaves_iff [Image.LawfulStore β] (image : β) (identity : Identity)
    (turns : List Turn) (few : (run image identity turns).posts.length ≤ 2 ^ 28 - 1) :
    let h := run image identity turns
    h.request = none → h.card.commands.state = .sendingData → ∀ request,
      ((h.turn (.sync request)).card.commands.state = .transfer ↔
        h.handed.count h.posts.length =
            (jobAt h.posts h.posts.length).length (Image.Store.sectorCount image) ∨
          h.posts.length ∈ h.failed) := by
  intro h free sending request
  have tracked : Tracked (Image.Store.sectorCount image) h :=
    tracked_run image identity turns (by omega)
  rw [← finished_eq_posted_iff tracked sending]
  simp only [turn, free, Option.isSome_none, Bool.false_eq_true, if_false, Commands.sync, sending,
    true_and]
  split <;> simp [*]

/-- The command is cancelled and given again when seven of eight bytes are out. The eighth ends the
first job meanwhile. -/
def lateEnd : List Turn :=
  let command (index : UInt8) (argument : UInt32) : List Turn :=
    [.sync ⟨index, argument, 0⟩, .answer]
  let rca : UInt32 := 0x45670000
  command 55 0 ++ command 41 Card.ocrVoltageWindow ++ command 2 0 ++ command 3 0 ++
    command 7 rca ++ command 55 rca ++ command 51 0 ++ [Turn.follow, Turn.prepare] ++
    List.replicate 7 Turn.next ++ command 12 0 ++ command 55 rca ++
    [Turn.sync ⟨51, 0, 0⟩, Turn.next, Turn.answer]

def blank : Image.Made := ⟨1, fun _ => Vector.replicate _ 0, []⟩

theorem sync_leaves_iff_lateEnd :
    let h := run blank {} lateEnd
    h.posts = [.scr, .idle, .scr] ∧ h.card.data.finished.number = 1 ∧
      ∀ request, (h.turn (.sync request)).card.commands.state ≠ .transfer := by
  intro h
  have few : h.posts.length ≤ 2 ^ 28 - 1 := by decide +kernel
  have free : h.request = none := by decide +kernel
  have sending : h.card.commands.state = .sendingData := by decide +kernel
  have unsettled : ¬(h.handed.count h.posts.length =
      (jobAt h.posts h.posts.length).length (Image.Store.sectorCount blank) ∨
        h.posts.length ∈ h.failed) := by decide +kernel
  refine ⟨by decide +kernel, by decide +kernel, fun request => ?_⟩
  exact mt (sync_leaves_iff blank {} lateEnd few free sending request).1 unsettled

end Handshake
end SdBridge.Card
