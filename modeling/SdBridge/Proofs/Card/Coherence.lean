import SdBridge.Proofs.Card.Staging

/-!
The posted word and the ticket at hand, against the jobs posted so far. Generations count the posts
until the 28 bits run out, so that a ticket names one post: the data half is at the last one or at
an earlier one, and a job that is cancelled and posted again is still told apart.
-/
namespace SdBridge.Card

/-- The number of the post that a ticket comes from. Zero is the ticket that nobody posted. -/
def Ticket.number (t : Ticket) : Nat := t.generation.toNat

@[simp] theorem Ticket.number_idle : Ticket.idle.number = 0 := by decide

def jobAt (posts : List Job) (number : Nat) : Job := (.idle :: posts).getD number .idle

theorem jobAt_append_of_le {posts more : List Job} {number : Nat} (old : number ≤ posts.length) :
    jobAt (posts ++ more) number = jobAt posts number := by
  simp only [jobAt, ← List.cons_append]
  rw [List.getD_eq_getElem?_getD, List.getD_eq_getElem?_getD,
    List.getElem?_append_left (by simpa using Nat.lt_succ_of_le old)]

@[simp] theorem jobAt_length_append (posts : List Job) (job : Job) :
    jobAt (posts ++ [job]) (posts.length + 1) = job := by
  simp [jobAt]

namespace Commands

/-- The posts once a command was answered. A post shows by another word, since it takes another
generation. -/
def postsAfter (posts : List Job) (request : Request) (c c' : Commands) : List Job :=
  if c'.posted = c.posted then posts else posts ++ [jobOf (c.readsAsApp request) c.wideBus request]

section Sync

variable (finished : Ticket) (c : Commands)

@[simp] theorem sync_posted : (c.sync finished).posted = c.posted := by
  simp only [sync]
  split <;> rfl

@[simp] theorem sync_generation : (c.sync finished).generation = c.generation := by
  simp only [sync]
  split <;> rfl

@[simp] theorem sync_sectors : (c.sync finished).sectors = c.sectors := by
  simp only [sync]
  split <;> rfl

@[simp] theorem sync_wideBus : (c.sync finished).wideBus = c.wideBus := by
  simp only [sync]
  split <;> rfl

@[simp] theorem sync_status : (c.sync finished).status = c.status := by
  simp only [sync]
  split <;> rfl

@[simp] theorem sync_readsAsApp (request : Request) :
    (c.sync finished).readsAsApp request = c.readsAsApp request := by
  simp only [sync]
  split <;> rfl

theorem sync_sendingData (sending : (c.sync finished).state = .sendingData) :
    c.state = .sendingData := by
  simp only [sync] at sending
  split at sending
  · contradiction
  · exact sending

end Sync

structure Numbered (posts : List Job) (sectors : UInt64) (c : Commands) : Prop where
  image : c.sectors = sectors
  generation : c.generation.toNat = posts.length
  number : c.posted.number = posts.length
  job : c.posted.job = jobAt posts posts.length
  inRange : c.posted.job.InRange sectors
  sending : c.state = .sendingData → c.posted.job ≠ .idle

variable {posts : List Job} {sectors : UInt64} {c c' : Commands} {request : Request}

theorem numbered_ofImage (identity : Identity) :
    Numbered [] sectors (.ofImage sectors identity) where
  image := rfl
  generation := rfl
  number := Ticket.number_idle
  job := Ticket.job_idle
  inRange := by
    rw [show (ofImage sectors identity).posted = .idle from rfl, Ticket.job_idle]
    trivial
  sending := nofun

theorem Numbered.sync (numbered : Numbered posts sectors c) (finished : Ticket) :
    Numbered posts sectors (c.sync finished) where
  image := by simpa using numbered.image
  generation := by simpa using numbered.generation
  number := by simpa using numbered.number
  job := by simpa using numbered.job
  inRange := by simpa using numbered.inRange
  sending sending := by simpa using numbered.sending (sync_sendingData finished c sending)

/-- A post is seen: it takes the next number, and the word changes. -/
theorem Numbered.answer {result : Except (Failure ProtocolError) Reply}
    (numbered : Numbered posts sectors c) (answer : c.answer request = (result, c'))
    (few : (postsAfter posts request c c').length < 2 ^ 28) :
    Numbered (postsAfter posts request c c') sectors c' ∧
      (c'.posted = c.posted ∧ postsAfter posts request c c' = posts ∨
        c'.posted.number = posts.length + 1 ∧
          postsAfter posts request c c' =
            posts ++ [jobOf (c.readsAsApp request) c.wideBus request]) := by
  have effect := effect_of_answer answer
  have same := effect.sectors.trans numbered.image
  cases effect.posting with
  | nothing posted generation state =>
    have kept : postsAfter posts request c c' = posts := by simp [postsAfter, posted]
    rw [kept]
    exact ⟨⟨same, generation ▸ numbered.generation, posted ▸ numbered.number,
      posted ▸ numbered.job, posted ▸ numbered.inRange,
      fun sending => posted ▸ numbered.sending (state sending)⟩, .inl ⟨posted, rfl⟩⟩
  | posts posted generation fits inRange state =>
    have bound : c.generation.toNat < 2 ^ 28 := by
      rw [numbered.generation]
      refine Nat.lt_of_le_of_lt ?_ few
      simp only [postsAfter]
      split <;> simp
    have ticket : c'.posted.number = c'.generation.toNat := by
      rw [posted, Ticket.number, Ticket.toNat_generation_pack _ _ fits, generation,
        Nat.mod_eq_of_lt (toNat_nextGeneration_lt _)]
    have changed : c'.posted ≠ c.posted := by
      intro same
      refine nextGeneration_ne bound ?_
      rw [← generation, ← ticket, same, numbered.number, numbered.generation]
    have grown : postsAfter posts request c c' =
        posts ++ [jobOf (c.readsAsApp request) c.wideBus request] := by
      simp [postsAfter, changed]
    rw [grown] at few ⊢
    have next : c'.generation.toNat = posts.length + 1 := by
      rw [generation, toNat_nextGeneration_of_lt, numbered.generation]
      simp only [List.length_append, List.length_singleton] at few
      rw [numbered.generation]
      omega
    have job : c'.posted.job = jobOf (c.readsAsApp request) c.wideBus request := by
      rw [posted, Ticket.job_pack _ _ fits]
    refine ⟨⟨same, ?_, ?_, ?_, ?_, ?_⟩, .inr ⟨by rw [ticket, next], rfl⟩⟩
    · simpa using next
    · simpa [ticket] using next
    · simpa using job
    · simpa [job, ← numbered.image] using inRange
    · simpa [job] using state.1

end Commands

namespace Data

variable {β : Type} {posts more : List Job} {sectors : UInt64} {c c' : Commands} {d d' : Data β}

structure Follows (posts : List Job) (sectors : UInt64) (c : Commands) (d : Data β) : Prop where
  place : d.ticket = c.posted ∨ d.ticket.number < posts.length
  job : d.ticket.job = jobAt posts d.ticket.number
  inRange : d.job.InRange sectors

theorem Follows.number_le (follows : d.Follows posts sectors c)
    (numbered : c.Numbered posts sectors) : d.ticket.number ≤ posts.length := by
  rcases follows.place with now | earlier
  · exact Nat.le_of_eq (now ▸ numbered.number)
  · exact Nat.le_of_lt earlier

/-- The number of a ticket tells whether it is the one posted last. -/
theorem Follows.ticket_eq_iff (follows : d.Follows posts sectors c)
    (numbered : c.Numbered posts sectors) :
    d.ticket = c.posted ↔ d.ticket.number = posts.length := by
  constructor
  · intro now
    rw [now, numbered.number]
  · intro last
    rcases follows.place with now | earlier
    · exact now
    · omega

theorem follows_fresh (store : β) {identity : Identity} :
    Follows [] sectors (.ofImage sectors identity) { store } where
  place := .inl rfl
  job := by simp [jobAt]
  inRange := trivial

/-- The data half may miss a post, and then it is behind. -/
theorem Follows.answer {request : Request} {result : Except (Failure ProtocolError) Reply}
    (follows : d.Follows posts sectors c) (numbered : c.Numbered posts sectors)
    (answer : c.answer request = (result, c'))
    (few : (Commands.postsAfter posts request c c').length < 2 ^ 28) :
    d.Follows (Commands.postsAfter posts request c c') sectors c' := by
  have before := follows.number_le numbered
  rcases (numbered.answer answer few).2 with ⟨posted, kept⟩ | ⟨_, grown⟩
  · rw [kept]
    exact ⟨posted ▸ follows.place, follows.job, follows.inRange⟩
  · rw [grown]
    refine ⟨.inr ?_, ?_, follows.inRange⟩
    · simpa using Nat.lt_succ_of_le before
    · rw [jobAt_append_of_le before, follows.job]

theorem Follows.sync (follows : d.Follows posts sectors c) (finished : Ticket) :
    d.Follows posts sectors (c.sync finished) :=
  ⟨by simpa using follows.place, follows.job, follows.inRange⟩

/-- Looking at the posted word brings the data half to the post made last. -/
theorem Follows.follow (follows : d.Follows posts sectors c) (numbered : c.Numbered posts sectors) :
    (d.follow c.posted).Follows posts sectors c where
  place := .inl (follow_ticket c.posted d)
  job := by rw [follow_ticket, numbered.number, numbered.job]
  inRange := follow_inRange follows.inRange numbered.inRange

/-- Nothing but the ticket and the range of the job matters here. -/
theorem Follows.congr (follows : d.Follows posts sectors c) (ticket : d'.ticket = d.ticket)
    (inRange : d'.job.InRange sectors) : d'.Follows posts sectors c :=
  ⟨ticket ▸ follows.place, ticket ▸ follows.job, inRange⟩

end Data

/-- Both halves of a card agree on the jobs posted so far. -/
structure Coherent {β : Type} (posts : List Job) (sectors : UInt64) (card : Card β) : Prop where
  numbered : card.commands.Numbered posts sectors
  follows : card.data.Follows posts sectors card.commands

variable {β : Type} {posts : List Job} {sectors : UInt64} {card : Card β}

theorem coherent_ofImage [Image.Store β] (image : β) (identity : Identity) :
    Coherent [] (Image.Store.sectorCount image) (ofImage image identity) :=
  ⟨Commands.numbered_ofImage identity, Data.follows_fresh image⟩

theorem Coherent.dispatch (coherent : Coherent posts sectors card) (request : Request)
    (response : Response)
    (few : (Commands.postsAfter posts request card.commands
      (card.dispatch request response).state.commands).length < 2 ^ 28) :
    Coherent (Commands.postsAfter posts request card.commands
      (card.dispatch request response).state.commands) sectors
      (card.dispatch request response).state := by
  rw [dispatch_state] at few ⊢
  have synced (c' : Commands) : Commands.postsAfter posts request card.commands c' =
      Commands.postsAfter posts request (card.commands.sync card.data.finished) c' := by
    simp [Commands.postsAfter]
  rw [synced] at few ⊢
  have numbered := coherent.numbered.sync card.data.finished
  exact ⟨(numbered.answer rfl few).1,
    (coherent.follows.sync card.data.finished).answer numbered rfl few⟩

/-- The bytes still to hand out for the job posted last, by a data half that has looked. -/
def owed (contents : Image.Contents) (card : Card β) : List UInt8 :=
  (card.data.follow card.commands.posted).rest contents

theorem owed_of_ticket {contents : Image.Contents} (now : card.data.ticket = card.commands.posted) :
    card.owed contents = card.data.rest contents := by
  rw [owed, ← now, Data.follow_self]

/-- A data half that has yet to see the job posted last owes all of it. -/
theorem owed_of_behind {contents : Image.Contents}
    (behind : card.commands.posted ≠ card.data.ticket) :
    card.owed contents = card.commands.posted.job.bytes contents := by
  obtain ⟨unread, job⟩ := Data.follow_new behind
  rw [owed, Data.rest, unread, job, List.nil_append]

variable {contents : Image.Contents}

/-- With an image that shows its contents, asking for a byte leaves the bytes to come alone. The
answer tells whether there are any. -/
theorem Coherent.dataReady [Image.Store β] (coherent : Coherent posts contents.sectors card)
    (shown : contents.ShownBy card.data.store) :
    ∃ after log, card.dataReady =
        ⟨.ok (decide (card.owed contents ≠ [])), { card with data := after }, log⟩ ∧
      after.rest contents = card.owed contents ∧ (card.owed contents ≠ [] → after.unread ≠ []) ∧
      after.ticket = card.commands.posted ∧ contents.ShownBy after.store ∧
      Coherent posts contents.sectors { card with data := after } := by
  have follows := coherent.follows.follow coherent.numbered
  obtain ⟨after, log, prepare, rest, front, ticket, still, inRange⟩ :=
    Data.prepare_shown (d := card.data.follow card.commands.posted) (by simpa using shown)
      follows.inRange
  refine ⟨after, log, ?_, rest, front, by simpa using ticket, still, coherent.numbered,
    follows.congr ticket inRange⟩
  simp only [Card.dataReady, Data.ready, prepare]
  rfl

/-- A byte at hand is the first of those to come. -/
theorem Coherent.nextByte (coherent : Coherent posts contents.sectors card)
    (front : card.data.unread ≠ []) :
    ∃ byte after, card.nextByte = ⟨.ok byte, { card with data := after }, []⟩ ∧
      card.data.rest contents = byte :: after.rest contents ∧
      after.ticket = card.data.ticket ∧ after.store = card.data.store ∧
      Coherent posts contents.sectors { card with data := after } := by
  obtain ⟨byte, more, unread⟩ := List.exists_cons_of_ne_nil front
  obtain ⟨after, next, left, job, ticket, store, _⟩ := Data.next_of_unread unread
  refine ⟨byte, after, ?_, ?_, ticket, store, coherent.numbered,
    coherent.follows.congr ticket (job ▸ coherent.follows.inRange)⟩
  · simp only [Card.nextByte, next]
  · simp [Data.rest, unread, left, job]

end SdBridge.Card
