import SdBridge.Proofs.Card.Coherence
import SdBridge.Proofs.Image.Reliable

/-!
A card over an image that can be read without faults. The argument of a command is a word of 32 bits
and the sectors are counted by one of 64, so that neither a ticket nor a size nor the next sector
leaves its range.
-/
namespace SdBridge.Card

namespace Commands

variable {request : Request} {c : Commands}

theorem not_rejects_fault (counted : c.sectors.toNat * Image.sectorSize < UInt64.size)
    (fault : Fault) : ¬Rejects request c (.fault fault) := by
  intro rejects
  cases rejects with
  | uncounted _ _ _ large => exact large counted

/-- No command is met by a fault. -/
theorem answer_answers (request : Request)
    (counted : c.sectors.toNat * Image.sectorSize < UInt64.size) (fault : Fault) :
    (c.answer request).1 ≠ .error (.fault fault) := by
  intro faulted
  have answered := answered request c
  rw [faulted] at answered
  generalize (c.answer request).2 = c' at answered
  cases answered with
  | faulted rejects =>
    rw [RejectsAs] at rejects
    split at rejects
    · cases rejects with
      | plain _ rejects => exact not_rejects_fault (c := c.prepared) counted fault rejects
    · exact not_rejects_fault (c := c.prepared) counted fault rejects

end Commands

variable {β : Type} [Image.Store β] {card : Card β}

structure Sturdy (card : Card β) : Prop where
  reliable : Image.Reliable card.data.store
  sectors : Image.Store.sectorCount card.data.store = card.commands.sectors
  posted : card.commands.posted.job.InRange card.commands.sectors
  job : card.data.job.InRange card.commands.sectors

theorem sturdy_ofImage {image : β} (reliable : Image.Reliable image) (identity : Identity) :
    Sturdy (ofImage image identity) := by
  refine ⟨reliable, rfl, ?_, trivial⟩
  rw [show (ofImage image identity).commands.posted = Ticket.idle from rfl, Ticket.job_idle]
  trivial

theorem Sturdy.counted (sturdy : Sturdy card) :
    card.commands.sectors.toNat * Image.sectorSize < UInt64.size :=
  sturdy.sectors ▸ sturdy.reliable.counted

theorem Sturdy.answers_dispatch (sturdy : Sturdy card) (request : Request) (response : Response)
    (fault : Fault) : (card.dispatch request response).result ≠ .error (.fault fault) := by
  have counted : (card.commands.sync card.data.finished).sectors.toNat * Image.sectorSize <
      UInt64.size := by
    rw [Commands.sync_sectors]
    exact sturdy.counted
  have answers := Commands.answer_answers request counted fault
  rcases answer : (card.commands.sync card.data.finished).answer request with
    ⟨failure | reply, commands⟩
  · rw [dispatch_of_failure answer]
    rw [answer] at answers
    rintro ⟨⟩
    exact answers rfl
  · rw [dispatch_of_answer answer]
    simp

theorem Sturdy.dispatch (sturdy : Sturdy card) (request : Request) (response : Response) :
    Sturdy (card.dispatch request response).state := by
  rw [dispatch_state, Commands.dispatch]
  rcases answered : (card.commands.sync card.data.finished).answer request with ⟨result, c⟩
  have effect := Commands.effect_of_answer answered
  have sectors : c.sectors = card.commands.sectors := by
    rw [effect.sectors, Commands.sync_sectors]
  refine ⟨sturdy.reliable, sturdy.sectors.trans sectors.symm, ?_, sectors ▸ sturdy.job⟩
  dsimp only
  cases effect.posting with
  | nothing posted =>
    rw [posted, Commands.sync_posted, sectors]
    exact sturdy.posted
  | posts posted _ fits inRange =>
    rw [posted, Ticket.job_pack _ _ fits, effect.sectors]
    exact inRange

theorem Sturdy.dataReady (sturdy : Sturdy card) :
    (∃ more, card.dataReady.answer = .ok more) ∧ Sturdy card.dataReady.state := by
  have store := Data.follow_store (d := card.data) card.commands.posted
  have job := Data.follow_inRange sturdy.job sturdy.posted
  have prepared := Data.prepared_prepare job
  have still (lba : UInt64) (block : Image.Sector) :
      (Image.Store.read lba block (card.data.follow card.commands.posted).store).store =
        card.data.store := by
    rw [store]
    exact sturdy.reliable.still lba block
  have kept {d : Card.Data β} (same : d.store = card.data.store)
      (inRange : d.job.InRange card.commands.sectors) : Sturdy { card with data := d } :=
    ⟨same ▸ sturdy.reliable, same ▸ sturdy.sectors, sturdy.posted, inRange⟩
  simp only [Card.dataReady, Data.ready]
  generalize (card.data.follow card.commands.posted).prepare = served at prepared ⊢
  cases prepared with
  | waiting => exact ⟨⟨true, rfl⟩, kept store job⟩
  | spent => exact ⟨⟨false, rfl⟩, kept store job⟩
  | short _ _ after idle _ _ _ _ same =>
    exact ⟨⟨true, rfl⟩, kept (same.trans store) (by rw [idle]; trivial)⟩
  | sector _ lba starts after _ _ same next =>
    have counts : Image.Store.sectorCount after.store = card.commands.sectors := by
      rw [same, still]
      exact sturdy.sectors
    refine ⟨⟨true, rfl⟩, kept (same.trans (still lba _)) ?_⟩
    rw [next, counts]
    exact Job.inRange_next starts _
  | failed _ lba starts after error _ same idle =>
    exact ⟨⟨false, rfl⟩, kept (same.trans (still lba _)) (by rw [idle]; trivial)⟩
  | faulted _ lba starts after fault read =>
    rw [store] at read
    exact absurd read (sturdy.reliable.answers lba _ fault)

theorem Sturdy.nextByte (sturdy : Sturdy card) : Sturdy card.nextByte.state := by
  simp only [Card.nextByte]
  by_cases front : card.data.unread = []
  · rw [Data.next_of_none front]
    exact sturdy
  · obtain ⟨byte, more, unread⟩ := List.exists_cons_of_ne_nil front
    obtain ⟨after, next, -, job, -, store, -⟩ := Data.next_of_unread unread
    rw [next]
    exact ⟨store ▸ sturdy.reliable, store ▸ sturdy.sectors, sturdy.posted, job ▸ sturdy.job⟩

theorem Sturdy.takeBlockRequest (sturdy : Sturdy card) : Sturdy card.takeBlockRequest.2 :=
  ⟨sturdy.reliable, sturdy.sectors, sturdy.posted, sturdy.job⟩

end SdBridge.Card
