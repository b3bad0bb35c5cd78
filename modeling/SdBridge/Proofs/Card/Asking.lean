import SdBridge.Proofs.Card.Staging

/-!
How the data half answers whether a byte can be taken, on any image: reads may fail or fault, and
jobs may start beyond the last sector.
-/
namespace SdBridge.Card.Data

variable {β : Type} {posted : Ticket} {d after : Data β}

theorem length_unread_le (d : Data β) : d.unread.length ≤ Image.sectorSize := by
  rw [length_unread]
  exact (Nat.sub_le ..).trans d.size_le

/-- Bytes wait only for a ticket that was seen before. -/
theorem follow_of_waiting (some : (d.follow posted).unread ≠ []) :
    posted = d.ticket ∧ d.follow posted = d := by
  by_cases now : posted = d.ticket
  · exact ⟨now, by rw [now, follow_self]⟩
  · exact absurd (follow_new now).1 some

structure Loaded (d after : Data β) : Prop where
  busy : d.job ≠ .idle
  ticket : after.ticket = d.ticket
  some : after.unread ≠ []
  whole : ∀ lba, d.job.sector? = .some lba → after.unread.length = Image.sectorSize
  next : after.job = .idle ∨ ∃ lba, d.job = .readBlocks lba ∧ after.job = .readBlocks (lba + 1)

theorem Loaded.whole_or_last (loaded : Loaded d after) :
    after.unread.length = Image.sectorSize ∨ after.job = .idle := by
  rcases loaded.next with last | ⟨lba, job, -⟩
  · exact .inr last
  · exact .inl (loaded.whole lba (by rw [job]; rfl))

/-- The four ways to answer: a byte waits, a block was staged, there is nothing more, or a fault. -/
inductive Asked (d : Data β) : Except Fault Bool → Data β → Prop where
  | waiting (some : d.unread ≠ []) : Asked d (.ok true) d
  | loaded {after : Data β} (none : d.unread = []) (loaded : Loaded d after) :
      Asked d (.ok true) after
  | dry {after : Data β} (none : d.unread = []) (unread : after.unread = [])
      (job : after.job = .idle) (ticket : after.ticket = d.ticket) : Asked d (.ok false) after
  | faulted {after : Data β} (fault : Fault) : Asked d (.error fault) after

theorem asked_short {n : Nat} (bytes : Vector UInt8 n) (fits : n ≤ Image.sectorSize)
    (some : 0 < n) (none : d.unread = []) (busy : d.job ≠ .idle) (starts : d.job.sector? = .none) :
    Asked d (.ok true) (d.stage bytes fits) := by
  have unread := unread_stage bytes fits d
  refine .loaded none ⟨busy, rfl, ?_, ?_, .inl rfl⟩
  · intro empty
    rw [unread] at empty
    have length := bytes.length_toList
    rw [empty, List.length_nil] at length
    omega
  · intro lba sector
    rw [starts] at sector
    cases sector

/-- After a sector comes the next one, or the job is over. -/
theorem next_of_remaining {job next : Job} {lba sectors : UInt64} (starts : job.sector? = some lba)
    (remaining : remaining job lba sectors = .ok next) :
    next = .idle ∨ job = .readBlocks lba ∧ next = .readBlocks (lba + 1) := by
  cases job <;> cases starts
  · cases remaining
    exact .inl rfl
  · simp only [Data.remaining, checkedAdd] at remaining
    split at remaining
    · cases remaining
      split
      · exact .inr ⟨rfl, rfl⟩
      · exact .inl rfl
    · cases remaining

variable [Image.Store β]

theorem asked_loadSector {lba : UInt64} (none : d.unread = []) (starts : d.job.sector? = some lba) :
    Asked d (d.loadSector lba).answer (d.loadSector lba).state := by
  have spent := (unread_eq_nil_iff d).1 none
  have busy : d.job ≠ .idle := by
    intro idle
    rw [idle] at starts
    cases starts
  simp only [loadSector]
  split
  · exact .faulted _
  · exact .dry none ((unread_eq_nil_iff _).2 spent) rfl rfl
  · split
    · exact .faulted _
    · rename_i next left
      refine .loaded none ⟨busy, rfl, ?_, fun _ _ => length_unread _, ?_⟩
      · rw [Ne, unread_eq_nil_iff]
        exact Nat.not_le.2 (Nat.zero_lt_succ _)
      · rcases next_of_remaining starts left with last | ⟨job, next⟩
        · exact .inl last
        · exact .inr ⟨lba, job, next⟩

theorem asked_prepare (d : Data β) : Asked d d.prepare.answer d.prepare.state := by
  simp only [prepare]
  split
  · rename_i some
    refine .waiting ?_
    rw [Ne, unread_eq_nil_iff]
    omega
  · rename_i spent
    have none := (unread_eq_nil_iff d).2 (Nat.not_lt.1 spent)
    simp only [load]
    split
    · rename_i job
      exact .dry none none job rfl
    · rename_i lba job
      exact asked_loadSector none (by rw [job]; rfl)
    · rename_i lba job
      exact asked_loadSector none (by rw [job]; rfl)
    · rename_i wideBus job
      exact asked_short (sdStatus wideBus) (by decide) (by decide) none (by simp [job])
        (by rw [job]; rfl)
    · rename_i job
      exact asked_short scr (by decide) (by decide) none (by simp [job]) (by rw [job]; rfl)

end SdBridge.Card.Data
