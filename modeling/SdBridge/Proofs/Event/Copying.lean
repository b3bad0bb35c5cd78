import SdBridge.Proofs.Event.Queue

/-!
A record put into a slot and copied out again, with nobody else at work. Whatever was in the slot
before, nothing of it is left in the words of the record, and no other word is touched.
-/
namespace SdBridge.Event.Ring

namespace Shared

variable {s : Shared} {entries : List (Cell × UInt64)}

theorem load_stored_of_not_mem {cell : Cell} (other : cell ∉ entries.map Prod.fst)
    (inside : ∀ entry ∈ entries, ∀ i, entry.1.slot? = some i → i < s.slots.size) :
    (s.stored entries).load cell = s.load cell := by
  induction entries generalizing s with
  | nil => rfl
  | cons entry rest ih =>
    obtain ⟨here, others⟩ := List.forall_mem_cons.1 inside
    rw [List.map_cons, List.mem_cons, not_or] at other
    have later := ih (s := s.store entry.1 entry.2) other.2 fun entry found i place => by
      rw [size_store]
      exact others entry found i place
    exact later.trans ((load_store s entry.2 here cell).trans (if_neg other.1))

end Shared

/-- A record stored in a slot is read back whole, and nothing but its words changes. -/
theorem record_kept {s : Shared} {slot : Nat} (inside : slot < s.slots.size) (kind : Kind)
    (text : String) (extra timestamp : UInt64) :
    let record := Record.of kind text extra timestamp
    ∃ stored : Shared,
      (storeRecord slot record).run Shared.perform s = (.ok (), stored) ∧
      (loadRecord slot).run Shared.perform stored = (.ok record, stored) ∧
      ∀ cell : Cell,
        cell.slot? ≠ some slot ∨ cell = .seq slot → stored.load cell = s.load cell := by
  intro record
  have places : ∀ entry ∈ words slot record, ∀ i, entry.1.slot? = some i → i < s.slots.size := by
    intro entry found i place
    rw [(slot_of_words found).1] at place
    cases place
    exact inside
  have nothing : s.Shows [] := by simp [Shared.Shows]
  have shows : (s.stored (words slot record)).Shows (words slot record) :=
    nothing.stored places (nodup_words slot record)
  refine ⟨s.stored (words slot record), ?_, run_loadRecord fun entry found => ?_,
    fun cell other => ?_⟩
  · rw [storeRecord_eq, run_storeAll]
  · exact shows entry (mem_words_of_loaded found)
  · refine Shared.load_stored_of_not_mem (fun among => ?_) places
    obtain ⟨entry, found, rfl⟩ := List.mem_map.1 among
    obtain ⟨here, word⟩ := slot_of_words found
    rcases other with elsewhere | number
    · exact elsewhere here
    · exact word slot number

/-- Two slots, the second of which holds a text of full length. -/
def filled : Shared :=
  ((storeRecord 1 (.of .debug "0123456789012345678901234567890123456789" 7 1000)).run Shared.perform
    { slots := #[.empty, .empty] }).2

/-- A text of two characters of more than one byte takes the place of a longer one. -/
theorem record_kept_shortened :
    1 < filled.slots.size ∧ ∃ stored : Shared,
      (storeRecord 1 (.of .slowCompletion "é€" 0xffffffffffffffff 2000)).run Shared.perform filled =
        (.ok (), stored) ∧
      (loadRecord 1).run Shared.perform stored =
        (.ok (.of .slowCompletion "é€" 0xffffffffffffffff 2000), stored) := by
  have inside : 1 < filled.slots.size := by decide
  obtain ⟨stored, written, read, -⟩ :=
    record_kept inside .slowCompletion "é€" 0xffffffffffffffff 2000
  exact ⟨inside, stored, written, read⟩

end SdBridge.Event.Ring
