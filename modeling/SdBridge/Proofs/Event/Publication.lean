import SdBridge.Proofs.Event.Producer

/-!
A publication with nobody else at work. Whatever is in the slots and wherever the consumer is, it
gives the record the next number and moves the head. It fails only when the numbers are used up.
-/
namespace SdBridge.Event.Ring

namespace Shared

def stored (s : Shared) (entries : List (Cell × UInt64)) : Shared :=
  entries.foldl (fun s entry => s.store entry.1 entry.2) s

/-- The stores of a publication that come before its number is known to exist. -/
def begun (s : Shared) (slot : Nat) (record : Record) : Shared :=
  (s.store (.seq slot) Slot.busy).stored (words slot record)

/-- The stores of a whole publication. -/
def published (s : Shared) (slot : Nat) (record : Record) (next : UInt64) : Shared :=
  ((s.begun slot record).store (.seq slot) next).store .head next

theorem tail_stored {i : Nat} {entries : List (Cell × UInt64)}
    (places : ∀ entry ∈ entries, entry.1.slot? = some i) (s : Shared) :
    (s.stored entries).tail = s.tail := by
  induction entries generalizing s with
  | nil => rfl
  | cons entry rest ih =>
    have here := cursors_store (places entry List.mem_cons_self) s entry.2
    exact (ih (fun entry found => places entry (List.mem_cons_of_mem _ found)) _).trans here.2

/-- Words stored one after the other, none of them twice, all read as stored. -/
theorem Shows.stored {s : Shared} {shown entries : List (Cell × UInt64)} (shows : s.Shows shown)
    (inside : ∀ entry ∈ entries, ∀ i, entry.1.slot? = some i → i < s.slots.size)
    (nodup : ((shown ++ entries).map Prod.fst).Nodup) :
    (s.stored entries).Shows (shown ++ entries) := by
  induction entries generalizing s shown with
  | nil =>
    rw [List.append_nil]
    exact shows
  | cons entry rest ih =>
    obtain ⟨cell, value⟩ := entry
    obtain ⟨here, others⟩ := List.forall_mem_cons.1 inside
    have kept := shows.store value here (ne_of_nodup nodup)
    have all := ih kept (fun entry found i place => by
      rw [size_store]
      exact others entry found i place) (by simpa using nodup)
    rwa [List.append_assoc, List.singleton_append] at all

/-- The tail is the consumer's. -/
theorem tail_published (s : Shared) (slot : Nat) (record : Record) (next : UInt64) :
    (s.published slot record next).tail = s.tail := by
  have seq (s : Shared) (value : UInt64) : (s.store (.seq slot) value).tail = s.tail := rfl
  have head (s : Shared) : (s.store .head next).tail = s.tail := rfl
  rw [published, head, seq, begun, tail_stored fun _ found => (slot_of_words found).1, seq]

end Shared

theorem run_storeAll (entries : List (Cell × UInt64)) (s : Shared) :
    (storeAll entries).run Shared.perform s = (.ok (), s.stored entries) := by
  induction entries generalizing s with
  | nil => rfl
  | cons entry rest ih => exact ih (s.store entry.1 entry.2)

section Publication

variable (capacity : Nat) {cursor : UInt64} (record : Record) (s : Shared)

theorem run_publication (room : cursor.toNat + 1 < 2 ^ 64) :
    (publication capacity cursor record).run Shared.perform s =
      (.ok (cursor + 1), s.published (slotOf capacity cursor) record (cursor + 1)) := by
  have fits : cursor.toNat + (1 : UInt64).toNat < UInt64.size := room
  have words := run_storeAll (words (slotOf capacity cursor) record)
    (s.store (.seq (slotOf capacity cursor)) Slot.busy)
  simp only [publication, storeRecord_eq, checkedAdd_eq_ok fits, Program.run_bind, store,
    Program.run_access, Shared.perform, words, Program.run_ofExcept, Program.run_pure]
  rfl

/-- The last number of all is not given to a record, because none follows it. -/
theorem run_publication_full (full : 2 ^ 64 ≤ cursor.toNat + 1) :
    (publication capacity cursor record).run Shared.perform s =
      (.error (.overflow .add), s.begun (slotOf capacity cursor) record) := by
  have overflows : checkedAdd cursor 1 = .error (.overflow .add) := if_neg (Nat.not_lt.2 full)
  have words := run_storeAll (words (slotOf capacity cursor) record)
    (s.store (.seq (slotOf capacity cursor)) Slot.busy)
  simp only [publication, storeRecord_eq, overflows, Program.run_bind, store, Program.run_access,
    Shared.perform, words, Program.run_ofExcept]
  rfl

end Publication

theorem publish_eq_ok {r : Ring} (room : r.head.toNat + 1 < 2 ^ 64) (record : Record) :
    r.publish record = (.ok (), { r with
      shared := r.shared.published (slotOf r.capacity r.head) record (r.head + 1)
      head := r.head + 1 }) := by
  rw [publish, run_publication _ _ _ room]

theorem publish_eq_error {r : Ring} (full : 2 ^ 64 ≤ r.head.toNat + 1) (record : Record) :
    r.publish record = (.error (.overflow .add), { r with
      shared := r.shared.begun (slotOf r.capacity r.head) record }) := by
  rw [publish, run_publication_full _ _ _ full]

section Writing

open World

variable {capacity n begun : Nat} {records : List Record} (pos : 0 < capacity)

include pos

/-- The slot that is being written takes words. -/
theorem World.Writing.stored {s : Shared} {entries : List (Cell × UInt64)}
    (writing : Writing capacity records n ⟨s, begun⟩)
    (places : ∀ entry ∈ entries, entry.1.slot? = some (n % capacity) ∧ ∀ i, entry.1 ≠ .seq i) :
    Writing capacity records n ⟨s.stored entries, begun⟩ := by
  induction entries generalizing s with
  | nil => exact writing
  | cons entry entries ih =>
    obtain ⟨place, word⟩ := places entry List.mem_cons_self
    have next := writing.store pos entry.2 place fun i same => absurd same (word i)
    exact ih next fun entry found => places entry (List.mem_cons_of_mem _ found)

/-- A whole publication into a ring in order leaves it in order, with one more record to read. -/
theorem World.Sound.published {s : Shared} {record : Record} {next : UInt64}
    (sound : Sound capacity records ⟨s, n⟩) (head : s.head.toNat = n)
    (listed : records[n]? = some record) (few : records.length < 2 ^ 64)
    (number : next.toNat = n + 1) :
    Sound capacity records ⟨s.published (n % capacity) record next, n + 1⟩ := by
  have more : n < records.length := (List.getElem?_eq_some_iff.1 listed).1
  have writing := writing_begin pos sound few head rfl more
  have nothing : (s.store (.seq (n % capacity)) Slot.busy).Shows [] := by simp [Shared.Shows]
  have places : ∀ entry ∈ words (n % capacity) record,
      entry.1.slot? = some (n % capacity) ∧ ∀ i, entry.1 ≠ .seq i := fun _ => slot_of_words
  have shows := nothing.stored (fun entry found => writing.inside pos (places entry found).1)
    (nodup_words _ record)
  have writing := writing.stored pos places
  have place : (Cell.seq (n % capacity)).slot? = some (n % capacity) := rfl
  have numbered := writing.store pos next place fun _ _ => number
  have inside := writing.inside pos place
  refine numbered.finish pos number listed ?_ fun entry found => ?_
  · rw [Shared.load_store _ _ inside, if_pos rfl]
  · rw [Shared.load_store _ _ inside, if_neg ((slot_of_words found).2 _)]
    exact shows entry found

end Writing

end SdBridge.Event.Ring
