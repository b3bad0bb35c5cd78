import SdBridge.Event.Ring
import SdBridge.Proofs.Event.Slot
import SdBridge.Proofs.Program.Interleaving

/-!
The producer's side of the event ring. Its accesses keep the slots in order for a consumer that may
look at them at any time: a slot that shows the number of a record holds that record, unless the
producer has begun to put a later one there.
-/
namespace SdBridge.Event.Ring

def Cell.slot? : Cell → Option Nat
  | .head | .tail => none
  | .seq i | .tag i | .extra i | .timestamp i | .text i _ => some i

namespace Shared

@[simp] theorem size_store (s : Shared) (cell : Cell) (value : UInt64) :
    (s.store cell value).slots.size = s.slots.size := by
  cases cell <;> simp [store]

/-- A store into a slot leaves both cursors alone. -/
theorem cursors_store {cell : Cell} {i : Nat} (place : cell.slot? = some i) (s : Shared)
    (value : UInt64) : (s.store cell value).head = s.head ∧ (s.store cell value).tail = s.tail := by
  cases cell with
  | head | tail => cases place
  | _ => exact ⟨rfl, rfl⟩

theorem slot_modify {slots : Array Slot} {i : Nat} (inside : i < slots.size) (change : Slot → Slot)
    (j : Nat) : (slots.modify i change)[j]?.getD .empty =
      if j = i then change (slots[j]?.getD .empty) else slots[j]?.getD .empty := by
  rw [Array.getElem?_modify]
  by_cases same : i = j
  · subst same
    simp [inside]
  · simp [same, Ne.symm same]

/-- A word reads as it was stored last. -/
theorem load_store (s : Shared) {cell : Cell} (value : UInt64)
    (inside : ∀ i, cell.slot? = some i → i < s.slots.size) (other : Cell) :
    (s.store cell value).load other = if other = cell then value else s.load other := by
  cases cell
  case head | tail => cases other <;> simp [store, load, slot]
  case text i word =>
    have inside := inside i rfl
    cases other
    case text j other =>
      simp only [store, load, slot, slot_modify inside, Cell.text.injEq]
      by_cases same : j = i
      · simp [same, Vector.getElem_set, Fin.ext_iff, eq_comm]
      · simp [same]
    all_goals
      simp only [store, load, slot, slot_modify inside, reduceCtorEq, if_false]
      try split <;> rfl
  all_goals
    rename_i i
    have inside := inside i rfl
    cases other
    all_goals
      simp only [store, load, slot, slot_modify inside, Cell.seq.injEq, Cell.tag.injEq,
        Cell.extra.injEq, Cell.timestamp.injEq, reduceCtorEq, if_false]
      try split <;> rfl

def Shows (entries : List (Cell × UInt64)) (s : Shared) : Prop :=
  ∀ entry ∈ entries, s.load entry.1 = entry.2

/-- A store keeps the other words, and shows its own. -/
theorem Shows.store {entries : List (Cell × UInt64)} {s : Shared} (shown : s.Shows entries)
    {cell : Cell} (value : UInt64) (inside : ∀ i, cell.slot? = some i → i < s.slots.size)
    (other : ∀ entry ∈ entries, entry.1 ≠ cell) :
    (s.store cell value).Shows (entries ++ [(cell, value)]) := by
  intro entry found
  rw [load_store _ _ inside]
  rcases List.mem_append.1 found with old | new
  · rw [if_neg (other entry old)]
    exact shown entry old
  · rw [List.mem_singleton.1 new, if_pos rfl]

theorem load_of_slots_eq {s s' : Shared} (same : s'.slots = s.slots) {cell : Cell} {i : Nat}
    (inside : cell.slot? = some i) : s'.load cell = s.load cell := by
  cases cell <;> simp_all [load, slot, Cell.slot?]

end Shared

def words (slot : Nat) (record : Record) : List (Cell × UInt64) :=
  [(.tag slot, Slot.tagOf record), (.extra slot, record.extra),
    (.timestamp slot, record.timestamp),
    (.text slot 0, Slot.textWord record.payload 0), (.text slot 1, Slot.textWord record.payload 1),
    (.text slot 2, Slot.textWord record.payload 2), (.text slot 3, Slot.textWord record.payload 3),
    (.text slot 4, Slot.textWord record.payload 4)]

theorem slot_of_words {slot : Nat} {record : Record} {entry : Cell × UInt64}
    (found : entry ∈ words slot record) : entry.1.slot? = some slot ∧ ∀ i, entry.1 ≠ .seq i := by
  simp only [words, List.mem_cons, List.not_mem_nil, or_false] at found
  rcases found with rfl | rfl | rfl | rfl | rfl | rfl | rfl | rfl <;> simp [Cell.slot?]

theorem nodup_words (slot : Nat) (record : Record) :
    ((words slot record).map Prod.fst).Nodup := by
  simp [words, textWords]

theorem ne_of_nodup {stored entries : List (Cell × UInt64)} {cell : Cell} {value : UInt64}
    (nodup : ((stored ++ (cell, value) :: entries).map Prod.fst).Nodup) :
    ∀ entry ∈ stored, entry.1 ≠ cell := by
  rintro entry found rfl
  simp only [List.map_append, List.nodup_append] at nodup
  exact nodup.2.2 _ (List.mem_map_of_mem found) _ (by simp) rfl

def storeAll : List (Cell × UInt64) → Run Unit
  | [] => pure ()
  | (cell, value) :: rest => do
    store cell value
    storeAll rest

theorem storeRecord_eq (slot : Nat) (record : Record) :
    storeRecord slot record = storeAll (words slot record) := rfl

/-- Publish records one after the other, the first one under the number `cursor`. -/
def publishing (capacity : Nat) : UInt64 → List Record → Run UInt64
  | cursor, [] => pure cursor
  | cursor, record :: rest => do
    let next ← publication capacity cursor record
    publishing capacity next rest

theorem size_run {α : Type} (program : Run α) (s : Shared) :
    (program.run Shared.perform s).2.slots.size = s.slots.size := by
  induction program generalizing s with
  | done a => rfl
  | fail fault => rfl
  | call access next ih =>
    cases access with
    | load cell => exact ih _ s
    | store cell value => exact (ih () (s.store cell value)).trans (Shared.size_store s cell value)

/-- With nobody else at work, this is publishing them all. -/
theorem publishAll_eq (r : Ring) (records : List Record) :
    r.publishAll records =
      match (publishing r.capacity r.head records).run Shared.perform r.shared with
      | (.ok head, shared) => .ok { r with head, shared }
      | (.error fault, _) => .error fault := by
  induction records generalizing r with
  | nil => rfl
  | cons record rest ih =>
    have size := size_run (publication r.capacity r.head record) r.shared
    simp only [publishAll, publish, publishing, Program.run_bind]
    generalize (publication r.capacity r.head record).run Shared.perform r.shared = result at size
    obtain ⟨answer, shared⟩ := result
    cases answer with
    | error fault => rfl
    | ok head =>
      simp only [ih]
      rw [show Ring.capacity { r with shared, head } = r.capacity from size]

/-- The shared words, and how many publications the producer has begun. -/
structure World where
  shared : Shared
  begun : Nat := 0

/-- Whether an access marks a slot as busy. Every publication begins with one that does. -/
def Access.begins : Access → Bool
  | .store (.seq _) value => value == Slot.busy
  | _ => false

theorem begins_of_word {cell : Cell} (word : ∀ i, cell ≠ .seq i) (value : UInt64) :
    (Access.store cell value).begins = false := by
  cases cell with
  | seq i => exact absurd rfl (word i)
  | _ => rfl

namespace World

def perform : Handler Access.Answer World := fun access w =>
  let (answer, shared) := Shared.perform access w.shared
  (answer, ⟨shared, if access.begins then w.begun + 1 else w.begun⟩)

/-- A slot shows the number of a published record exactly until a later publication into it begins,
and holds the record that long. -/
structure Sound (capacity : Nat) (records : List Record) (w : World) : Prop where
  size : w.shared.slots.size = capacity
  head_le : w.shared.head.toNat ≤ w.begun
  begun_le : w.begun ≤ records.length
  held : ∀ n < w.shared.head.toNat,
    (w.shared.load (.seq (n % capacity))).toNat = n + 1 ↔ w.begun ≤ n + capacity
  kept : ∀ n record, n < w.shared.head.toNat → records[n]? = some record →
    w.begun ≤ n + capacity → w.shared.Shows (words (n % capacity) record)

/-- What the consumer may do: it leaves everything but the tail alone. -/
structure Untouched (w w' : World) : Prop where
  slots : w'.shared.slots = w.shared.slots
  head : w'.shared.head = w.shared.head
  begun : w'.begun = w.begun

/-- What the producer may do: it goes on, and leaves the tail alone. -/
structure Ahead (capacity : Nat) (records : List Record) (w w' : World) : Prop where
  sound : w.Sound capacity records → w'.Sound capacity records
  tail : w'.shared.tail = w.shared.tail
  head : w.shared.head.toNat ≤ w'.shared.head.toNat
  begun : w.begun ≤ w'.begun

theorem Untouched.refl (w : World) : Untouched w w := ⟨rfl, rfl, rfl⟩

theorem Untouched.trans {a b c : World} (first : Untouched a b) (second : Untouched b c) :
    Untouched a c :=
  ⟨second.slots.trans first.slots, second.head.trans first.head, second.begun.trans first.begun⟩

variable {capacity : Nat} {records : List Record} {w w' : World}

theorem Ahead.refl (w : World) : Ahead capacity records w w :=
  ⟨id, rfl, Nat.le_refl _, Nat.le_refl _⟩

theorem Ahead.trans {a b c : World} (first : Ahead capacity records a b)
    (second : Ahead capacity records b c) : Ahead capacity records a c :=
  ⟨second.sound ∘ first.sound, second.tail.trans first.tail,
    Nat.le_trans first.head second.head, Nat.le_trans first.begun second.begun⟩

theorem Sound.untouched (sound : w.Sound capacity records) (same : Untouched w w') :
    w'.Sound capacity records where
  size := by rw [same.slots, sound.size]
  head_le := by rw [same.head, same.begun]; exact sound.head_le
  begun_le := by rw [same.begun]; exact sound.begun_le
  held n published := by
    rw [same.head] at published
    rw [Shared.load_of_slots_eq same.slots rfl, same.begun]
    exact sound.held n published
  kept n record published listed fresh := by
    rw [same.head] at published
    rw [same.begun] at fresh
    intro entry found
    rw [Shared.load_of_slots_eq same.slots (slot_of_words found).1]
    exact sound.kept n record published listed fresh entry found

structure Writing (capacity : Nat) (records : List Record) (n : Nat) (w : World) : Prop where
  sound : w.Sound capacity records
  head : w.shared.head.toNat = n
  begun : w.begun = n + 1

theorem Writing.untouched {n : Nat} (writing : Writing capacity records n w)
    (same : Untouched w w') : Writing capacity records n w' :=
  ⟨writing.sound.untouched same, by rw [same.head, writing.head],
    by rw [same.begun, writing.begun]⟩

/-- Numbers that share a slot are a lap apart. -/
theorem lap_of_mod_eq {m n : Nat} (before : m < n) (same : m % capacity = n % capacity) :
    m + capacity ≤ n := by
  by_contra close
  have apart : n - m < capacity := by omega
  have none : (n - m) % capacity = 0 := Nat.sub_mod_eq_zero_of_mod_eq same.symm
  rw [Nat.mod_eq_of_lt apart] at none
  omega

theorem mod_ne_of_close {m n : Nat} (before : m < n) (close : n < m + capacity) :
    m % capacity ≠ n % capacity := fun same => by
  have := lap_of_mod_eq before same
  omega

section Publication

variable {n : Nat} (pos : 0 < capacity)

include pos

/-- A publication ends: the record can be read from now on. -/
theorem Writing.finish (writing : Writing capacity records n w) {record : Record} {next : UInt64}
    (number : next.toNat = n + 1) (listed : records[n]? = some record)
    (held : w.shared.load (.seq (n % capacity)) = next)
    (kept : w.shared.Shows (words (n % capacity) record)) :
    Sound capacity records ⟨w.shared.store .head next, w.begun⟩ := by
  have begun := writing.begun
  have slots : (w.shared.store .head next).slots = w.shared.slots := rfl
  have load {cell : Cell} {i : Nat} (place : cell.slot? = some i) :
      (w.shared.store .head next).load cell = w.shared.load cell :=
    Shared.load_of_slots_eq slots place
  have head : (w.shared.store .head next).head = next := rfl
  refine ⟨writing.sound.size, ?_, writing.sound.begun_le, ?_, ?_⟩
  · simp only [head, number, begun, Nat.le_refl]
  · intro m published
    rw [load rfl]
    simp only [head, number] at published ⊢
    by_cases last : m = n
    · subst last
      rw [held, number]
      omega
    · exact writing.sound.held m (by rw [writing.head]; omega)
  · intro m old published place fresh entry found
    rw [load (slot_of_words found).1]
    simp only [head, number] at published fresh
    by_cases last : m = n
    · subst last
      rw [listed, Option.some.injEq] at place
      subst place
      exact kept entry found
    · exact writing.sound.kept m old (by rw [writing.head]; omega) place fresh entry found

theorem Writing.inside (writing : Writing capacity records n w) {cell : Cell}
    (place : cell.slot? = some (n % capacity)) :
    ∀ i, cell.slot? = some i → i < w.shared.slots.size := by
  intro i here
  rw [place, Option.some.injEq] at here
  rw [← here, writing.sound.size]
  exact Nat.mod_lt _ pos

/-- A store into the slot that is being written. -/
theorem Writing.store (writing : Writing capacity records n w) {cell : Cell} (value : UInt64)
    (place : cell.slot? = some (n % capacity))
    (number : ∀ i, cell = .seq i → value.toNat = n + 1) :
    Writing capacity records n ⟨w.shared.store cell value, w.begun⟩ := by
  have inside := writing.inside pos place
  have head : (w.shared.store cell value).head = w.shared.head :=
    (Shared.cursors_store place ..).1
  have begun := writing.begun
  refine ⟨⟨?_, ?_, writing.sound.begun_le, ?_, ?_⟩, by simp only [head, writing.head], begun⟩
  · simp only [Shared.size_store, writing.sound.size]
  · simpa only [head] using writing.sound.head_le
  · intro m published
    have earlier : m < n := by simpa only [head, writing.head] using published
    have old := writing.sound.held m (by rwa [writing.head])
    rw [Shared.load_store _ _ inside]
    by_cases same : Cell.seq (m % capacity) = cell
    · rw [if_pos same, number _ same.symm]
      rw [← same, Cell.slot?, Option.some.injEq] at place
      have := lap_of_mod_eq earlier place
      simp only
      omega
    · rw [if_neg same]
      exact old
  · intro m record published listed fresh entry found
    have earlier : m < n := by simpa only [head, writing.head] using published
    have apart : m % capacity ≠ n % capacity := mod_ne_of_close earlier (by simp only at fresh; omega)
    have other : entry.1 ≠ cell := by
      intro same
      have here := (slot_of_words found).1
      rw [same, place, Option.some.injEq] at here
      exact apart here.symm
    rw [Shared.load_store _ _ inside, if_neg other]
    exact writing.sound.kept m record (by rwa [writing.head]) listed fresh entry found

/-- A publication begins: whatever the slot held is gone. -/
theorem writing_begin (sound : w.Sound capacity records) (few : records.length < 2 ^ 64)
    (head : w.shared.head.toNat = n) (begun : w.begun = n) (more : n < records.length) :
    Writing capacity records n
      ⟨w.shared.store (.seq (n % capacity)) Slot.busy, w.begun + 1⟩ := by
  have inside : ∀ i, (Cell.seq (n % capacity)).slot? = some i → i < w.shared.slots.size := by
    rintro i ⟨⟩
    rw [sound.size]
    exact Nat.mod_lt _ pos
  have busy : Slot.busy.toNat = 2 ^ 64 - 1 := by decide
  have same : (w.shared.store (.seq (n % capacity)) Slot.busy).head = w.shared.head := rfl
  refine ⟨⟨?_, ?_, ?_, ?_, ?_⟩, by simp only [same, head], by simp only [begun]⟩
  · simp only [Shared.size_store, sound.size]
  · simp only [same, head, begun]
    omega
  · simp only [begun]
    omega
  · intro m published
    have earlier : m < n := by simpa only [same, head] using published
    have old := sound.held m (by rwa [head])
    rw [Shared.load_store _ _ inside]
    simp only [Cell.seq.injEq, begun]
    by_cases lapped : m % capacity = n % capacity
    · have := lap_of_mod_eq earlier lapped
      rw [if_pos lapped, busy]
      omega
    · rw [if_neg lapped, old, begun]
      have : n ≠ m + capacity := by
        rintro rfl
        simp at lapped
      omega
  · intro m record published listed fresh entry found
    have earlier : m < w.shared.head.toNat := by simpa only [same] using published
    rw [Shared.load_store _ _ inside, if_neg ((slot_of_words found).2 _)]
    exact sound.kept m record earlier listed (by simp only at fresh; omega) entry found

/-- One store into the slot that is being written, and then the rest. -/
theorem upholds_store_bind {α : Type} {post : α → World → Prop} {k : Unit → Run α} {cell : Cell}
    {value : UInt64} (writing : Writing capacity records n w)
    (place : cell.slot? = some (n % capacity))
    (number : ∀ i, cell = .seq i → value.toNat = n + 1)
    (plain : (Access.store cell value).begins = false)
    (rest : ∀ w', Untouched w w' →
      Writing capacity records n ⟨w'.shared.store cell value, w'.begun⟩ →
      (k ()).Upholds perform Untouched (Ahead capacity records) post
        ⟨w'.shared.store cell value, w'.begun⟩) :
    (store cell value >>= k).Upholds perform Untouched (Ahead capacity records) post w := by
  refine Program.upholds_access_bind fun w' others => ?_
  have before := writing.untouched others
  have next := before.store pos value place number
  refine ⟨(), ⟨w'.shared.store cell value, w'.begun⟩, ?_, ?_, rest w' others next⟩
  · simp [perform, Shared.perform, plain]
  · exact ⟨fun _ => next.sound, (Shared.cursors_store place ..).2,
      Nat.le_of_eq (before.head.trans next.head.symm), Nat.le_refl _⟩

/-- The words of a record are stored one after the other. -/
theorem upholds_storeAll_bind {α : Type} {post : α → World → Prop} {k : Unit → Run α}
    {stored entries : List (Cell × UInt64)} (writing : Writing capacity records n w)
    (shown : w.shared.Shows stored)
    (places : ∀ entry ∈ stored ++ entries,
      entry.1.slot? = some (n % capacity) ∧ ∀ i, entry.1 ≠ .seq i)
    (nodup : ((stored ++ entries).map Prod.fst).Nodup)
    (rest : ∀ w', Writing capacity records n w' → w'.shared.Shows (stored ++ entries) →
      (k ()).Upholds perform Untouched (Ahead capacity records) post w') :
    (storeAll entries >>= k).Upholds perform Untouched (Ahead capacity records) post w := by
  induction entries generalizing stored w with
  | nil => exact rest w writing (by simpa using shown)
  | cons entry entries ih =>
    obtain ⟨cell, value⟩ := entry
    obtain ⟨place, word⟩ := places (cell, value) (by simp)
    have plain := begins_of_word word value
    refine upholds_store_bind pos writing place (fun i same => absurd same (word i)) plain
      fun w' others next => ?_
    have inside := (writing.untouched others).inside pos place
    have still : w'.shared.Shows stored := fun entry found => by
      rw [Shared.load_of_slots_eq others.slots (places entry (List.mem_append_left _ found)).1]
      exact shown entry found
    have shown := still.store value inside (ne_of_nodup nodup)
    exact ih next shown (by simpa using places) (by simpa using nodup) (by simpa using rest)

/-- A publication keeps the ring in order with each of its accesses. -/
theorem upholds_publication (few : records.length < 2 ^ 64 - 1) {cursor : UInt64} {record : Record}
    (number : cursor.toNat = n) (listed : records[n]? = some record)
    (sound : w.Sound capacity records) (head : w.shared.head.toNat = n) (begun : w.begun = n) :
    (publication capacity cursor record).Upholds perform Untouched (Ahead capacity records)
      (fun next w' => next.toNat = n + 1 ∧ w'.Sound capacity records ∧
        w'.shared.head.toNat = n + 1 ∧ w'.begun = n + 1) w := by
  have more : n < records.length := (List.getElem?_eq_some_iff.1 listed).1
  have room : cursor.toNat + (1 : UInt64).toNat < UInt64.size := by
    simp only [number, UInt64.toNat_one, UInt64.size]
    omega
  have next : (cursor + 1).toNat = n + 1 := by
    rw [UInt64.toNat_add, UInt64.toNat_one, number]
    omega
  have plain : (Access.store (.seq (n % capacity)) (cursor + 1)).begins = false := by
    have busy : Slot.busy.toNat = 2 ^ 64 - 1 := by decide
    simp only [Access.begins, beq_eq_false_iff_ne, Ne, ← UInt64.toNat_inj, next, busy]
    omega
  have place : (Cell.seq (n % capacity)).slot? = some (n % capacity) := rfl
  simp only [publication, slotOf, number, storeRecord_eq]
  -- The slot is marked as busy: from here on the record that was in it may be torn.
  refine Program.upholds_access_bind fun w₁ others => ?_
  have writing := writing_begin pos (sound.untouched others) (by omega) (by rw [others.head, head])
    (by rw [others.begun, begun]) more
  refine ⟨(), _, rfl, ⟨fun _ => writing.sound, rfl, Nat.le_refl _, Nat.le_succ _⟩, ?_⟩
  refine upholds_storeAll_bind pos writing (show Shared.Shows [] _ by simp [Shared.Shows])
    (fun entry found => slot_of_words found) (nodup_words _ record) fun w₂ writing kept => ?_
  refine Program.upholds_ofExcept_bind (checkedAdd_eq_ok room) ?_
  refine upholds_store_bind pos writing place (fun _ _ => next) plain fun w₃ others numbered => ?_
  have inside := (writing.untouched others).inside pos place
  have held : (w₃.shared.store (.seq (n % capacity)) (cursor + 1)).load (.seq (n % capacity)) =
      cursor + 1 := by
    rw [Shared.load_store _ _ inside, if_pos rfl]
  have kept : (w₃.shared.store (.seq (n % capacity)) (cursor + 1)).Shows
      (words (n % capacity) record) := by
    intro entry found
    rw [Shared.load_store _ _ inside, if_neg ((slot_of_words found).2 _),
      Shared.load_of_slots_eq others.slots (slot_of_words found).1]
    exact kept entry found
  -- The slot is complete. Moving the head makes it visible.
  refine Program.upholds_access_bind fun w₄ others => ?_
  have writing := numbered.untouched others
  have done := writing.finish pos next listed (by rwa [Shared.load_of_slots_eq others.slots rfl])
    fun entry found => by
      rw [Shared.load_of_slots_eq others.slots (slot_of_words found).1]
      exact kept entry found
  refine ⟨(), _, rfl, ⟨fun _ => done, rfl, ?_, Nat.le_refl _⟩, ?_⟩
  · rw [writing.head]
    exact Nat.le_trans (Nat.le_succ n) (Nat.le_of_eq next.symm)
  · refine Program.upholds_pure fun w₅ others => ⟨next, done.untouched others, ?_, ?_⟩
    · rw [others.head]
      exact next
    · rw [others.begun]
      exact writing.begun

theorem upholds_publishing (few : records.length < 2 ^ 64 - 1) {cursor : UInt64}
    {more : List Record} (number : cursor.toNat = n) (left : records.drop n = more)
    (sound : w.Sound capacity records) (head : w.shared.head.toNat = n) (begun : w.begun = n) :
    (publishing capacity cursor more).Upholds perform Untouched (Ahead capacity records)
      (fun _ _ => True) w := by
  induction more generalizing cursor n w with
  | nil => exact fun _ _ => trivial
  | cons record rest ih =>
    have listed : records[n]? = some record := by
      rw [← List.head?_drop, left, List.head?_cons]
    have further : records.drop (n + 1) = rest := by
      rw [← List.tail_drop, left, List.tail_cons]
    refine Program.upholds_bind Untouched.refl
      (upholds_publication pos few number listed sound head begun) ?_
    rintro next w' ⟨number, sound, head, begun⟩
    exact ih number further sound head begun

end Publication

end World
end SdBridge.Event.Ring
