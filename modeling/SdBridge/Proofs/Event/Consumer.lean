import SdBridge.Proofs.Event.Producer

/-!
The consumer's side of the event ring, against a producer that may be anywhere. What the consumer
copies is worth something only if the slot shows the same number before and after; what it gives up
has been overwritten, or is being overwritten.
-/
namespace SdBridge.Event.Ring

/-- What the consumer does in one access while it takes a record: if it moves the tail, then past
records whose slots the producer has begun to use again. -/
structure World.Passes (capacity : Nat) (w w' : World) : Prop where
  untouched : w.Untouched w'
  tail_le : w.shared.tail.toNat ≤ w'.shared.tail.toNat
  overwritten : ∀ n, w.shared.tail.toNat ≤ n → n < w'.shared.tail.toNat → n + capacity < w'.begun

/-- The consumer between two accesses, with as many records handed back as `released` says. -/
structure Consumer.Rests (capacity : Nat) (records : List Record) (released : Nat) (c : Consumer)
    (w : World) : Prop where
  sound : w.Sound capacity records
  tail : w.shared.tail = c.tail
  tail_le : c.tail.toNat ≤ w.shared.head.toNat
  counted : c.tail.toNat = released + c.lost.toNat

/-- A taken record is the one at the tail, and is what was published under its number. -/
structure Consumer.Holds (records : List Record) (c : Consumer) (taken : Taken) (w : World) :
    Prop where
  cursor : taken.cursor = c.tail
  published : taken.cursor.toNat < w.shared.head.toNat
  record : records[taken.cursor.toNat]? = some taken.record

open World

variable {capacity : Nat} {records : List Record} {released n : Nat} {c : Consumer} {w w' : World}

theorem Consumer.Rests.ahead (rests : c.Rests capacity records released w)
    (others : Ahead capacity records w w') : c.Rests capacity records released w' :=
  ⟨others.sound rests.sound, others.tail.trans rests.tail, Nat.le_trans rests.tail_le others.head,
    rests.counted⟩

theorem Consumer.Holds.ahead {taken : Taken} (holds : c.Holds records taken w)
    (others : Ahead capacity records w w') : c.Holds records taken w' :=
  ⟨holds.cursor, Nat.lt_of_lt_of_le holds.published others.head, holds.record⟩

theorem World.Passes.refl (w : World) : Passes capacity w w :=
  ⟨.refl w, Nat.le_refl _, fun _ from_ below => absurd below (Nat.not_lt.2 from_)⟩

section Bind

variable {α : Type} {post : α → World → Prop}

theorem upholds_load_bind {cell : Cell} {k : UInt64 → Run α}
    (rest : ∀ w', Ahead capacity records w w' →
      (k (w'.shared.load cell)).Upholds World.perform (Ahead capacity records) (Passes capacity)
        post w') :
    (load cell >>= k).Upholds World.perform (Ahead capacity records) (Passes capacity) post w :=
  Program.upholds_access_bind fun w' others => ⟨_, w', rfl, .refl w', rest w' others⟩

/-- Moving the tail past records that are gone. -/
theorem upholds_pass_bind {oldest : UInt64} {k : Unit → Run α}
    (forward : w.shared.tail.toNat ≤ oldest.toNat)
    (overwritten : ∀ n, w.shared.tail.toNat ≤ n → n < oldest.toNat → n + capacity < w.begun)
    (rest : ∀ w', Ahead capacity records w w' →
      (k ()).Upholds World.perform (Ahead capacity records) (Passes capacity) post
        ⟨w'.shared.store .tail oldest, w'.begun⟩) :
    (store .tail oldest >>= k).Upholds World.perform (Ahead capacity records) (Passes capacity)
      post w := by
  refine Program.upholds_access_bind fun w' others => ?_
  refine ⟨(), ⟨w'.shared.store .tail oldest, w'.begun⟩, rfl, ⟨⟨rfl, rfl, rfl⟩, ?_, ?_⟩,
    rest w' others⟩
  · rw [others.tail]
    exact forward
  · intro n from_ below
    rw [others.tail] at from_
    exact Nat.lt_of_lt_of_le (overwritten n from_ below) others.begun

end Bind

def loadThen {α : Type} : List Cell → (List UInt64 → Run α) → Run α
  | [], k => k []
  | cell :: rest, k => do
    let value ← load cell
    loadThen rest fun values => k (value :: values)

def wordsLoaded (slot : Nat) (record : Record) : List (Cell × UInt64) :=
  (words slot record).drop 3 ++ (words slot record).take 3

theorem mem_words_of_loaded {slot : Nat} {record : Record} {entry : Cell × UInt64}
    (found : entry ∈ wordsLoaded slot record) : entry ∈ words slot record := by
  rcases List.mem_append.1 found with late | early
  · exact List.mem_of_mem_drop late
  · exact List.mem_of_mem_take early

theorem size_text (word0 word1 word2 word3 word4 : UInt64) :
    #[word0, word1, word2, word3, word4].size = textWords := rfl

def assemble : List UInt64 → Record
  | [word0, word1, word2, word3, word4, tag, extra, timestamp] =>
    Slot.decode tag extra timestamp
      ⟨#[word0, word1, word2, word3, word4], size_text word0 word1 word2 word3 word4⟩
  | _ => default

theorem loadRecord_bind {α : Type} (slot : Nat) (record : Record) (k : Record → Run α) :
    loadRecord slot >>= k = loadThen ((wordsLoaded slot record).map Prod.fst) fun values =>
      k (assemble values) := rfl

theorem assemble_words (slot : Nat) (record : Record) :
    assemble ((wordsLoaded slot record).map Prod.snd) = record :=
  Slot.decode_stored record

/-- What was loaded are the words of the record, unless they have begun to be overwritten by the
end. -/
theorem upholds_loadThen {α : Type} {post : α → World → Prop} {record : Record}
    {entries : List (Cell × UInt64)} {k : List UInt64 → Run α} (sound : w.Sound capacity records)
    (published : n < w.shared.head.toNat) (listed : records[n]? = some record)
    (known : ∀ entry ∈ entries, entry ∈ words (n % capacity) record)
    (rest : ∀ values w', Ahead capacity records w w' →
      (w'.begun ≤ n + capacity → values = entries.map Prod.snd) →
      (k values).Upholds World.perform (Ahead capacity records) (Passes capacity) post w') :
    (loadThen (entries.map Prod.fst) k).Upholds World.perform (Ahead capacity records)
      (Passes capacity) post w := by
  induction entries generalizing w k with
  | nil => exact rest [] w (.refl w) fun _ => rfl
  | cons entry entries ih =>
    refine upholds_load_bind fun w₁ others => ?_
    have sound₁ := others.sound sound
    have published₁ := Nat.lt_of_lt_of_le published others.head
    refine ih sound₁ published₁ (fun entry found => known entry (List.mem_cons_of_mem _ found)) ?_
    intro values w₂ further same
    refine rest _ w₂ (others.trans further) fun fresh => ?_
    have kept := sound₁.kept n record published₁ listed (Nat.le_trans further.begun fresh)
    rw [List.map_cons, same fresh, kept entry (known entry List.mem_cons_self)]

theorem upholds_loadRecord_bind {α : Type} {post : α → World → Prop} {k : Record → Run α}
    (sound : w.Sound capacity records) (published : n < w.shared.head.toNat)
    (rest : ∀ copy w', Ahead capacity records w w' →
      (w'.begun ≤ n + capacity → records[n]? = some copy) →
      (k copy).Upholds World.perform (Ahead capacity records) (Passes capacity) post w') :
    (loadRecord (n % capacity) >>= k).Upholds World.perform (Ahead capacity records)
      (Passes capacity) post w := by
  have more : n < records.length :=
    Nat.lt_of_lt_of_le published (Nat.le_trans sound.head_le sound.begun_le)
  obtain ⟨record, listed⟩ : ∃ record, records[n]? = some record :=
    ⟨records[n], List.getElem?_eq_getElem more⟩
  rw [loadRecord_bind _ record]
  refine upholds_loadThen sound published listed (fun _ => mem_words_of_loaded) ?_
  intro values w' others same
  refine rest _ w' others fun fresh => ?_
  rw [same fresh, assemble_words, listed]

/-- A copy that is kept is the record; one that is dropped was of a record that is gone. -/
theorem upholds_copyIfHeld {expected : UInt64} (number : expected.toNat = n + 1)
    (sound : w.Sound capacity records) (published : n < w.shared.head.toNat) :
    (copyIfHeld (n % capacity) expected).Upholds World.perform (Ahead capacity records)
      (Passes capacity) (fun copy w' => Ahead capacity records w w' ∧
        match copy with
        | some record => records[n]? = some record
        | none => n + capacity < w'.begun) w := by
  have gone {v v' : World} (before : Ahead capacity records w v)
      (after : Ahead capacity records v v')
      (other : v.shared.load (.seq (n % capacity)) ≠ expected) : n + capacity < v'.begun := by
    have held := (before.sound sound).held n (Nat.lt_of_lt_of_le published before.head)
    have later := after.begun
    rw [← number, UInt64.toNat_inj] at held
    by_contra fresh
    exact other (held.2 (by omega))
  refine upholds_load_bind fun w₁ a₁ => ?_
  by_cases before : w₁.shared.load (.seq (n % capacity)) = expected
  · rw [if_pos before]
    have b₁ := a₁.sound sound
    refine upholds_loadRecord_bind b₁ (Nat.lt_of_lt_of_le published a₁.head) fun copy w₂ a₂ same => ?_
    refine upholds_load_bind fun w₃ a₃ => ?_
    have a := (a₁.trans a₂).trans a₃
    by_cases after : w₃.shared.load (.seq (n % capacity)) = expected
    · rw [if_pos after]
      refine Program.upholds_pure fun w₄ a₄ => ⟨a.trans a₄, same ?_⟩
      have held := (a.sound sound).held n (Nat.lt_of_lt_of_le published a.head)
      rw [← number, UInt64.toNat_inj] at held
      exact Nat.le_trans a₃.begun (held.1 after)
    · rw [if_neg after]
      exact Program.upholds_pure fun w₄ a₄ => ⟨a.trans a₄, gone a a₄ after⟩
  · rw [if_neg before]
    exact Program.upholds_pure fun w₂ a₂ => ⟨a₁.trans a₂, gone a₁ a₂ before⟩

section CatchUp

variable {head : UInt64} (fits : capacity < 2 ^ 64)

include fits

theorem toNat_capacity : capacity.toUInt64.toNat = capacity := by
  rw [Nat.toUInt64, UInt64.toNat_ofNat', Nat.mod_eq_of_lt fits]

theorem catchUp_near (behind : c.tail.toNat ≤ head.toNat)
    (near : head.toNat ≤ c.tail.toNat + capacity) : catchUp capacity head c = pure c := by
  have order : c.tail ≤ head := UInt64.le_iff_toNat_le.2 behind
  have held : ¬capacity.toUInt64 < head - c.tail := by
    rw [UInt64.lt_iff_toNat_lt, toNat_capacity fits, UInt64.toNat_sub_of_le _ _ order]
    omega
  simp only [catchUp, checkedSub_eq_ok order, Program.ofExcept_ok_bind, if_neg held]

/-- A lapped consumer goes on with the oldest record that is left. -/
theorem catchUp_lapped (lapped : c.tail.toNat + capacity < head.toNat)
    (room : c.lost.toNat + (head.toNat - capacity - c.tail.toNat) < 2 ^ 64) :
    ∃ oldest lost : UInt64, oldest.toNat = head.toNat - capacity ∧
      lost.toNat = c.lost.toNat + (oldest.toNat - c.tail.toNat) ∧
      catchUp capacity head c = store .tail oldest >>= fun _ => pure ⟨oldest, lost⟩ := by
  have size := toNat_capacity fits
  have order : c.tail ≤ head := UInt64.le_iff_toNat_le.2 (by omega)
  have inside : capacity.toUInt64 ≤ head := UInt64.le_iff_toNat_le.2 (by omega)
  have oldest : (head - capacity.toUInt64).toNat = head.toNat - capacity := by
    rw [UInt64.toNat_sub_of_le _ _ inside, size]
  have forward : c.tail ≤ head - capacity.toUInt64 := UInt64.le_iff_toNat_le.2 (by omega)
  have skipped : (head - capacity.toUInt64 - c.tail).toNat =
      head.toNat - capacity - c.tail.toNat := by
    rw [UInt64.toNat_sub_of_le _ _ forward, oldest]
  have far : capacity.toUInt64 < head - c.tail := by
    rw [UInt64.lt_iff_toNat_lt, size, UInt64.toNat_sub_of_le _ _ order]
    omega
  refine ⟨head - capacity.toUInt64, c.lost + (head - capacity.toUInt64 - c.tail), oldest, ?_, ?_⟩
  · rw [UInt64.toNat_add, skipped, Nat.mod_eq_of_lt room, oldest]
  · have fitting : c.lost.toNat + (head - capacity.toUInt64 - c.tail).toNat < UInt64.size := by
      rwa [skipped]
    simp only [catchUp, checkedSub_eq_ok order, Program.ofExcept_ok_bind, if_pos far,
      checkedSub_eq_ok inside, checkedSub_eq_ok forward, checkedAdd_eq_ok fitting]

end CatchUp

section Taking

/-- The tail is moved past records that are gone, and they are counted. -/
theorem upholds_pass {next lost : UInt64} {gone : Nat} (rests : c.Rests capacity records released w)
    (forward : next.toNat = c.tail.toNat + gone) (counted : lost.toNat = c.lost.toNat + gone)
    (published : next.toNat ≤ w.shared.head.toNat)
    (overwritten : ∀ n, n < next.toNat → n + capacity < w.begun) {α : Type}
    {post : α → World → Prop} {k : Unit → Run α}
    (rest : ∀ w', Consumer.Rests capacity records released ⟨next, lost⟩ w' →
      w.shared.head.toNat ≤ w'.shared.head.toNat →
      (k ()).Upholds World.perform (Ahead capacity records) (Passes capacity) post w') :
    (store .tail next >>= k).Upholds World.perform (Ahead capacity records) (Passes capacity)
      post w := by
  have counted' := rests.counted
  refine upholds_pass_bind (by rw [rests.tail]; omega) (fun n _ below => overwritten n below) ?_
  intro w' others
  have after := rests.ahead others
  have head := others.head
  refine rest _ ⟨after.sound.untouched ⟨rfl, rfl, rfl⟩, rfl, ?_, ?_⟩ head
  · exact Nat.le_trans published head
  · simp only
    omega

variable (pos : 0 < capacity) (fits : capacity < 2 ^ 64)

include pos fits

theorem upholds_catchUp (rests : c.Rests capacity records released w) {head : UInt64}
    (behind : c.tail.toNat < head.toNat) (seen : head.toNat ≤ w.shared.head.toNat) :
    (catchUp capacity head c).Upholds World.perform (Ahead capacity records) (Passes capacity)
      (fun c' w' => c'.Rests capacity records released w' ∧
        c'.tail.toNat < w'.shared.head.toNat) w := by
  have counted := rests.counted
  have begun := rests.sound.head_le
  have limit := head.toNat_lt
  by_cases near : head.toNat ≤ c.tail.toNat + capacity
  · rw [catchUp_near fits (Nat.le_of_lt behind) near]
    refine Program.upholds_pure fun w' others => ⟨rests.ahead others, ?_⟩
    have := others.head
    omega
  · obtain ⟨oldest, lost, place, lost_eq, same⟩ :=
      catchUp_lapped fits (Nat.lt_of_not_le near) (by omega)
    rw [same]
    refine upholds_pass rests (by omega) lost_eq (by omega) (fun n below => by omega) ?_
    intro w' after further
    refine Program.upholds_pure fun w'' others => ⟨after.ahead others, ?_⟩
    have := others.head
    simp only
    omega

/-- A record that is taken is the one at the tail, and it was published under its number. -/
theorem upholds_attempt (rests : c.Rests capacity records released w) :
    (attempt capacity c).Upholds World.perform (Ahead capacity records) (Passes capacity)
      (fun (ended, c') w' => c'.Rests capacity records released w' ∧
        ∀ taken, ended = .taken taken → c'.Holds records taken w') w := by
  refine upholds_load_bind fun w₁ a₁ => ?_
  have rests := rests.ahead a₁
  by_cases empty : w₁.shared.load .head = c.tail
  · rw [if_pos empty]
    exact Program.upholds_pure fun w' others => ⟨rests.ahead others, by rintro taken ⟨⟩⟩
  rw [if_neg empty]
  have behind : c.tail.toNat < w₁.shared.head.toNat := by
    have := rests.tail_le
    rw [← UInt64.toNat_inj, Shared.load] at empty
    omega
  refine Program.upholds_bind Ahead.refl
    (upholds_catchUp pos fits rests behind (Nat.le_refl _)) fun c w₂ caught => ?_
  obtain ⟨rests, published⟩ := caught
  have limit := w₂.shared.head.toNat_lt
  have next : (c.tail + 1).toNat = c.tail.toNat + 1 := by
    rw [UInt64.toNat_add, UInt64.toNat_one]
    omega
  refine Program.upholds_ofExcept_bind (checkedAdd_eq_ok (by
    simp only [UInt64.toNat_one, UInt64.size]
    omega)) ?_
  refine Program.upholds_bind Ahead.refl (upholds_copyIfHeld next rests.sound published)
    fun copy w₃ copied => ?_
  obtain ⟨a₃, copied⟩ := copied
  have rests := rests.ahead a₃
  have published := Nat.lt_of_lt_of_le published a₃.head
  cases copy with
  | some record =>
    refine Program.upholds_pure fun w' others => ⟨rests.ahead others, ?_⟩
    rintro taken ⟨⟩
    exact ⟨rfl, Nat.lt_of_lt_of_le published others.head, copied⟩
  | none =>
    have counted := rests.counted
    have lost : (c.lost + 1).toNat = c.lost.toNat + 1 := by
      rw [UInt64.toNat_add, UInt64.toNat_one]
      omega
    refine Program.upholds_ofExcept_bind (checkedAdd_eq_ok (by
      simp only [UInt64.toNat_one, UInt64.size]
      omega)) ?_
    refine upholds_pass rests next lost (by omega) (fun n below => ?_) ?_
    · exact Nat.lt_of_le_of_lt (by omega) copied
    · intro w' after further
      exact Program.upholds_pure fun w'' others => ⟨after.ahead others, by rintro taken ⟨⟩⟩

theorem upholds_taking (attempts : Nat) (rests : c.Rests capacity records released w) :
    (taking capacity attempts c).Upholds World.perform (Ahead capacity records) (Passes capacity)
      (fun (taken?, c') w' => c'.Rests capacity records released w' ∧
        ∀ taken, taken? = some taken → c'.Holds records taken w') w := by
  induction attempts generalizing c w with
  | zero => exact Program.upholds_pure fun w' others => ⟨rests.ahead others, by rintro taken ⟨⟩⟩
  | succ attempts ih =>
    refine Program.upholds_bind Ahead.refl (upholds_attempt pos fits rests) ?_
    rintro ⟨ended, c'⟩ w' ⟨rests, holds⟩
    cases ended with
    | empty => exact Program.upholds_pure fun w'' others => ⟨rests.ahead others, by rintro taken ⟨⟩⟩
    | taken record =>
      refine Program.upholds_pure fun w'' others => ⟨rests.ahead others, ?_⟩
      rintro taken ⟨⟩
      exact (holds record rfl).ahead others
    | overtaken => exact ih rests

end Taking
end SdBridge.Event.Ring
