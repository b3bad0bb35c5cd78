import SdBridge.Register.Hardware

/-! What a register file shows after accesses that lie inside it. -/
namespace SdBridge.RegisterFile

/-- The word an offset lies in; zero past the end. -/
def word (f : RegisterFile) (offset : Nat) : UInt32 := f.words[offset / 4]?.getD 0

variable {f : RegisterFile} {offset : Nat}

/-- Offsets into one word show the same. -/
theorem word_congr {other : Nat} (same : offset / 4 = other / 4) : f.word offset = f.word other := by
  rw [word, word, same]

theorem get_eq (inside : offset / 4 < f.words.size) : f.get offset = .ok (f.word offset) := by
  simp [get, word, inside]

theorem read_of_inside (aligned : offset % 4 = 0) (inside : offset / 4 < f.words.size) :
    f.read offset = (.ok (f.word offset), { f with reads := f.reads + 1 }) := by
  rw [read_eq f offset aligned, get_eq inside]

@[simp] theorem word_read (f : RegisterFile) (offset other : Nat) :
    (f.read offset).2.word other = f.word other := by
  simp [word]

/-- A write changes at most the word it is aimed at. -/
theorem word_write (f : RegisterFile) (offset : Nat) (value : UInt32) (other : Nat) :
    (f.write offset value).2.word other =
      if offset % 4 = 0 ∧ offset / 4 < f.words.size ∧ other / 4 = offset / 4 then
        f.stored offset (f.word offset) value
      else f.word other := by
  simp only [write]
  by_cases aligned : offset % 4 = 0
  · rw [if_pos aligned]
    by_cases inside : offset / 4 < f.words.size
    · have old : f.words[offset / 4]? = some (f.word offset) := by
        simp [word, inside]
      simp only [old, aligned, inside, true_and]
      rw [word, Array.getElem?_setIfInBounds]
      by_cases same : offset / 4 = other / 4
      · rw [if_pos same, if_pos inside, if_pos same.symm]
        rfl
      · rw [if_neg same, if_neg (Ne.symm same)]
        rfl
    · rw [Array.getElem?_eq_none (Nat.le_of_not_lt inside), if_neg fun hit => inside hit.2.1]
      rfl
  · rw [if_neg aligned, if_neg fun hit => aligned hit.1]

theorem write_of_inside (aligned : offset % 4 = 0) (inside : offset / 4 < f.words.size)
    (value : UInt32) : (f.write offset value).1 = .ok () := by
  simp [write, aligned, inside]

theorem inside_of_write {value : UInt32} {answer : Unit}
    (written : (f.write offset value).1 = .ok answer) :
    offset % 4 = 0 ∧ offset / 4 < f.words.size := by
  simp only [write] at written
  split at written
  · rename_i aligned
    split at written
    · rename_i old found
      exact ⟨aligned, (Array.getElem?_eq_some_iff.1 found).1⟩
    · cases written
  · cases written

/-- A read that succeeds gives the word. -/
theorem word_of_read {answer : UInt32} (read : (f.read offset).1 = .ok answer) :
    answer = f.word offset := by
  simp only [RegisterFile.read] at read
  split at read
  · simp only [get] at read
    split at read
    · rename_i word found
      cases read
      rw [word, found, Option.getD_some]
    · cases read
  · cases read

/-- A write that faults changes no word. -/
theorem words_write_of_fault {value : UInt32} {fault : Fault}
    (missed : (f.write offset value).1 = .error fault) : (f.write offset value).2.words = f.words := by
  simp only [write] at missed ⊢
  split
  · rename_i aligned
    simp only [aligned, if_true] at missed
    split at missed
    · cases missed
    · rfl
  · rfl

@[simp] theorem clearOnOne_write (f : RegisterFile) (offset : Nat) (value : UInt32) :
    (f.write offset value).2.clearOnOne = f.clearOnOne := by
  simp only [write]
  split
  · split <;> rfl
  · rfl

@[simp] theorem clearOnOne_read (f : RegisterFile) (offset : Nat) :
    (f.read offset).2.clearOnOne = f.clearOnOne := by
  simp only [read]
  split <;> rfl

@[simp] theorem size_force (f : RegisterFile) (offset : Nat) (value : UInt32) :
    (f.force offset value).words.size = f.words.size := by
  simp only [force, set]
  split <;> simp

@[simp] theorem clearOnOne_force (f : RegisterFile) (offset : Nat) (value : UInt32) :
    (f.force offset value).clearOnOne = f.clearOnOne := by
  simp only [force, set]
  split <;> rfl

theorem word_force (f : RegisterFile) (offset : Nat) (value : UInt32) (other : Nat) :
    (f.force offset value).word other =
      if offset / 4 < f.words.size ∧ other / 4 = offset / 4 then value else f.word other := by
  simp only [force, set]
  by_cases inside : offset / 4 < f.words.size
  · simp only [inside, if_true, word, Array.getElem?_setIfInBounds, true_and]
    by_cases same : offset / 4 = other / 4
    · rw [if_pos same, if_pos same.symm]
      rfl
    · rw [if_neg same, if_neg (Ne.symm same)]
  · rw [if_neg inside, if_neg fun hit => inside hit.1]

/-- A word that is not write-one-to-clear takes what is written. -/
theorem stored_plain (plain : offset ∉ f.clearOnOne) (old value : UInt32) :
    f.stored offset old value = value := by
  rw [stored, if_neg plain]

theorem stored_clearOnOne (clears : offset ∈ f.clearOnOne) (old value : UInt32) :
    f.stored offset old value = old &&& ~~~value := by
  rw [stored, if_pos clears]

/-- A write to a write-one-to-clear register clears bits, also where the file ends before it. -/
theorem word_write_clears (clears : offset ∈ f.clearOnOne) (aligned : offset % 4 = 0)
    (value : UInt32) : (f.write offset value).2.word offset = f.word offset &&& ~~~value := by
  rw [word_write]
  by_cases inside : offset / 4 < f.words.size
  · rw [if_pos ⟨aligned, inside, rfl⟩, stored_clearOnOne clears]
  · have past : f.word offset = 0 := by
      rw [word, Array.getElem?_eq_none (Nat.le_of_not_lt inside), Option.getD_none]
    rw [if_neg fun hit => inside hit.2.1, past, UInt32.zero_and]

theorem words_write_of_inside (aligned : offset % 4 = 0) (inside : offset / 4 < f.words.size)
    (plain : offset ∉ f.clearOnOne) (value : UInt32) :
    (f.write offset value).2.words = f.words.setIfInBounds (offset / 4) value := by
  simp [write, aligned, Array.getElem?_eq_getElem inside, stored, plain]

/-- What a read is answered, by the words alone. -/
theorem read_fst (f : RegisterFile) (offset : Nat) : (f.read offset).1 =
    if offset % 4 = 0 then
      match f.words[offset / 4]? with
      | some word => .ok word
      | none => .error (.index f.words.size (offset / 4))
    else .error (.unalignedRead offset) := by
  unfold read
  split <;> rfl

theorem write_fst (f : RegisterFile) (offset : Nat) (value : UInt32) : (f.write offset value).1 =
    if offset % 4 = 0 then
      match f.words[offset / 4]? with
      | some _ => .ok ()
      | none => .error (.index f.words.size (offset / 4))
    else .error (.unalignedWrite offset) := by
  simp only [write]
  split
  · cases f.words[offset / 4]? <;> rfl
  · rfl

/-- Two files of one shape that show the same in some registers. -/
structure Agree (own : List Nat) (f f' : RegisterFile) : Prop where
  size : f.words.size = f'.words.size
  clears : f.clearOnOne = f'.clearOnOne
  words : ∀ offset ∈ own, f.word offset = f'.word offset

namespace Agree

variable {own : List Nat} {f f' f'' : RegisterFile}

theorem refl (own : List Nat) (f : RegisterFile) : f.Agree own f := ⟨rfl, rfl, fun _ _ => rfl⟩

theorem symm (agree : f.Agree own f') : f'.Agree own f :=
  ⟨agree.size.symm, agree.clears.symm, fun offset listed => (agree.words offset listed).symm⟩

theorem trans (first : f.Agree own f') (second : f'.Agree own f'') : f.Agree own f'' :=
  ⟨first.size.trans second.size, first.clears.trans second.clears,
    fun offset listed => (first.words offset listed).trans (second.words offset listed)⟩

theorem getElem? (agree : f.Agree own f') (listed : offset ∈ own) :
    f.words[offset / 4]? = f'.words[offset / 4]? := by
  have same := agree.words offset listed
  have size := agree.size
  by_cases inside : offset / 4 < f.words.size
  · have inside' : offset / 4 < f'.words.size := size ▸ inside
    rw [word, word, Array.getElem?_eq_getElem inside, Array.getElem?_eq_getElem inside'] at same
    rw [Array.getElem?_eq_getElem inside, Array.getElem?_eq_getElem inside']
    exact congrArg some same
  · rw [Array.getElem?_eq_none (Nat.le_of_not_lt inside),
      Array.getElem?_eq_none (Nat.le_of_not_lt (size ▸ inside))]

/-- A read of such a register gives the same, and leaves the files alike. -/
theorem read (agree : f.Agree own f') (listed : offset ∈ own) :
    (f.read offset).1 = (f'.read offset).1 ∧ (f.read offset).2.Agree own (f'.read offset).2 := by
  refine ⟨?_, by simp [agree.size], by simp [agree.clears], fun other of => ?_⟩
  · rw [read_fst, read_fst, agree.getElem? listed, agree.size]
  · rw [word_read, word_read, agree.words other of]

/-- A write to such a register does the same to both. -/
theorem write (agree : f.Agree own f') (listed : offset ∈ own) (value : UInt32) :
    (f.write offset value).1 = (f'.write offset value).1 ∧
      (f.write offset value).2.Agree own (f'.write offset value).2 := by
  refine ⟨?_, by simp [write_size, agree.size], by simp [agree.clears], fun other of => ?_⟩
  · rw [write_fst, write_fst, agree.getElem? listed, agree.size]
  · rw [word_write, word_write, stored, stored, agree.words offset listed, agree.words other of,
      agree.size, agree.clears]

/-- Accesses to other registers are not seen. -/
theorem of_read (own : List Nat) (f : RegisterFile) (offset : Nat) :
    f.Agree own (f.read offset).2 :=
  ⟨by simp, by simp, fun _ _ => (word_read ..).symm⟩

theorem of_write (apart : ∀ other ∈ own, other / 4 ≠ offset / 4) (f : RegisterFile)
    (value : UInt32) : f.Agree own (f.write offset value).2 := by
  refine ⟨by simp [write_size], by simp, fun other listed => ?_⟩
  rw [word_write, if_neg fun hit => apart other listed hit.2.2]

end Agree
end SdBridge.RegisterFile
