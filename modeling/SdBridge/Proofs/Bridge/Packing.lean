import SdBridge.Bridge.Transfer
import SdBridge.Proofs.Program.Sequence
import SdBridge.Proofs.Register.File
import SdBridge.Proofs.Register.Word

/-!
Bytes on their way into the data buffer. Read as big-endian words, the buffer then starts with the
bytes that were packed.
-/
namespace SdBridge

/-- The bytes of a register file whose words are big-endian. -/
def RegisterFile.bytes (f : RegisterFile) : List UInt8 := f.words.toList.flatMap bytesOfWord

/-- Words packed from bytes, four to a word, read back as the bytes. -/
theorem take_bytesOfWords {words : List UInt32} {bytes : List UInt8} {count : Nat}
    (stored : ∀ i < count, words[i]? = some (packedWord ((bytes.drop (4 * i)).take 4)))
    (enough : bytes.length ≤ 4 * count) :
    (words.flatMap bytesOfWord).take bytes.length = bytes := by
  induction count generalizing words bytes with
  | zero =>
    have none : bytes = [] := List.eq_nil_of_length_eq_zero (by omega)
    simp [none]
  | succ count ih =>
    have first := stored 0 (by omega)
    rw [Nat.mul_zero, List.drop_zero] at first
    obtain ⟨rest, rfl⟩ : ∃ rest, words = packedWord (bytes.take 4) :: rest := by
      cases words with
      | nil => cases first
      | cons word rest =>
        cases first
        exact ⟨rest, rfl⟩
    rw [List.flatMap_cons, bytesOfWord_packedWord (List.length_take_le 4 bytes)]
    by_cases last : bytes.length ≤ 4
    · rw [List.take_of_length_le last, List.append_assoc, List.take_left]
    · have four : (bytes.take 4).length = 4 := by
        rw [List.length_take]
        omega
      have more : ∀ i < count,
          rest[i]? = some (packedWord (((bytes.drop 4).drop (4 * i)).take 4)) := by
        intro i inside
        have word := stored (i + 1) (by omega)
        rw [List.getElem?_cons_succ] at word
        rw [word, List.drop_drop, Nat.mul_succ, Nat.add_comm]
      have tail := ih more (by rw [List.length_drop]; omega)
      rw [List.length_drop] at tail
      rw [four, Nat.sub_self, List.replicate_zero, List.append_nil, List.take_append, four, tail,
        List.take_of_length_le (by omega), List.take_append_drop]

namespace Bridge

variable {π : Type} [Responder π] [ByteSource π]

/-- A data buffer that has room for a block with its checksum, all of plain words. -/
structure Roomy (buffer : RegisterFile) : Prop where
  size : 129 ≤ buffer.words.size
  plain : buffer.clearOnOne = []

/-- A validated block holds at least one word, and no more than the data buffer has room for. -/
theorem maxBytes_of_valid {settings : Settings} (valid : settings.validate = .ok ()) :
    0 < settings.transfer.maxBytes ∧ settings.transfer.maxBytes ≤ 512 ∧
      settings.transfer.maxBytes % 4 = 0 := by
  by_contra wrong
  have bad : settings.transfer.maxBytes = 0 ∨ maxBlockBytes < settings.transfer.maxBytes ∨
      settings.transfer.maxBytes % 4 ≠ 0 := by
    simp only [maxBlockBytes]
    omega
  simp only [Settings.validate, bad, if_true] at valid
  repeat' split at valid
  all_goals cases valid

theorem limit_of_valid {settings : Settings} (valid : settings.validate = .ok ()) :
    settings.transfer.maxBytes ≤ 512 :=
  (maxBytes_of_valid valid).2.1

def SameButBuffer (b b' : Bridge π) : Prop := b' = { b with buffer := b'.buffer }

omit [Responder π] [ByteSource π] in
theorem SameButBuffer.trans {a b c : Bridge π} (first : SameButBuffer a b)
    (second : SameButBuffer b c) : SameButBuffer a c := by
  rw [SameButBuffer, second, first]

theorem ends_writeBuffer {b : Bridge π} {i : Nat} (roomy : Roomy b.buffer) (inside : i < 129)
    (value : UInt32) :
    Program.Ends perform (Loop.writeBuffer (4 * i) value) b fun _ b' =>
      SameButBuffer b b' ∧ Roomy b'.buffer ∧
        ∀ j, b'.buffer.words[j]? = if j = i then some value else b.buffer.words[j]? := by
  have size := roomy.size
  have place : 4 * i / 4 = i := by omega
  have old : b.buffer.words[i]? = some b.buffer.words[i] := Array.getElem?_eq_getElem (by omega)
  have performed : perform (.writeBuffer (4 * i) value) b =
      (.ok (), { b with buffer := (b.buffer.write (4 * i) value).2 }) := by
    simp only [perform, RegisterFile.write, Nat.mul_mod_right, if_true, place, old]
  refine Program.ends_access performed ⟨rfl, ⟨?_, ?_⟩, ?_⟩
  · simpa only [RegisterFile.write_size] using size
  · simpa only [RegisterFile.clearOnOne_write] using roomy.plain
  · intro j
    simp only [RegisterFile.write, Nat.mul_mod_right, if_true, place, old, RegisterFile.stored,
      roomy.plain, List.not_mem_nil, if_false, Array.getElem?_setIfInBounds]
    by_cases same : i = j
    · rw [if_pos same, if_pos (by omega), if_pos same.symm]
    · rw [if_neg same, if_neg (Ne.symm same)]

namespace Transfer

structure Packed (bytes : List UInt8) (p : Packer) (buffer : RegisterFile) : Prop where
  roomy : Roomy buffer
  words : p.words = bytes.length / 4
  waiting : p.waiting = bytes.drop (4 * p.words)
  stored : ∀ i < p.words, buffer.words[i]? = some (packedWord ((bytes.drop (4 * i)).take 4))

variable {bytes : List UInt8} {p : Packer} {b : Bridge π}

omit [Responder π] [ByteSource π] in
theorem Packed.bytes_eq {buffer : RegisterFile} (packed : Packed bytes p buffer) :
    p.bytes = bytes.length := by
  have words := packed.words
  rw [Packer.bytes, packed.waiting, List.length_drop]
  omega

theorem ends_push (packed : Packed bytes p b.buffer) (room : bytes.length < 514) (byte : UInt8) :
    Program.Ends perform (p.push byte) b fun p' b' =>
      SameButBuffer b b' ∧ Packed (bytes ++ [byte]) p' b'.buffer := by
  have words := packed.words
  have waiting : (p.waiting ++ [byte]).length = bytes.length - 4 * p.words + 1 := by
    rw [packed.waiting, List.length_append, List.length_drop, List.length_singleton]
  have tail : p.waiting ++ [byte] = (bytes ++ [byte]).drop (4 * p.words) := by
    rw [packed.waiting, List.drop_append_of_le_length (by omega)]
  have old : ∀ i < p.words, ((bytes ++ [byte]).drop (4 * i)).take 4 = (bytes.drop (4 * i)).take 4 := by
    intro i inside
    rw [List.drop_append_of_le_length (by omega), List.take_append_of_le_length]
    rw [List.length_drop]
    omega
  simp only [Packer.push]
  by_cases full : (p.waiting ++ [byte]).length = 4
  · rw [if_pos full]
    refine Program.ends_bind (ends_writeBuffer packed.roomy (by omega) _) ?_
    rintro - b' ⟨same, roomy, stored⟩
    refine Program.ends_pure ⟨same, roomy, ?_, ?_, ?_⟩
    · simp only [List.length_append, List.length_singleton]
      omega
    · refine (List.drop_eq_nil_of_le ?_).symm
      simp only [List.length_append, List.length_singleton]
      omega
    · intro i inside
      rw [stored]
      by_cases last : i = p.words
      · rw [if_pos last, last, ← tail, List.take_of_length_le (Nat.le_of_eq full)]
      · have before : i < p.words := by
          simp only at inside
          omega
        rw [if_neg last, packed.stored i before, old i before]
  · rw [if_neg full]
    refine Program.ends_pure ⟨rfl, packed.roomy, ?_, tail, ?_⟩
    · simp only [List.length_append, List.length_singleton]
      omega
    · intro i inside
      rw [packed.stored i inside, old i inside]

theorem ends_pushAll (more : List UInt8) (packed : Packed bytes p b.buffer)
    (room : bytes.length + more.length ≤ 514) :
    Program.Ends perform (p.pushAll more) b fun p' b' =>
      SameButBuffer b b' ∧ Packed (bytes ++ more) p' b'.buffer := by
  induction more generalizing bytes p b with
  | nil => exact Program.ends_pure ⟨rfl, by simpa using packed⟩
  | cons byte rest ih =>
    rw [List.length_cons] at room
    refine Program.ends_bind (ends_push packed (by omega) byte) ?_
    rintro p' b' ⟨same, packed'⟩
    refine Program.ends_mono (ih packed' ?_) ?_
    · rw [List.length_append, List.length_singleton]
      omega
    · rintro p'' b'' ⟨same', packed''⟩
      exact ⟨same.trans same', by simpa using packed''⟩

/-- In the end all bytes are in the buffer. -/
theorem ends_finish (packed : Packed bytes p b.buffer) (room : bytes.length ≤ 514) :
    Program.Ends perform p.finish b fun t b' =>
      t = ⟨bytes.length, (bytes.length + 3) / 4⟩ ∧ SameButBuffer b b' ∧ Roomy b'.buffer ∧
        b'.buffer.bytes.take bytes.length = bytes := by
  have words := packed.words
  have count := packed.bytes_eq
  have length : p.waiting.length = bytes.length - 4 * p.words := by
    rw [packed.waiting, List.length_drop]
  simp only [Packer.finish]
  by_cases none : p.waiting = []
  · rw [if_pos none]
    rw [none, List.length_nil] at length
    refine Program.ends_pure ⟨?_, rfl, packed.roomy, ?_⟩
    · rw [count, words]
      congr 1
      omega
    · have stored : ∀ i < p.words, b.buffer.words.toList[i]? =
          some (packedWord ((bytes.drop (4 * i)).take 4)) := by
        simpa only [Array.getElem?_toList] using packed.stored
      exact take_bytesOfWords stored (by omega)
  · rw [if_neg none]
    have left : p.waiting.length ≠ 0 := fun zero => none (List.eq_nil_of_length_eq_zero zero)
    refine Program.ends_bind (ends_writeBuffer packed.roomy (by omega) _) ?_
    rintro - b' ⟨same, roomy, stored⟩
    refine Program.ends_pure ⟨?_, same, roomy, ?_⟩
    · rw [count, words]
      congr 1
      omega
    · have stored : ∀ i < p.words + 1, b'.buffer.words.toList[i]? =
          some (packedWord ((bytes.drop (4 * i)).take 4)) := by
        intro i inside
        rw [Array.getElem?_toList, stored]
        by_cases last : i = p.words
        · rw [if_pos last, last, ← packed.waiting, List.take_of_length_le (by omega)]
        · rw [if_neg last, packed.stored i (by omega)]
      exact take_bytesOfWords stored (by omega)

theorem length_trailer_le (s : TransferSettings) (crc : UInt16) : (trailer s crc).length ≤ 2 := by
  unfold trailer
  split
  · exact Nat.zero_le _
  · exact Nat.le_refl _

end Transfer
end Bridge
end SdBridge
