import SdBridge.Proofs.Bridge.Packing
import SdBridge.Proofs.Bridge.Traffic

/-!
The order of writes in a pass of the data loop. A pass that finds a command being dispatched or a
block going out does nothing. Any other pass fills the data buffer from its start, then tells POINTER
how many bytes there are, then starts the transmission by DATCTRL.
-/
namespace SdBridge.Bridge

def laid (words : List UInt32) : List Access :=
  words.mapIdx fun i word => .writeBuffer (4 * i) word

theorem laid_append (words : List UInt32) (word : UInt32) :
    laid (words ++ [word]) = laid words ++ [.writeBuffer (4 * words.length) word] := by
  simp [laid, List.mapIdx_append]

/-- The bytes of a block: those taken from the source, with their CRC16 where software computes it. -/
def outgoing (s : TransferSettings) (taken : List UInt8) : List UInt8 :=
  taken ++ Transfer.trailer s (Crc.crc16 taken)

def pointing (s : TransferSettings) (taken : List UInt8) : Access :=
  .writeRegister Offset.pointer (pointerWord 0 (outgoing s taken).length.toUInt16)

def starting (s : TransferSettings) : Access :=
  .writeRegister Offset.dataControl (DataControl.word (Transfer.flags s) .none)

namespace Pumped

structure Open (k : Pumped) : Prop where
  calm : k.busy = false
  idle : ∃ word, k.control = some word ∧ word &&& DataControl.send = 0

/-- The pass found a command being dispatched, or a block going out. -/
def Halted (k : Pumped) : Prop :=
  k.busy = true ∨ ∃ word, k.control = some word ∧ word &&& DataControl.send ≠ 0

/-- Words that make up a block, the last of them filled up with zeros. -/
structure BlockOf (s : TransferSettings) (taken : List UInt8) (words : List UInt32) : Prop where
  some : taken ≠ []
  limit : taken.length ≤ s.maxBytes
  bytes : outgoing s taken <+: words.flatMap bytesOfWord

inductive Stage (s : TransferSettings) (k : Pumped) : Prop where
  | fresh (unread : k.control = none) (taken : k.taken = []) (writes : k.writes = [])
  | blocked (word : UInt32) (control : k.control = some word)
      (sending : word &&& DataControl.send ≠ 0) (taken : k.taken = []) (writes : k.writes = [])
  | filling (free : k.Open) (words : List UInt32) (writes : k.writes = laid words)
  | pointed (free : k.Open) (words : List UInt32) (block : BlockOf s k.taken words)
      (writes : k.writes = laid words ++ [pointing s k.taken])
  | started (free : k.Open) (words : List UInt32) (block : BlockOf s k.taken words)
      (writes : k.writes = laid words ++ [pointing s k.taken, starting s])

def Order (s : TransferSettings) (access : Access) (k : Pumped) : Prop :=
  OfData access ∧ k.Stage s ∧ (access = .inFlight → k.control = none)

inductive Told (s : TransferSettings) (k : Pumped) : Transfer → Prop where
  | nothing (taken : k.taken = []) (writes : k.writes = []) : Told s k {}
  | queued (words : List UInt32) (block : BlockOf s k.taken words)
      (writes : k.writes = laid words ++ [pointing s k.taken, starting s]) :
      Told s k ⟨(outgoing s k.taken).length, words.length⟩

structure Packs (bytes : List UInt8) (p : Transfer.Packer) (k : Pumped) : Prop where
  free : k.Open
  words : ∃ words, k.writes = laid words ∧ p.words = words.length ∧
    words.flatMap bytesOfWord ++ p.waiting = bytes
  few : p.waiting.length < 4

end Pumped

namespace Transfer

open Loop Pumped

variable {s : TransferSettings} {k : Pumped} {p : Packer} {bytes : List UInt8}

theorem length_flatMap_bytesOfWord (words : List UInt32) :
    (words.flatMap bytesOfWord).length = 4 * words.length := by
  induction words with
  | nil => rfl
  | cons word words ih =>
    rw [List.flatMap_cons, List.length_append, ih, List.length_cons, bytesOfWord]
    simp only [List.length_cons, List.length_nil]
    omega

theorem bytes_of_packs (packs : Packs bytes p k) : p.bytes = bytes.length := by
  obtain ⟨words, -, count, whole⟩ := packs.words
  rw [Packer.bytes, ← whole, List.length_append, length_flatMap_bytesOfWord, count]

/-- Before the first byte no word is full, and none was written. -/
theorem unwritten_of_packs (packs : Packs [] p k) : k.writes = [] := by
  obtain ⟨words, writes, -, whole⟩ := packs.words
  have length := congrArg List.length whole
  rw [List.length_append, length_flatMap_bytesOfWord, List.length_nil] at length
  have empty : words = [] := List.eq_nil_of_length_eq_zero (by omega)
  rw [writes, empty]
  rfl

/-- A word goes to the place after the words before it. -/
theorem conducts_writeWord {words : List UInt32} (free : k.Open) (writes : k.writes = laid words)
    (word : UInt32) {β : Type} {q : Unit → Loop β} {post : Pumped → β → Prop}
    (rest : ∀ k', k' = { k with writes := laid (words ++ [word]) } →
      (q ()).Conducts Pumped.note (Order s) post k') :
    (writeBuffer (4 * words.length) word >>= q).Conducts Pumped.note (Order s) post k := by
  have noted : Pumped.note (.writeBuffer (4 * words.length) word) () k =
      { k with writes := laid (words ++ [word]) } := by
    simp only [Pumped.note, writes, laid_append]
  intro _
  rw [noted]
  exact ⟨⟨trivial, .filling ⟨free.calm, free.idle⟩ _ rfl, nofun⟩, rest _ rfl⟩

theorem conducts_push (packs : Packs bytes p k) (byte : UInt8) :
    (p.push byte).Conducts Pumped.note (Order s)
      (fun k' p' => k' = { k with writes := k'.writes } ∧ Packs (bytes ++ [byte]) p' k') k := by
  obtain ⟨words, writes, count, whole⟩ := packs.words
  have few := packs.few
  simp only [Packer.push]
  by_cases full : (p.waiting ++ [byte]).length = 4
  · rw [if_pos full, count]
    refine conducts_writeWord packs.free writes _ ?_
    rintro _ rfl
    refine Program.conducts_pure ⟨rfl, ⟨packs.free.calm, packs.free.idle⟩, ?_,
      Nat.zero_lt_succ _⟩
    refine ⟨_, rfl, by simp, ?_⟩
    have packed := bytesOfWord_packedWord (Nat.le_of_eq full)
    rw [full, Nat.sub_self, List.replicate_zero, List.append_nil] at packed
    rw [List.flatMap_append, List.flatMap_cons, packed, ← whole]
    simp
  · rw [if_neg full]
    rw [List.length_append, List.length_singleton] at full
    refine Program.conducts_pure ⟨rfl, packs.free, ⟨words, writes, count, ?_⟩, ?_⟩
    · rw [← whole, List.append_assoc]
    · simp only [List.length_append, List.length_singleton]
      omega

theorem conducts_pushAll (more : List UInt8) (packs : Packs bytes p k) :
    (p.pushAll more).Conducts Pumped.note (Order s)
      (fun k' p' => k' = { k with writes := k'.writes } ∧ Packs (bytes ++ more) p' k') k := by
  induction more generalizing bytes p k with
  | nil => exact Program.conducts_pure ⟨rfl, by simpa using packs⟩
  | cons byte rest ih =>
    refine Program.conducts_bind (conducts_push packs byte) ?_
    rintro k' p' ⟨same, packs'⟩
    refine Program.conducts_mono (ih packs') ?_
    rintro k'' p'' ⟨same', packs''⟩
    refine ⟨?_, by simpa using packs''⟩
    rw [same', same]

/-- In the end all bytes are in the data buffer, and zeros after them. -/
theorem conducts_finish (packs : Packs bytes p k) :
    p.finish.Conducts Pumped.note (Order s) (fun k' t => k' = { k with writes := k'.writes } ∧
      ∃ words, k'.writes = laid words ∧
        (∃ padding < 4, words.flatMap bytesOfWord = bytes ++ List.replicate padding 0) ∧
        t = ⟨bytes.length, words.length⟩) k := by
  obtain ⟨words, writes, count, whole⟩ := packs.words
  have length := bytes_of_packs packs
  simp only [Packer.finish]
  by_cases none : p.waiting = []
  · rw [if_pos none]
    rw [none, List.append_nil] at whole
    exact Program.conducts_pure ⟨rfl, words, writes,
      ⟨0, Nat.zero_lt_succ _, whole.trans (List.append_nil bytes).symm⟩, by rw [length, count]⟩
  · rw [if_neg none, count]
    refine conducts_writeWord packs.free writes _ ?_
    rintro _ rfl
    refine Program.conducts_pure ⟨rfl, _, rfl, ⟨4 - p.waiting.length, ?_, ?_⟩, by simp [length]⟩
    · have some := List.length_pos_iff.2 none
      omega
    · rw [List.flatMap_append, List.flatMap_cons, List.flatMap_nil, List.append_nil,
        bytesOfWord_packedWord (Nat.le_of_lt packs.few), ← List.append_assoc, whole]

/-- Bytes are taken one by one, at most up to the limit, and all of them are packed. -/
theorem conducts_fill (limit : Nat) (packs : Packs k.taken p k) :
    (fill limit p (Crc.crc16 k.taken)).Conducts Pumped.note (Order s)
      (fun k' out => Packs k'.taken out.1 k' ∧ out.2 = Crc.crc16 k'.taken ∧
        k'.taken.length ≤ k.taken.length + limit) k := by
  -- The CRC16 and the packer go along with the bytes taken so far, which may be of any number.
  induction limit generalizing k p with
  | zero => exact Program.conducts_pure ⟨packs, rfl, Nat.le_refl _⟩
  | succ limit ih =>
    obtain ⟨words, writes, -⟩ := packs.words
    have filling (taken : List UInt8) : Stage s { k with taken } :=
      .filling ⟨packs.free.calm, packs.free.idle⟩ words writes
    refine Program.conducts_access_bind fun more => ⟨⟨trivial, filling k.taken, nofun⟩, ?_⟩
    by_cases offered : more = true
    · rw [if_pos offered]
      refine Program.conducts_access_bind fun byte => ⟨⟨trivial, filling _, nofun⟩, ?_⟩
      have kept : Packs k.taken p { k with taken := k.taken ++ [byte] } :=
        ⟨⟨packs.free.calm, packs.free.idle⟩, packs.words, packs.few⟩
      refine Program.conducts_bind (conducts_push kept byte) ?_
      rintro k' p' ⟨same, packs'⟩
      have taken : k'.taken = k.taken ++ [byte] := congrArg Pumped.taken same
      rw [← taken] at packs'
      have checked : Crc.update16 Crc.polynomial16 (Crc.crc16 k.taken) [byte] =
          Crc.crc16 k'.taken := by
        rw [taken, Crc.crc16, Crc.crc16, Crc.update16_append]
      rw [checked]
      refine Program.conducts_mono (ih packs') ?_
      rintro k'' out ⟨packs'', crc, few⟩
      rw [taken, List.length_append, List.length_singleton] at few
      exact ⟨packs'', crc, by omega⟩
    · rw [if_neg offered]
      exact Program.conducts_pure ⟨packs, rfl, Nat.le_add_right ..⟩

/-- A block is started once all of it is in the data buffer and POINTER tells its length. -/
theorem conducts_launch {words : List UInt32} (free : k.Open) (block : BlockOf s k.taken words)
    (writes : k.writes = laid words) :
    (do
      writeRegister Offset.pointer (pointerWord 0 (outgoing s k.taken).length.toUInt16)
      writeRegister Offset.dataControl (DataControl.word (flags s) .none)
      tell (queued (outgoing s k.taken).length)
      pure ⟨(outgoing s k.taken).length, words.length⟩ : Loop Transfer).Conducts Pumped.note (Order s)
      (Told s) k := by
  have pointer : Offset.pointer ∈ dataRegisters := by decide
  have control : Offset.dataControl ∈ dataRegisters := by decide
  have pointed : Pumped.note (.writeRegister Offset.pointer
      (pointerWord 0 (outgoing s k.taken).length.toUInt16)) () k =
        { k with writes := laid words ++ [pointing s k.taken] } := by
    rw [Pumped.note, writes, if_neg (by decide)]
    rfl
  have started : Pumped.note (.writeRegister Offset.dataControl
      (DataControl.word (flags s) .none)) () { k with writes := laid words ++ [pointing s k.taken] } =
        { k with
          writes := laid words ++ [pointing s k.taken, starting s], queued := some k.taken } := by
    rw [Pumped.note, if_pos rfl, List.append_assoc]
    rfl
  have still : Open { k with
      writes := laid words ++ [pointing s k.taken, starting s], queued := some k.taken } :=
    ⟨free.calm, free.idle⟩
  intro _
  rw [pointed]
  refine ⟨⟨pointer, .pointed ⟨free.calm, free.idle⟩ words block rfl, nofun⟩, fun _ => ?_⟩
  rw [started]
  refine ⟨⟨control, .started still words block rfl, nofun⟩, fun _ => ?_⟩
  exact ⟨⟨trivial, .started still words block rfl, nofun⟩, .queued words block rfl⟩

theorem conducts_send (free : k.Open) (fresh : k.taken = []) (unwritten : k.writes = []) :
    (send s).Conducts Pumped.note (Order s) (Told s) k := by
  have start : Packs k.taken {} k := ⟨free, ⟨[], unwritten, rfl, fresh.symm⟩, Nat.zero_lt_succ _⟩
  have filled := conducts_fill (s := s) s.maxBytes start
  rw [fresh] at filled
  refine Program.conducts_bind filled ?_
  rintro k' ⟨packer, crc⟩ ⟨packs, rfl, limit⟩
  rw [List.length_nil, Nat.zero_add] at limit
  have count := bytes_of_packs packs
  dsimp only at packs count ⊢
  by_cases none : packer.bytes = 0
  · rw [if_pos none]
    have taken : k'.taken = [] := List.eq_nil_of_length_eq_zero (count.symm.trans none)
    exact Program.conducts_pure (.nothing taken (unwritten_of_packs (taken ▸ packs)))
  · rw [if_neg none]
    have some : k'.taken ≠ [] := fun taken => none (by rw [count, taken, List.length_nil])
    refine Program.conducts_bind (conducts_pushAll _ packs) ?_
    rintro k₂ packer₂ ⟨same₂, packs₂⟩
    refine Program.conducts_bind (conducts_finish packs₂) ?_
    rintro k₃ t ⟨same₃, words, writes, ⟨padding, -, whole⟩, rfl⟩
    have taken : k₃.taken = k'.taken := by rw [same₃, same₂]
    have free₃ : k₃.Open := by
      rw [same₃]
      exact ⟨packs₂.free.calm, packs₂.free.idle⟩
    have block : BlockOf s k₃.taken words := by
      rw [taken]
      exact ⟨some, limit, whole ▸ List.prefix_append ..⟩
    have launched := conducts_launch free₃ block writes
    rwa [taken] at launched

/-- A pass of the data loop keeps to its order, whatever it is answered. -/
theorem conducts_pump (s : TransferSettings) (unread : k.control = none) (fresh : k.taken = [])
    (unwritten : k.writes = []) : (pump s).Conducts Pumped.note (Order s) (Told s) k := by
  have control : Offset.dataControl ∈ dataRegisters := by decide
  intro busy
  refine ⟨⟨trivial, .fresh unread fresh unwritten, fun _ => unread⟩, ?_⟩
  change Program.Conducts _ _ _ (if busy = true then _ else _) ({ k with busy } : Pumped)
  by_cases raised : busy = true
  · rw [if_pos raised]
    exact Program.conducts_pure (.nothing fresh unwritten)
  · rw [if_neg raised]
    intro word
    have noted : Pumped.note (.readRegister Offset.dataControl) word { k with busy } =
        { k with busy, control := some word } := rfl
    rw [noted]
    by_cases sending : word &&& DataControl.send ≠ 0
    · refine ⟨⟨control, .blocked word rfl sending fresh unwritten, nofun⟩, ?_⟩
      change Program.Conducts _ _ _ (if word &&& DataControl.send ≠ 0 then _ else _) _
      rw [if_pos sending]
      exact Program.conducts_pure (.nothing fresh unwritten)
    · have free : Open { k with busy, control := some word } :=
        ⟨eq_false_of_ne_true raised, word, rfl, not_not.1 sending⟩
      refine ⟨⟨control, .filling free [] unwritten, nofun⟩, ?_⟩
      change Program.Conducts _ _ _ (if word &&& DataControl.send ≠ 0 then _ else _) _
      rw [if_neg sending]
      exact conducts_send free fresh unwritten

end Transfer
end SdBridge.Bridge
