import SdBridge.Proofs.Bridge.Queueing

/-!
What holds of the data buffer, POINTER and DATCTRL between any two accesses. The words that a pass of
the data loop has written are in place, and if a block is going out, it is the one started last. Each
access of either loop keeps this, and leaves a block that is going out as it is.
-/
namespace SdBridge.Bridge

namespace Pumped

def words (k : Pumped) : List UInt32 :=
  k.writes.filterMap fun
    | .writeBuffer _ word => some word
    | _ => none

/-- The pass may still write: it found nothing in its way, and has not started a block yet. -/
structure Preparing (k : Pumped) : Prop where
  free : k.Open
  ahead : ∀ value, .writeRegister Offset.dataControl value ∉ k.writes

/-- Before it has read DATCTRL, a pass writes nothing. -/
theorem Preparing.read {k : Pumped} (preparing : k.Preparing) : k.control ≠ none := by
  obtain ⟨word, control, -⟩ := preparing.free.idle
  rw [control]
  exact Option.some_ne_none word

theorem words_laid (words : List UInt32) : (laid words).filterMap (fun
    | .writeBuffer _ word => some word
    | _ => none) = words := by
  induction words using List.reverseRecOn with
  | nil => rfl
  | append_singleton words word ih => rw [laid_append, List.filterMap_append, ih]; rfl

theorem not_mem_laid {offset : Nat} {value : UInt32} (words : List UInt32) :
    .writeRegister offset value ∉ laid words := by
  simp [laid]

variable {s : TransferSettings} {k k' : Pumped}

/-- A pass that found something in its way has done nothing. -/
theorem Stage.idle (stage : k.Stage s) (halted : k.Halted) : k.taken = [] ∧ k.writes = [] := by
  have shut : ¬k.Open := by
    rintro ⟨calm, word, control, idle⟩
    rcases halted with busy | ⟨other, read, sending⟩
    · rw [calm] at busy
      cases busy
    · rw [control] at read
      cases read
      exact sending idle
  cases stage with
  | fresh _ taken writes | blocked _ _ _ taken writes => exact ⟨taken, writes⟩
  | filling free | pointed free | started free => exact absurd free shut

inductive Last (s : TransferSettings) (taken : List UInt8) (earlier : List Access) : Access → Prop where
  | word (words : List UInt32) (value : UInt32) (before : earlier = laid words) :
      Last s taken earlier (.writeBuffer (4 * words.length) value)
  | pointer (words : List UInt32) (block : BlockOf s taken words) (before : earlier = laid words) :
      Last s taken earlier (pointing s taken)
  | start (words : List UInt32) (block : BlockOf s taken words)
      (before : earlier = laid words ++ [pointing s taken]) : Last s taken earlier (starting s)

theorem Stage.last (stage : k.Stage s) {earlier : List Access} {access : Access}
    (writes : k.writes = earlier ++ [access]) : k.Open ∧ Last s k.taken earlier access := by
  have split {left right : List Access} {a b : Access} (same : left ++ [a] = right ++ [b]) :
      left = right ∧ a = b := by
    obtain ⟨front, last⟩ := List.append_inj' same rfl
    exact ⟨front, List.singleton_inj.1 last⟩
  cases stage with
  | fresh _ _ none | blocked _ _ _ _ none => simp [none] at writes
  | filling free words laid_ =>
    rcases List.eq_nil_or_concat words with rfl | ⟨before, value, rfl⟩
    · rw [laid_] at writes
      simp [laid] at writes
    · rw [laid_, List.concat_eq_append, laid_append] at writes
      obtain ⟨front, rfl⟩ := split writes
      exact ⟨free, .word before value front.symm⟩
  | pointed free words block pointed =>
    rw [pointed] at writes
    obtain ⟨front, rfl⟩ := split writes
    exact ⟨free, .pointer words block front.symm⟩
  | started free words block started =>
    rw [started, List.append_cons] at writes
    obtain ⟨front, rfl⟩ := split writes
    exact ⟨free, .start words block front.symm⟩

/-- A register is written to tell the length of a block or to start it. -/
theorem Last.register {taken : List UInt8} {earlier : List Access} {offset : Nat} {value : UInt32}
    (last : Last s taken earlier (.writeRegister offset value)) :
    (.writeRegister offset value = pointing s taken ∧ ∃ words, earlier = laid words) ∨
      (.writeRegister offset value = starting s ∧
        ∃ words, BlockOf s taken words ∧ earlier = laid words ++ [pointing s taken]) := by
  generalize same : Access.writeRegister offset value = access at last
  cases last with
  | word => cases same
  | pointer words _ before => exact .inl ⟨rfl, words, before⟩
  | start words block before => exact .inr ⟨rfl, words, block, before⟩

/-- Before it writes, a pass has started nothing. -/
theorem Last.ahead {taken : List UInt8} {earlier : List Access} {access : Access}
    (last : Last s taken earlier access) (value : UInt32) :
    .writeRegister Offset.dataControl value ∉ earlier := by
  cases last with
  | word words _ before | pointer words _ before =>
    rw [before]
    exact not_mem_laid words
  | start words block before =>
    rw [before, List.mem_append, List.mem_singleton]
    rintro (early | same)
    · exact not_mem_laid words early
    · simp [pointing, Offset.dataControl, Offset.pointer] at same

end Pumped

variable {π : Type}

def Sending (b : Bridge π) : Prop :=
  b.registers.word Offset.dataControl &&& DataControl.send ≠ 0

structure Holds (s : TransferSettings) (taken : List UInt8) (b : Bridge π) : Prop where
  some : taken ≠ []
  limit : taken.length ≤ s.maxBytes
  buffer : outgoing s taken <+: b.buffer.bytes
  pointer : b.registers.word Offset.pointer = pointerWord 0 (outgoing s taken).length.toUInt16

/-- What holds of the data side between any two accesses. `calm` says that no block was going out at
the start. -/
structure Settled (s : TransferSettings) (calm : Prop) (b : Bridge π) (k : Pumped) : Prop where
  plainPointer : Offset.pointer ∉ b.registers.clearOnOne
  plainControl : Offset.dataControl ∉ b.registers.clearOnOne
  plainBuffer : b.buffer.clearOnOne = []
  stage : k.Stage s
  idle : k.Preparing → ¬Sending b
  words : k.words <+: b.buffer.words.toList
  pointer : ∀ value, .writeRegister Offset.pointer value ∈ k.writes →
    b.registers.word Offset.pointer = value
  queued : Sending b → ∀ taken, k.queued = some taken → Holds s taken b
  known : calm → Sending b → k.queued ≠ none

variable {s : TransferSettings} {calm : Prop} {b b' : Bridge π} {k k' : Pumped}

/-- A bridge with the same block in place, which may have been sent meanwhile. -/
theorem Settled.congr (settled : Settled s calm b k)
    (pointer : b'.registers.word Offset.pointer = b.registers.word Offset.pointer)
    (control : Sending b' → Sending b) (clears : b'.registers.clearOnOne = b.registers.clearOnOne)
    (buffer : b'.buffer.words = b.buffer.words)
    (plain : b'.buffer.clearOnOne = b.buffer.clearOnOne) : Settled s calm b' k where
  plainPointer := clears ▸ settled.plainPointer
  plainControl := clears ▸ settled.plainControl
  plainBuffer := plain.trans settled.plainBuffer
  stage := settled.stage
  idle preparing sending := settled.idle preparing (control sending)
  words := buffer ▸ settled.words
  pointer value listed := pointer.trans (settled.pointer value listed)
  queued sending taken found := by
    obtain ⟨some, limit, bytes, told⟩ := settled.queued (control sending) taken found
    refine ⟨some, limit, ?_, pointer.trans told⟩
    rwa [RegisterFile.bytes, buffer]
  known start sending := settled.known start (control sending)

/-- An account that reads or takes something, with no write. -/
theorem Settled.read (settled : Settled s calm b k) (stage : k'.Stage s)
    (writes : k'.writes = k.writes) (queued : k'.queued = k.queued)
    (idle : k'.Preparing → ¬Sending b) : Settled s calm b k' where
  plainPointer := settled.plainPointer
  plainControl := settled.plainControl
  plainBuffer := settled.plainBuffer
  stage := stage
  idle := idle
  words := by
    rw [Pumped.words, writes]
    exact settled.words
  pointer := by
    rw [writes]
    exact settled.pointer
  queued := by
    rw [queued]
    exact settled.queued
  known := by
    rw [queued]
    exact settled.known

/-- A pass that is about to write has found no block going out, and none was started since. -/
theorem Settled.free (settled : Settled s calm b k) (free : k.Open) {access : Access}
    (last : Pumped.Last s k.taken k.writes access) : ¬Sending b :=
  settled.idle ⟨free, last.ahead⟩

theorem prefix_set {old l : List UInt32} (laid : old <+: l) (inside : old.length < l.length)
    (value : UInt32) : old ++ [value] <+: l.set old.length value := by
  obtain ⟨rest, rfl⟩ := laid
  cases rest with
  | nil => simp at inside
  | cons first rest =>
    rw [List.set_append_right _ _ (Nat.le_refl _), Nat.sub_self, List.set_cons_zero]
    exact ⟨rest, List.append_assoc ..⟩

variable [Responder π] [ByteSource π]

theorem settled_writeBuffer (settled : Settled s calm b k) {offset : Nat} {value : UInt32}
    (performed : perform (.writeBuffer offset value) b = (.ok (), b'))
    (stage : (Pumped.note (.writeBuffer offset value) () k).Stage s) :
    Settled s calm b' (Pumped.note (.writeBuffer offset value) () k) ∧ ¬Sending b := by
  obtain ⟨free, last⟩ := stage.last rfl
  have quiet : ¬Sending b := settled.free ⟨free.calm, free.idle⟩ last
  refine ⟨?_, quiet⟩
  have after : b' = { b with buffer := (b.buffer.write offset value).2 } :=
    (congrArg Prod.snd performed).symm
  have written : (b.buffer.write offset value).1 = .ok () := congrArg Prod.fst performed
  obtain ⟨aligned, inside⟩ := RegisterFile.inside_of_write written
  have stored := RegisterFile.words_write_of_inside aligned inside
    (by simp [settled.plainBuffer]) value
  have place : 4 * k.words.length = offset := by
    cases last with
    | word words _ before => rw [Pumped.words, before, Pumped.words_laid]
  subst after
  refine ⟨settled.plainPointer, settled.plainControl, ?_, stage, fun _ => quiet, ?_, ?_,
    fun sending => absurd sending quiet, fun _ sending => absurd sending quiet⟩
  · rw [RegisterFile.clearOnOne_write, settled.plainBuffer]
  · have index : offset / 4 = k.words.length := by omega
    rw [stored, Array.toList_setIfInBounds, index]
    have extended : (Pumped.note (.writeBuffer offset value) () k).words = k.words ++ [value] := by
      simp [Pumped.words, Pumped.note]
    rw [extended]
    exact prefix_set settled.words (by rw [← index, Array.length_toList]; exact inside) value
  · intro other listed
    refine settled.pointer other ?_
    simpa [Pumped.note] using listed

theorem settled_pointing (settled : Settled s calm b k) {taken : List UInt8} {words : List UInt32}
    (performed : perform (pointing s taken) b = (.ok (), b')) (before : k.writes = laid words)
    (stage : (Pumped.note (pointing s taken) () k).Stage s) (quiet : ¬Sending b) :
    Settled s calm b' (Pumped.note (pointing s taken) () k) := by
  unfold pointing at performed
  generalize told : pointerWord 0 (outgoing s taken).length.toUInt16 = length at performed
  have after : b' = { b with registers := (b.registers.write Offset.pointer length).2 } :=
    (congrArg Prod.snd performed).symm
  have written : (b.registers.write Offset.pointer length).1 = .ok () := congrArg Prod.fst performed
  obtain ⟨aligned, inside⟩ := RegisterFile.inside_of_write written
  subst after
  have still : ¬Sending { b with registers := (b.registers.write Offset.pointer length).2 } := by
    intro sending
    refine quiet ?_
    rwa [Sending, RegisterFile.word_write, if_neg fun hit => absurd hit.2.2 (by decide)] at sending
  refine ⟨?_, ?_, settled.plainBuffer, stage, fun _ => still, ?_, ?_,
    fun sending => absurd sending still, fun _ sending => absurd sending still⟩
  · rw [RegisterFile.clearOnOne_write]
    exact settled.plainPointer
  · rw [RegisterFile.clearOnOne_write]
    exact settled.plainControl
  · have same : (Pumped.note (pointing s taken) () k).words = k.words := by
      simp [Pumped.words, Pumped.note, pointing]
    rw [same]
    exact settled.words
  · intro value listed
    rw [RegisterFile.word_write, if_pos ⟨aligned, inside, rfl⟩,
      RegisterFile.stored_plain settled.plainPointer]
    rcases List.mem_append.1 listed with early | last
    · rw [before] at early
      exact absurd early (Pumped.not_mem_laid words)
    · exact told.symm.trans (Access.writeRegister.inj (List.mem_singleton.1 last)).2.symm

theorem settled_starting (settled : Settled s calm b k) {words : List UInt32}
    (performed : perform (starting s) b = (.ok (), b')) (block : Pumped.BlockOf s k.taken words)
    (before : k.writes = laid words ++ [pointing s k.taken])
    (stage : (Pumped.note (starting s) () k).Stage s) :
    Settled s calm b' (Pumped.note (starting s) () k) := by
  have after : b' = { b with registers := (b.registers.write Offset.dataControl
      (DataControl.word (Transfer.flags s) .none)).2 } := (congrArg Prod.snd performed).symm
  subst after
  have pointer : (b.registers.write Offset.dataControl
      (DataControl.word (Transfer.flags s) .none)).2.word Offset.pointer =
        b.registers.word Offset.pointer := by
    rw [RegisterFile.word_write, if_neg fun hit => absurd hit.2.2 (by decide)]
  have queued : (Pumped.note (starting s) () k).queued = some k.taken := by
    simp [Pumped.note, starting]
  refine ⟨?_, ?_, settled.plainBuffer, stage, ?_, ?_, ?_, ?_, ?_⟩
  · rw [RegisterFile.clearOnOne_write]
    exact settled.plainPointer
  · rw [RegisterFile.clearOnOne_write]
    exact settled.plainControl
  · intro preparing
    refine absurd ?_ (preparing.ahead (DataControl.word (Transfer.flags s) .none))
    simp [Pumped.note, starting]
  · have same : (Pumped.note (starting s) () k).words = k.words := by
      simp [Pumped.words, Pumped.note, starting]
    rw [same]
    exact settled.words
  · intro value listed
    refine pointer.trans (settled.pointer value ?_)
    rcases List.mem_append.1 listed with early | last
    · exact early
    · exact absurd (Access.writeRegister.inj (List.mem_singleton.1 last)).1 (by decide)
  · intro _ taken found
    rw [queued] at found
    cases found
    refine ⟨block.some, block.limit, ?_, pointer.trans (settled.pointer _ ?_)⟩
    · have own : k.words = words := by
        rw [Pumped.words, before, List.filterMap_append, Pumped.words_laid]
        simp [pointing]
      obtain ⟨rest, whole⟩ := settled.words
      rw [RegisterFile.bytes, ← whole, own, List.flatMap_append]
      exact block.bytes.trans (List.prefix_append ..)
    · rw [before]
      exact List.mem_append_right _ (List.mem_singleton.2 rfl)
  · intro _ _
    rw [queued]
    exact Option.some_ne_none _

theorem settled_writeRegister (settled : Settled s calm b k) {offset : Nat} {value : UInt32}
    (performed : perform (.writeRegister offset value) b = (.ok (), b'))
    (stage : (Pumped.note (.writeRegister offset value) () k).Stage s) :
    Settled s calm b' (Pumped.note (.writeRegister offset value) () k) ∧ ¬Sending b := by
  obtain ⟨free, last⟩ := stage.last rfl
  have quiet : ¬Sending b := settled.free ⟨free.calm, free.idle⟩ last
  refine ⟨?_, quiet⟩
  replace last : Pumped.Last s k.taken k.writes (.writeRegister offset value) := last
  rcases last.register with ⟨same, words, before⟩ | ⟨same, words, block, before⟩
  · obtain ⟨rfl, rfl⟩ := Access.writeRegister.inj same
    exact settled_pointing settled performed before stage quiet
  · obtain ⟨rfl, rfl⟩ := Access.writeRegister.inj same
    exact settled_starting settled performed block before stage

structure SameBlock (b b' : Bridge π) : Prop where
  buffer : b'.buffer.words = b.buffer.words
  pointer : b'.registers.word Offset.pointer = b.registers.word Offset.pointer

/-- An access that writes no register of the data side and no word of the buffer. -/
theorem settled_perform {access : Access} (settled : Settled s calm b k)
    (register : ∀ own ∈ dataRegisters, ∀ offset value, access = .writeRegister offset value →
      own / 4 ≠ offset / 4)
    (buffer : ∀ offset value, access ≠ .writeBuffer offset value) :
    Settled s calm (perform access b).2 k ∧ SameBlock b (perform access b).2 := by
  have pointer := word_perform (b := b) (register Offset.pointer (by decide))
  have control := word_perform (b := b) (register Offset.dataControl (by decide))
  have same : (perform access b).2.buffer.words = b.buffer.words :=
    congrArg _ (buffer_perform buffer)
  refine ⟨settled.congr pointer ?_ (clearOnOne_perform ..) same (buffer_clearOnOne_perform ..),
    same, pointer⟩
  rw [Sending, control]
  exact id

/-- A step of the command loop leaves the block where it is. -/
theorem settled_of_commands {access : Access} (settled : Settled s calm b k)
    (of : OfCommands access) :
    Settled s calm (perform access b).2 k ∧ SameBlock b (perform access b).2 := by
  refine settled_perform settled ?_ ?_
  · rintro own listed offset value rfl
    exact (apart_of_registers of listed).symm
  · rintro offset value rfl
    exact of

/-- An access that faults leaves the block where it is. -/
theorem settled_of_fault {access : Access} {fault : Fault} (settled : Settled s calm b k)
    (performed : perform access b = (.error fault, b')) : Settled s calm b' k ∧ SameBlock b b' := by
  obtain ⟨words, buffer⟩ := words_of_fault performed
  have after : b' = (perform access b).2 := by rw [performed]
  refine ⟨settled.congr (words _) ?_ ?_ buffer ?_, buffer, words _⟩
  · rw [Sending, words]
    exact id
  · rw [after, clearOnOne_perform]
  · rw [after, buffer_clearOnOne_perform]

/-- A step of the data loop that stays in order disturbs no block that is going out. -/
theorem settled_of_answered {access : Access} {answer : access.Answer} (settled : Settled s calm b k)
    (performed : perform access b = (.ok answer, b'))
    (ordered : Pumped.Order s access (Pumped.note access answer k)) :
    Settled s calm b' (Pumped.note access answer k) ∧ (Sending b → SameBlock b b') := by
  obtain ⟨of, stage, unread⟩ := ordered
  have after : b' = (perform access b).2 := by rw [performed]
  have silent (register : ∀ offset value, access ≠ .writeRegister offset value)
      (buffer : ∀ offset value, access ≠ .writeBuffer offset value) :
      Settled s calm b' k ∧ SameBlock b b' := by
    rw [after]
    exact settled_perform settled (fun _ _ offset value same => absurd same (register offset value))
      buffer
  cases access with
  | writeBuffer offset value =>
    obtain ⟨settled, quiet⟩ := settled_writeBuffer settled performed stage
    exact ⟨settled, fun sending => absurd sending quiet⟩
  | writeRegister offset value =>
    obtain ⟨settled, quiet⟩ := settled_writeRegister settled performed stage
    exact ⟨settled, fun sending => absurd sending quiet⟩
  | readRegister offset =>
    obtain ⟨settled', same⟩ := silent nofun nofun
    refine ⟨?_, fun _ => same⟩
    by_cases own : offset = Offset.dataControl
    · have noted : Pumped.note (.readRegister offset) answer k = { k with control := some answer } :=
        if_pos own
      rw [noted] at stage ⊢
      -- The pass prepares a block only if DATCTRL shows SEND clear, and the answer is what it shows.
      refine settled'.read stage rfl rfl ?_
      rintro ⟨⟨-, word, control, idle⟩, -⟩ sending
      have read : (b.registers.read offset).1 = .ok answer := congrArg Prod.fst performed
      cases control
      rw [RegisterFile.word_of_read read, own] at idle
      rw [after] at sending
      change (b.registers.read offset).2.word Offset.dataControl &&& DataControl.send ≠ 0 at sending
      rw [RegisterFile.word_read] at sending
      exact sending idle
    · have noted : Pumped.note (.readRegister offset) answer k = k := if_neg own
      rw [noted] at stage ⊢
      exact settled'
  | inFlight =>
    obtain ⟨settled', same⟩ := silent nofun nofun
    -- The flag is looked at before DATCTRL is read.
    refine ⟨settled'.read stage rfl rfl fun preparing => ?_, fun _ => same⟩
    exact absurd (unread rfl) preparing.read
  | nextByte =>
    obtain ⟨settled', same⟩ := silent nofun nofun
    refine ⟨settled'.read stage rfl rfl ?_, fun _ => same⟩
    rintro ⟨⟨calm, idle⟩, ahead⟩
    exact settled'.idle ⟨⟨calm, idle⟩, ahead⟩
  | dataReady | log entry =>
    obtain ⟨settled', same⟩ := silent nofun nofun
    exact ⟨settled', fun _ => same⟩
  | setInFlight raised | dispatch request response | takeBlockRequest | clock | publish record
  | stopRequested | sleep time => exact of.elim

/-- What one step of the data loop does to a block. -/
theorem settled_of_stepped (settled : Settled s calm b k)
    (stepped : Program.Stepped perform Pumped.note (Pumped.Order s) b k b' k') :
    Settled s calm b' k' ∧ (Sending b → SameBlock b b') := by
  cases stepped with
  | still => exact ⟨settled, fun _ => ⟨rfl, rfl⟩⟩
  | answered performed ordered => exact settled_of_answered settled performed ordered
  | faulted performed =>
    obtain ⟨settled, same⟩ := settled_of_fault settled performed
    exact ⟨settled, fun _ => same⟩

end SdBridge.Bridge
