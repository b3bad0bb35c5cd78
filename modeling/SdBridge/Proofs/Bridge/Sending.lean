import SdBridge.Proofs.Bridge.Steady

/-!
What a pass of the data loop puts into the data buffer: the next bytes that the card owes for the
job posted last, as many as fit a block, with their CRC16 where software computes it.
-/
namespace SdBridge.Bridge

variable {β : Type} [Image.Store β] {contents : Image.Contents} {posts : Nat}
  {b b' b'' : Bridge (Card β)}

/-- A state after another with only bytes drawn from the card and put into the data buffer. -/
structure Drawn (contents : Image.Contents) (posts : Nat) (b b' : Bridge (Card β)) : Prop where
  steady : Steady contents posts b'
  registers : b'.registers = b.registers
  inFlight : b'.inFlight = b.inFlight
  commands : b'.engine.commands = b.engine.commands

theorem Drawn.trans (first : Drawn contents posts b b') (second : Drawn contents posts b' b'') :
    Drawn contents posts b b'' :=
  ⟨second.steady, second.registers.trans first.registers, second.inFlight.trans first.inFlight,
    second.commands.trans first.commands⟩

theorem drawn_of_buffer (steady : Steady contents posts b) (same : SameButBuffer b b')
    (roomy : Roomy b'.buffer) :
    Drawn contents posts b b' ∧ b'.engine.owed contents = b.engine.owed contents := by
  rw [same]
  exact ⟨⟨⟨steady.size, steady.status, roomy, steady.card, steady.shown, steady.calm⟩, rfl, rfl,
    rfl⟩, rfl⟩

theorem ends_dataReady (steady : Steady contents posts b) :
    Program.Ends perform Loop.dataReady b fun more b' =>
      more = decide (b.engine.owed contents ≠ []) ∧ Drawn contents posts b b' ∧
        b'.buffer = b.buffer ∧ b'.engine.owed contents = b.engine.owed contents ∧
        (b.engine.owed contents ≠ [] → b'.engine.data.unread ≠ []) ∧
        b'.engine.data.ticket = b'.engine.commands.posted := by
  obtain ⟨after, log, performed, still, rest, front, ticket⟩ := perform_dataReady steady
  have owed : Card.owed contents { b.engine with data := after } = after.rest contents :=
    Card.owed_of_ticket ticket
  exact Program.ends_access performed ⟨rfl, ⟨still, rfl, rfl, rfl⟩, rfl, owed.trans rest, front,
    ticket⟩

theorem ends_nextByte (steady : Steady contents posts b) (front : b.engine.data.unread ≠ [])
    (now : b.engine.data.ticket = b.engine.commands.posted) :
    Program.Ends perform Loop.nextByte b fun byte b' =>
      b.engine.owed contents = byte :: b'.engine.owed contents ∧ Drawn contents posts b b' ∧
        b'.buffer = b.buffer := by
  obtain ⟨byte, after, log, performed, still, rest, ticket⟩ := perform_nextByte steady front
  have left : Card.owed contents { b.engine with data := after } = after.rest contents :=
    Card.owed_of_ticket (ticket.trans now)
  refine Program.ends_access performed ⟨?_, ⟨still, rfl, rfl, rfl⟩, rfl⟩
  rw [Card.owed_of_ticket now, rest, ← left]

namespace Transfer

variable {bytes : List UInt8} {p : Packer}

/-- Filling a block takes the bytes owed from the front, up to its limit. -/
theorem ends_fill (limit : Nat) (crc : UInt16) (steady : Steady contents posts b)
    (packed : Packed bytes p b.buffer) (room : bytes.length + limit ≤ 512) :
    Program.Ends perform (fill limit p crc) b fun out b' =>
      Packed (bytes ++ (b.engine.owed contents).take limit) out.1 b'.buffer ∧
        out.2 = Crc.update16 Crc.polynomial16 crc ((b.engine.owed contents).take limit) ∧
        b'.engine.owed contents = (b.engine.owed contents).drop limit ∧
        Drawn contents posts b b' := by
  induction limit generalizing b bytes p crc with
  | zero =>
    exact Program.ends_pure ⟨by simpa using packed, rfl, rfl, steady, rfl, rfl, rfl⟩
  | succ limit ih =>
    refine Program.ends_bind (ends_dataReady steady) ?_
    rintro more b₁ ⟨rfl, drawn₁, buffer₁, owed₁, front, now⟩
    by_cases none : b.engine.owed contents = []
    · rw [if_neg (by simpa using none)]
      refine Program.ends_pure ⟨?_, ?_, ?_, drawn₁⟩
      · simpa only [none, List.take_nil, List.append_nil, buffer₁] using packed
      · simp [none]
      · simp [owed₁, none]
    · rw [if_pos (by simpa using none)]
      refine Program.ends_bind (ends_nextByte drawn₁.steady (front none) now) ?_
      rintro byte b₂ ⟨owed₂, drawn₂, buffer₂⟩
      have packed₂ : Packed bytes p b₂.buffer := buffer₂ ▸ buffer₁ ▸ packed
      refine Program.ends_bind (ends_push packed₂ (by omega) byte) ?_
      rintro p₃ b₃ ⟨same, packed₃⟩
      obtain ⟨drawn₃, owed₃⟩ := drawn_of_buffer drawn₂.steady same packed₃.roomy
      have owed : b.engine.owed contents = byte :: b₃.engine.owed contents := by
        rw [← owed₁, owed₂, owed₃]
      refine Program.ends_mono (ih _ drawn₃.steady packed₃ ?_) ?_
      · rw [List.length_append, List.length_singleton]
        omega
      · rintro ⟨p₄, crc₄⟩ b₄ ⟨packed₄, checked, left, drawn₄⟩
        rw [owed, List.take_succ_cons, List.drop_succ_cons]
        refine ⟨?_, ?_, left, drawn₁.trans (drawn₂.trans (drawn₃.trans drawn₄))⟩
        · simpa using packed₄
        · rw [checked, ← Crc.update16_append]
          rfl

/-- A block handed to the hardware: its bytes with their checksum are in the data buffer, POINTER
tells how many there are and DATCTRL starts the transmission. -/
structure Block (s : TransferSettings) (data : List UInt8) (t : Transfer) (b : Bridge (Card β)) :
    Prop where
  bytes : t.bytes = (data ++ trailer s (Crc.crc16 data)).length
  buffer : b.buffer.bytes.take t.bytes = data ++ trailer s (Crc.crc16 data)
  pointer : b.registers.word Offset.pointer = pointerWord 0 t.bytes.toUInt16
  control : b.registers.word Offset.dataControl = DataControl.word (flags s) .none

theorem ends_launch {s : TransferSettings} {t : Transfer} {data : List UInt8}
    (steady : Steady contents posts b)
    (bytes : t.bytes = (data ++ trailer s (Crc.crc16 data)).length)
    (buffer : b.buffer.bytes.take t.bytes = data ++ trailer s (Crc.crc16 data)) :
    Program.Ends perform (do
      Loop.writeRegister Offset.pointer (pointerWord 0 t.bytes.toUInt16)
      Loop.writeRegister Offset.dataControl (DataControl.word (flags s) .none)
      Loop.tell (queued t.bytes)
      pure t) b fun t' b' => t' = t ∧ Block s data t b' ∧ b'.engine = b.engine := by
  refine Program.ends_bind (ends_writeRegister steady (by decide) (by decide) _) ?_
  rintro - b₁ first
  refine Program.ends_bind (ends_writeRegister first.steady (by decide) (by decide) _) ?_
  rintro - b₂ second
  refine Program.ends_access_bind rfl ?_
  have plain (offset : Nat) (other : offset ≠ Offset.status) {a : Bridge (Card β)}
      (steady : Steady contents posts a) : offset ∉ a.registers.clearOnOne := by
    rw [steady.status, List.mem_singleton]
    exact other
  refine Program.ends_pure ⟨rfl, ⟨bytes, ?_, ?_, ?_⟩, ?_⟩
  · rw [second.same, first.same]
    exact buffer
  · change b₂.registers.word Offset.pointer = _
    rw [second.word, if_neg (by decide), first.word, if_pos rfl,
      RegisterFile.stored_plain (plain _ (by decide) steady)]
  · change b₂.registers.word Offset.dataControl = _
    rw [second.word, if_pos rfl, RegisterFile.stored_plain (plain _ (by decide) first.steady)]
  · rw [second.same, first.same]

/-- A pass that gets to send takes a block off the bytes owed, and sends one if there is any. -/
theorem ends_send {s : TransferSettings} (whole : s.maxBytes = 512)
    (steady : Steady contents posts b) :
    Program.Ends perform (send s) b fun t b' =>
      b'.engine.owed contents = (b.engine.owed contents).drop 512 ∧
        (t.isEmpty = true ↔ b.engine.owed contents = []) ∧
        (b.engine.owed contents ≠ [] → Block s ((b.engine.owed contents).take 512) t b') := by
  have start : Packed [] ({} : Packer) b.buffer := ⟨steady.roomy, rfl, rfl, nofun⟩
  refine Program.ends_bind (ends_fill s.maxBytes Crc.initial16 steady start ?_) ?_
  · rw [whole]
    exact Nat.le_refl _
  rintro ⟨packer, crc⟩ b₁ ⟨packed, checked, left, drawn⟩
  dsimp only at packed checked ⊢
  rw [whole, List.nil_append] at packed
  rw [whole] at checked left
  have count := packed.bytes_eq
  by_cases none : b.engine.owed contents = []
  · rw [none, List.take_nil, List.length_nil] at count
    rw [if_pos count]
    exact Program.ends_pure ⟨left, by simp [isEmpty, none], fun owes => absurd none owes⟩
  have taken : ((b.engine.owed contents).take 512).length ≤ 512 := List.length_take_le ..
  have owes : packer.bytes ≠ 0 := by
    rw [count]
    simpa using none
  rw [if_neg owes]
  have closing := length_trailer_le s crc
  refine Program.ends_bind (ends_pushAll (trailer s crc) packed (by omega)) ?_
  rintro packer₂ b₂ ⟨same₂, packed₂⟩
  obtain ⟨drawn₂, owed₂⟩ := drawn_of_buffer drawn.steady same₂ packed₂.roomy
  refine Program.ends_bind (ends_finish packed₂ ?_) ?_
  · rw [List.length_append]
    omega
  rintro t b₃ ⟨rfl, same₃, roomy₃, buffer₃⟩
  obtain ⟨drawn₃, owed₃⟩ := drawn_of_buffer drawn₂.steady same₃ roomy₃
  subst checked
  refine Program.ends_mono (ends_launch drawn₃.steady rfl buffer₃) ?_
  rintro t b₄ ⟨rfl, block, engine⟩
  refine ⟨?_, ?_, fun _ => block⟩
  · rw [engine, owed₃, owed₂, left]
  · simp only [isEmpty, beq_iff_eq, none, iff_false, List.length_append]
    omega

/-- A pass of the data loop while no command is being dispatched. -/
theorem ends_pump {s : TransferSettings} (whole : s.maxBytes = 512)
    (steady : Steady contents posts b) (calm : b.inFlight = false) :
    Program.Ends perform (pump s) b fun t b' =>
      (t.isEmpty = true ∧ b'.engine.owed contents = b.engine.owed contents ∨
        t.isEmpty = false ∧ Block s ((b.engine.owed contents).take 512) t b' ∧
          b'.engine.owed contents = (b.engine.owed contents).drop 512) ∧
      (t.isEmpty = true ↔ b.registers.word Offset.dataControl &&& DataControl.send ≠ 0 ∨
        b.engine.owed contents = []) := by
  refine Program.ends_access_bind rfl ?_
  rw [calm, if_neg Bool.false_ne_true]
  refine Program.ends_bind (ends_readRegister steady (by decide) (by decide)) ?_
  rintro control b₂ ⟨rfl, steady₂, same₂, -⟩
  have owed₂ : b₂.engine.owed contents = b.engine.owed contents := by
    rw [same₂]
  by_cases sending : b.registers.word Offset.dataControl &&& DataControl.send = 0
  · rw [if_neg (not_not.2 sending)]
    refine Program.ends_mono (ends_send whole steady₂) ?_
    rintro t b₃ ⟨left, empty, block⟩
    rw [owed₂] at left empty block
    refine ⟨?_, by simp [sending, empty]⟩
    by_cases none : b.engine.owed contents = []
    · exact .inl ⟨empty.2 none, by rw [left, none, List.drop_nil]⟩
    · exact .inr ⟨by simpa using mt empty.1 none, block none, left⟩
  · rw [if_pos sending]
    exact Program.ends_pure ⟨.inl ⟨rfl, owed₂⟩, by simp [isEmpty, sending]⟩

end Transfer
end SdBridge.Bridge
