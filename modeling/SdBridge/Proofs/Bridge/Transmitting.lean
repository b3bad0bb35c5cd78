import SdBridge.Proofs.Bridge.Offering
import SdBridge.Proofs.Bridge.Queueing
import SdBridge.Proofs.Bridge.Transcript
import SdBridge.Proofs.Crc.Appended

/-!
What one pass of the data loop transmits, over any source: as many of the bytes that are ready as a
block may have. The words in the data buffer, POINTER and DATCTRL are decoded here as the hardware
decodes them.
-/
namespace SdBridge.Bridge

variable {π : Type} [Responder π] [ByteSource π] {b b' : Bridge π} {k : Pumped}

abbrev accounted : Handler Access.Answer (Bridge π × Pumped) := Program.noting perform Pumped.note

/-- Nothing but the source, the data buffer and the log is another. -/
def Took (b b' : Bridge π) : Prop :=
  b' = { b with engine := b'.engine, buffer := b'.buffer, log := b'.log }

omit [Responder π] [ByteSource π] in
theorem Took.trans {b'' : Bridge π} (first : Took b b') (second : Took b' b'') : Took b b'' := by
  rw [Took, second, first]

omit [Responder π] [ByteSource π] in
theorem took_of_buffer (same : SameButBuffer b b') : Took b b' := by
  rw [Took, same]

namespace Transfer

open ByteSource Loop Pumped

variable {s : TransferSettings} {p : Packer}

theorem accounted_dataReady {more : Bool} (answer : (dataReady b.engine).answer = .ok more) :
    ∃ b', accounted Access.dataReady (b, k) = (.ok more, b', k) ∧
      b'.engine = (dataReady b.engine).state ∧ b'.buffer = b.buffer ∧ Took b b' := by
  have performed : perform .dataReady b = (.ok more, { b with
      engine := (dataReady b.engine).state
      log := b.log ++ (dataReady b.engine).log.toArray }) := by
    rw [perform, served, answer]
  exact ⟨_, Program.noting_eq_ok performed Pumped.note k, rfl, rfl, rfl⟩

theorem accounted_nextByte {byte : UInt8} (taken : (nextByte b.engine).answer = .ok byte) :
    ∃ b', accounted Access.nextByte (b, k) =
        (.ok byte, b', { k with taken := k.taken ++ [byte] }) ∧
      b'.engine = (nextByte b.engine).state ∧ b'.buffer = b.buffer ∧ Took b b' := by
  have performed : perform .nextByte b = (.ok byte, { b with
      engine := (nextByte b.engine).state
      log := b.log ++ (nextByte b.engine).log.toArray }) := by
    rw [perform, served, taken]
  exact ⟨_, Program.noting_eq_ok performed Pumped.note k, rfl, rfl, rfl⟩

/-- Filling a block takes what the source gives, up to the limit, and asks no further. -/
theorem ends_taking (limit : Nat) (answers : Answers limit b.engine)
    (packs : Packs k.taken p k) (packed : Packed k.taken p b.buffer)
    (room : k.taken.length + limit ≤ 512) :
    Program.Ends accounted (fill limit p (Crc.crc16 k.taken)) (b, k) fun out t =>
      t.2.taken = k.taken ++ (takeUpTo limit b.engine).1 ∧
        t.1.engine = (takeUpTo limit b.engine).2.1 ∧ Took b t.1 ∧
        Packs t.2.taken out.1 t.2 ∧ Packed t.2.taken out.1 t.1.buffer ∧
        out.2 = Crc.crc16 t.2.taken := by
  induction limit generalizing b k p with
  | zero => exact Program.ends_pure ⟨(List.append_nil _).symm, rfl, rfl, packs, packed, rfl⟩
  | succ limit ih =>
    rcases answers with denied | ⟨granted, byte, taken, answers⟩
    · obtain ⟨none, state⟩ := takeUpTo_of_denied limit denied
      obtain ⟨b₁, asked, engine₁, buffer₁, took₁⟩ := accounted_dataReady (k := k) denied
      refine Program.ends_access_bind asked (Program.ends_pure ?_)
      rw [none, state]
      exact ⟨(List.append_nil _).symm, engine₁, took₁, packs, buffer₁ ▸ packed, rfl⟩
    · obtain ⟨first, state⟩ := takeUpTo_of_granted limit granted taken
      obtain ⟨b₁, asked, engine₁, buffer₁, took₁⟩ := accounted_dataReady (k := k) granted
      rw [← engine₁] at taken answers first state
      obtain ⟨b₂, handed, engine₂, buffer₂, took₂⟩ := accounted_nextByte (k := k) taken
      rw [← engine₂] at answers first state
      refine Program.ends_access_bind asked (Program.ends_access_bind handed ?_)
      have packed₂ : Packed k.taken p b₂.buffer := buffer₂ ▸ buffer₁ ▸ packed
      have packs₂ : Packs k.taken p { k with taken := k.taken ++ [byte] } :=
        ⟨⟨packs.free.calm, packs.free.idle⟩, packs.words, packs.few⟩
      refine Program.ends_bind ((ends_push packed₂ (by omega) byte).noting
        (conducts_push (s := {}) packs₂ byte)) ?_
      rintro p₃ ⟨b₃, k₃⟩ ⟨⟨same, packed₃⟩, account, packs₃⟩
      dsimp only at same packed₃ account packs₃
      have grown : k₃.taken = k.taken ++ [byte] := congrArg Pumped.taken account
      have engine₃ : b₃.engine = b₂.engine := by rw [same]
      have checked : Crc.update16 Crc.polynomial16 (Crc.crc16 k.taken) [byte] =
          Crc.crc16 k₃.taken := by
        rw [grown, Crc.crc16, Crc.crc16, Crc.update16_append]
      rw [← grown] at packed₃ packs₃
      rw [← engine₃] at answers first state
      rw [checked]
      refine Program.ends_mono (ih answers packs₃ packed₃ ?_) ?_
      · rw [grown, List.length_append, List.length_singleton]
        omega
      · rintro out ⟨b₄, k₄⟩ ⟨whole, engine₄, took₄, packs₄, packed₄, crc⟩
        refine ⟨?_, engine₄.trans state.symm, ?_, packs₄, packed₄, crc⟩
        · rw [whole, grown, first, List.append_assoc]
          rfl
        · exact took₁.trans (took₂.trans ((took_of_buffer same).trans took₄))

/-- A block as the hardware gets it: the words of the data buffer, and the words written to POINTER
and DATCTRL. -/
structure Framed (s : TransferSettings) (data : List UInt8) (words : List UInt32)
    (pointer control : UInt32) (t : Transfer) : Prop where
  checked : outgoing s data = data ++ if s.crcMode = .software then Crc.bytes16 (Crc.crc16 data) else []
  padded : ∃ padding < 4, words.flatMap bytesOfWord = outgoing s data ++ List.replicate padding 0
  offset : pointer.toNat % 2 ^ 16 = 0
  length : pointer.toNat / 2 ^ 16 = (outgoing s data).length
  send : control &&& DataControl.send ≠ 0
  autoCrc : control &&& DataControl.autoCrc16 ≠ 0 ↔ s.crcMode = .hardware
  wide : control &&& DataControl.fourBit ≠ 0 ↔ s.busWidth = .fourBit
  others : control &&&
    ~~~(DataControl.send ||| DataControl.autoCrc16 ||| DataControl.fourBit) = 0
  residue : s.crcMode = .software → Crc.crc16 (outgoing s data) = 0
  told : t = ⟨(outgoing s data).length, words.length⟩

theorem toNat_pointerWord {length : Nat} (small : length < 2 ^ 16) :
    (pointerWord 0 length.toUInt16).toNat = length * 2 ^ 16 := by
  have field : length.toUInt16.toNat = length := UInt16.toNat_ofNat_of_lt small
  rw [pointerWord, UInt32.toNat_or, UInt32.toNat_shiftLeft, UInt16.toNat_toUInt32, field,
    show (16 : UInt32).toNat % 32 = 16 from rfl, Nat.shiftLeft_eq]
  rw [Nat.mod_eq_of_lt (by omega)]
  exact Nat.or_zero _

theorem framed {data : List UInt8} (few : data.length ≤ 512) {words : List UInt32} {padding : Nat}
    (short : padding < 4)
    (padded : words.flatMap bytesOfWord = outgoing s data ++ List.replicate padding 0) :
    Framed s data words (pointerWord 0 (outgoing s data).length.toUInt16)
      (DataControl.word (flags s) .none) ⟨(outgoing s data).length, words.length⟩ := by
  have closing := length_trailer_le s (Crc.crc16 data)
  have small : (outgoing s data).length < 2 ^ 16 := by
    rw [outgoing, List.length_append]
    omega
  have pointer := toNat_pointerWord small
  constructor
  case checked => cases mode : s.crcMode <;> simp [outgoing, trailer, mode]
  case padded => exact ⟨padding, short, padded⟩
  case offset => rw [pointer, Nat.mul_mod_left]
  case length => rw [pointer, Nat.mul_div_cancel _ (by decide)]
  case residue =>
    intro mode
    rw [outgoing, trailer, mode]
    exact Crc.crc16_append_bytes16 data
  case told => rfl
  all_goals
    cases mode : s.crcMode <;> cases width : s.busWidth <;> simp only [flags, mode, width] <;> decide

/-- What a pass transmitted: nothing if it took no bytes, else one block of them, written word after
word before POINTER and DATCTRL. -/
inductive Transmitted (s : TransferSettings) (k : Pumped) : Transfer → Prop where
  | nothing (taken : k.taken = []) (writes : k.writes = []) : Transmitted s k {}
  | block {words : List UInt32} {pointer control : UInt32} {t : Transfer} (some : k.taken ≠ [])
      (writes : k.writes = laid words ++
        [.writeRegister Offset.pointer pointer, .writeRegister Offset.dataControl control])
      (framed : Framed s k.taken words pointer control t) : Transmitted s k t

structure Fit (b : Bridge π) : Prop where
  registers : Offset.size ≤ 4 * b.registers.words.size
  buffer : Roomy b.buffer

omit [Responder π] [ByteSource π] in
theorem Fit.inside (fit : Fit b) {offset : Nat} (aligned : offset % 4 = 0)
    (below : offset < Offset.size) (value : UInt32) :
    RegisterWrite.Inside b.registers ⟨offset, value⟩ := by
  have size := fit.registers
  exact ⟨aligned, by simp only; omega⟩

theorem ends_writing (fit : Fit b) {offset : Nat} (aligned : offset % 4 = 0)
    (below : offset < Offset.size) (value : UInt32) :
    Program.Ends accounted (writeRegister offset value) (b, k) fun _ t =>
      t.2.taken = k.taken ∧ t.2.writes = k.writes ++ [.writeRegister offset value] ∧
        t.1.engine = b.engine ∧ Fit t.1 := by
  have performed := perform_writeRegister (b := b) (fit.inside aligned below value)
  refine Program.ends_access (Program.noting_eq_ok performed Pumped.note k) ⟨rfl, rfl, rfl, ?_, ?_⟩
  · simpa only [RegisterFile.write_size] using fit.registers
  · exact fit.buffer

/-- A block that is in the data buffer is started. -/
theorem ends_starting (fit : Fit b) {data : List UInt8} {words : List UInt32} {t : Transfer}
    (some : k.taken ≠ []) (writes : k.writes = laid words) (taken : k.taken = data)
    (framed : Framed s data words (pointerWord 0 t.bytes.toUInt16)
      (DataControl.word (flags s) .none) t) :
    Program.Ends accounted (do
      writeRegister Offset.pointer (pointerWord 0 t.bytes.toUInt16)
      writeRegister Offset.dataControl (DataControl.word (flags s) .none)
      tell (queued t.bytes)
      pure t) (b, k) fun t u =>
        u.2.taken = data ∧ u.1.engine = b.engine ∧ Fit u.1 ∧ Transmitted s u.2 t := by
  refine Program.ends_bind (ends_writing fit (by decide) (by decide) _) ?_
  rintro - ⟨b₁, k₁⟩ ⟨taken₁, writes₁, engine₁, fit₁⟩
  refine Program.ends_bind (ends_writing fit₁ (by decide) (by decide) _) ?_
  rintro - ⟨b₂, k₂⟩ ⟨taken₂, writes₂, engine₂, fit₂⟩
  refine Program.ends_access_bind rfl (Program.ends_pure ?_)
  dsimp only at taken₁ writes₁ engine₁ taken₂ writes₂ engine₂ fit₂
  have kept : k₂.taken = data := by rw [taken₂, taken₁, taken]
  refine ⟨kept, by rw [← engine₁, ← engine₂], ⟨fit₂.registers, fit₂.buffer⟩, ?_⟩
  refine .block (kept ▸ taken ▸ some) ?_ (kept ▸ framed)
  change k₂.writes = _
  rw [writes₂, writes₁, writes, List.append_assoc]
  rfl

/-- A pass that gets to send transmits what the source gives. -/
theorem ends_sending (limit : s.maxBytes ≤ 512) (answers : Answers s.maxBytes b.engine) (fit : Fit b)
    (free : k.Open) (fresh : k.taken = []) (unwritten : k.writes = []) :
    Program.Ends accounted (send s) (b, k) fun t u =>
      u.2.taken = (takeUpTo s.maxBytes b.engine).1 ∧
        u.1.engine = (takeUpTo s.maxBytes b.engine).2.1 ∧ Fit u.1 ∧ Transmitted s u.2 t := by
  have packs : Packs k.taken {} k := ⟨free, ⟨[], unwritten, rfl, fresh.symm⟩, Nat.zero_lt_succ _⟩
  have packed : Packed k.taken {} b.buffer := by
    rw [fresh]
    exact ⟨fit.buffer, rfl, rfl, nofun⟩
  have filled := ends_taking s.maxBytes answers packs packed (by rw [fresh]; simpa using limit)
  rw [fresh, List.nil_append] at filled
  refine Program.ends_bind filled ?_
  rintro ⟨packer, crc⟩ ⟨b₁, k₁⟩ ⟨taken₁, engine₁, took₁, packs₁, packed₁, rfl⟩
  dsimp only at taken₁ engine₁ took₁ packs₁ packed₁ ⊢
  have few : k₁.taken.length ≤ 512 := by
    rw [taken₁]
    exact Nat.le_trans (length_takeUpTo_le _ _) limit
  have registers : b₁.registers = b.registers := by rw [took₁]
  have count := packed₁.bytes_eq
  by_cases none : packer.bytes = 0
  · rw [if_pos none]
    have empty : k₁.taken = [] := List.eq_nil_of_length_eq_zero (count.symm.trans none)
    have unwritten₁ := unwritten_of_packs (empty ▸ packs₁)
    refine Program.ends_pure ⟨taken₁, engine₁, ⟨registers ▸ fit.registers, packed₁.roomy⟩, ?_⟩
    exact .nothing empty unwritten₁
  · rw [if_neg none]
    have some : k₁.taken ≠ [] := fun empty => none (by rw [count, empty, List.length_nil])
    have closing := length_trailer_le s (Crc.crc16 k₁.taken)
    refine Program.ends_bind ((ends_pushAll (trailer s (Crc.crc16 k₁.taken)) packed₁
      (by omega)).noting (conducts_pushAll (s := s) _ packs₁)) ?_
    rintro packer₂ ⟨b₂, k₂⟩ ⟨⟨same₂, packed₂⟩, account₂, packs₂⟩
    dsimp only at same₂ packed₂ account₂ packs₂ ⊢
    have whole : k₁.taken ++ trailer s (Crc.crc16 k₁.taken) = outgoing s k₁.taken := rfl
    have length : (outgoing s k₁.taken).length ≤ 514 := by
      rw [← whole, List.length_append]
      omega
    rw [whole] at packed₂ packs₂
    refine Program.ends_bind ((ends_finish packed₂ length).noting
      (conducts_finish (s := s) packs₂)) ?_
    rintro t ⟨b₃, k₃⟩ ⟨⟨-, same₃, roomy₃, -⟩, account₃, words, writes₃, ⟨padding, short, padded⟩, told⟩
    dsimp only at same₃ roomy₃ account₃ writes₃ ⊢
    have taken₃ : k₃.taken = k₁.taken := by rw [account₃, account₂]
    have fit₃ : Fit b₃ := by
      refine ⟨?_, roomy₃⟩
      rw [same₃, same₂]
      exact registers ▸ fit.registers
    have block : Framed s k₁.taken words (pointerWord 0 t.bytes.toUInt16)
        (DataControl.word (flags s) .none) t := by
      rw [told]
      exact framed few short padded
    refine Program.ends_mono (ends_starting fit₃ (taken₃ ▸ some) writes₃ taken₃ block) ?_
    rintro t ⟨b₄, k₄⟩ ⟨taken₄, engine₄, fit₄, transmitted⟩
    refine ⟨taken₄.trans taken₁, ?_, fit₄, transmitted⟩
    rw [engine₄, same₃, same₂]
    exact engine₁

/-- No command is being dispatched, and no block is going out. -/
structure Clear (b : Bridge π) : Prop where
  calm : b.inFlight = false
  idle : b.registers.word Offset.dataControl &&& DataControl.send = 0

/-- A pass of the data loop with nothing in its way. -/
theorem ends_transmitting (limit : s.maxBytes ≤ 512) (answers : Answers s.maxBytes b.engine)
    (fit : Fit b) (clear : Clear b) :
    Program.Ends accounted (pump s) (b, {}) fun t u =>
      u.2.taken = (takeUpTo s.maxBytes b.engine).1 ∧
        u.1.engine = (takeUpTo s.maxBytes b.engine).2.1 ∧ Fit u.1 ∧ Transmitted s u.2 t := by
  have looked : accounted Access.inFlight (b, {}) = (.ok b.inFlight, b, { busy := b.inFlight }) := rfl
  refine Program.ends_access_bind looked ?_
  rw [clear.calm, if_neg Bool.false_ne_true]
  have aligned : Offset.dataControl % 4 = 0 := by decide
  have size := fit.registers
  have read := perform_readRegister_inside (b := b) aligned (by
    simp only [Offset.size, Offset.dataControl] at size ⊢
    omega)
  refine Program.ends_access_bind (Program.noting_eq_ok read Pumped.note _) ?_
  dsimp only
  rw [if_neg (not_not.2 clear.idle)]
  exact ends_sending (b := { b with
    registers := { b.registers with reads := b.registers.reads + 1 } }) limit answers
    ⟨fit.registers, fit.buffer⟩ ⟨rfl, _, rfl, clear.idle⟩ rfl rfl

/-- Passes of the data loop, each of them after a change of the bridge. A fault ends them. -/
def passes (s : TransferSettings) :
    List (Bridge π → Bridge π) → Bridge π → Except Fault (List Pump × Bridge π)
  | [], b => .ok ([], b)
  | change :: rest, b =>
    match (pump s).run accounted (change b, {}) with
    | (.ok transfer, b, account) =>
      (passes s rest b).map fun (pumps, b) => (⟨account, transfer⟩ :: pumps, b)
    | (.error fault, _) => .error fault

/-- A change that leaves the source alone, after which nothing is in the way of a pass. -/
def Clears (change : Bridge π → Bridge π) : Prop :=
  ∀ b, Fit b → (change b).engine = b.engine ∧ Fit (change b) ∧ Clear (change b)

/-- Whatever passes transmit comes off the front of the stream that the source pours out. -/
theorem passes_of_pours (limit : s.maxBytes ≤ 512) {left : List UInt8 → π → Prop}
    (pours : Pours left) {changes : List (Bridge π → Bridge π)}
    (clears : ∀ change ∈ changes, Clears change) {stream : List UInt8} (fit : Fit b)
    (now : left stream b.engine) :
    ∃ pumps b' rest, passes s changes b = .ok (pumps, b') ∧ pumps.length = changes.length ∧
      (∀ pump ∈ pumps, Transmitted s pump.account pump.transfer) ∧
      stream = pumps.flatMap (·.account.taken) ++ rest ∧ left rest b'.engine := by
  induction changes generalizing b stream with
  | nil => exact ⟨[], b, stream, rfl, rfl, nofun, rfl, now⟩
  | cons change changes ih =>
    obtain ⟨engine, fit₁, clear₁⟩ := clears change List.mem_cons_self b fit
    rw [← engine] at now
    obtain ⟨t, ⟨b₂, k⟩, ran, taken, engine₂, fit₂, transmitted⟩ :=
      ends_transmitting limit (pours.answersAll now s.maxBytes) fit₁ clear₁
    obtain ⟨stream₂, front, now₂⟩ := pours.takeUpTo now s.maxBytes
    dsimp only at taken engine₂ fit₂ transmitted
    rw [← taken] at front
    rw [← engine₂] at now₂
    obtain ⟨pumps, b', rest, others, count, all, whole, still⟩ :=
      ih (fun later listed => clears later (List.mem_cons_of_mem _ listed)) fit₂ now₂
    refine ⟨⟨k, t⟩ :: pumps, b', rest, ?_, congrArg (· + 1) count, ?_, ?_, still⟩
    · simp only [passes, ran, others, Except.map]
    · exact List.forall_mem_cons.2 ⟨transmitted, all⟩
    · rw [front, whole, List.flatMap_cons, List.append_assoc]

/-- A pass with nothing in its way transmits the ready bytes, as many as fit a block, and passes
together transmit the stream. -/
theorem transmits_ready {settings : Settings} (valid : settings.validate = .ok ())
    (size : s.maxBytes = settings.transfer.maxBytes) :
    (∀ (b : Bridge π) (ready : List UInt8), Fit b → Clear b → Offers ready b.engine →
      ∃ t b' k, (pump s).run accounted (b, {}) = (.ok t, b', k) ∧
        (pump s).run perform b = (.ok t, b') ∧ k.taken = ready.take s.maxBytes ∧
        (s.maxBytes ≤ ready.length → Offers (ready.drop s.maxBytes) b'.engine) ∧
        (ready = [] → k.writes = [] ∧ t = {}) ∧
        (ready ≠ [] → ∃ words pointer control, k.writes = laid words ++
            [.writeRegister Offset.pointer pointer, .writeRegister Offset.dataControl control] ∧
          Framed s (ready.take s.maxBytes) words pointer control t)) ∧
    ∀ left : List UInt8 → π → Prop, Pours left → ∀ (b : Bridge π) (stream : List UInt8)
      (changes : List (Bridge π → Bridge π)), Fit b → left stream b.engine →
      (∀ change ∈ changes, Clears change) →
      ∃ pumps b' rest, passes s changes b = .ok (pumps, b') ∧ pumps.length = changes.length ∧
        (∀ pump ∈ pumps, Transmitted s pump.account pump.transfer) ∧
        stream = pumps.flatMap (·.account.taken) ++ rest ∧ left rest b'.engine := by
  have limit : s.maxBytes ≤ 512 := size ▸ limit_of_valid valid
  have positive : 0 < s.maxBytes := size ▸ (maxBytes_of_valid valid).1
  refine ⟨fun b ready fit clear offers => ?_, fun left pours b stream changes fit now clears =>
    passes_of_pours limit pours clears fit now⟩
  obtain ⟨t, ⟨b', k⟩, ran, taken, engine, -, transmitted⟩ :=
    ends_transmitting limit (offers.answers s.maxBytes) fit clear
  obtain ⟨first, others⟩ := offers.takeUpTo s.maxBytes
  dsimp only at taken engine transmitted
  rw [first] at taken
  rw [← engine] at others
  refine ⟨t, b', k, ran, ?_, taken, others, ?_, ?_⟩
  · rw [Program.run_noting perform Pumped.note (pump s) b {}]
    exact Prod.ext (congrArg (·.1) ran) (congrArg (·.2.1) ran)
  · rintro rfl
    rw [List.take_nil] at taken
    cases transmitted with
    | nothing _ writes => exact ⟨writes, rfl⟩
    | block some => exact absurd taken some
  · intro more
    have some : ready.take s.maxBytes ≠ [] := by
      rw [Ne, List.take_eq_nil_iff, not_or]
      exact ⟨Nat.ne_of_gt positive, more⟩
    rw [← taken] at some ⊢
    cases transmitted with
    | nothing taken => exact absurd taken some
    | block _ writes framed => exact ⟨_, _, _, writes, framed⟩

/-- An engine to rehearse with has the bytes of its first burst ready. -/
theorem offers_burst (burst : List UInt8) (rest : List (List UInt8)) (e : Rehearsal.Engine) :
    Offers burst { e with bursts := burst :: rest } := by
  induction burst with
  | nil => rfl
  | cons byte burst ih => exact ⟨rfl, rfl, ih⟩

/-- It pours out its bursts, one after the other. -/
theorem pours_bursts : Pours fun bytes (e : Rehearsal.Engine) => e.bursts.flatten = bytes := by
  constructor
  case answers =>
    rintro bytes ⟨manner, block, _ | ⟨_ | ⟨byte, burst⟩, rest⟩⟩ - <;> exact ⟨_, rfl⟩
  case asked =>
    rintro bytes ⟨manner, block, _ | ⟨_ | ⟨byte, burst⟩, rest⟩⟩ rfl <;> rfl
  case taken =>
    rintro bytes ⟨manner, block, _ | ⟨_ | ⟨byte, burst⟩, rest⟩⟩ rfl granted
    · cases granted
    · cases granted
    · exact ⟨byte, burst ++ rest.flatten, rfl, rfl, rfl⟩

def freed (b : Bridge π) : Bridge π :=
  { b with
    inFlight := false
    registers := (Signal.lower Offset.dataControl DataControl.send).apply b.registers }

omit [Responder π] [ByteSource π] in
theorem clears_freed : Clears (freed : Bridge π → Bridge π) := by
  intro b fit
  have size := fit.registers
  refine ⟨rfl, ⟨?_, fit.buffer⟩, rfl, ?_⟩
  · simpa only [freed, Signal.apply, RegisterFile.size_force] using size
  · have inside : Offset.dataControl / 4 < b.registers.words.size := by
      simp only [Offset.size, Offset.dataControl] at size ⊢
      omega
    have apart : ~~~DataControl.send &&& DataControl.send = 0 := by decide
    simp only [freed, Signal.apply, RegisterFile.word_force, inside, and_self, if_true,
      UInt32.and_assoc, apart, UInt32.and_zero]

/-- Seven bytes in blocks of four, with a checksum computed by software. -/
theorem transmits_ready_software :
    let s : TransferSettings := { maxBytes := 4, crcMode := .software }
    let b : Bridge Rehearsal.Engine := { Traffic.rehearsal.bridge with
      engine := { manner := .echo 4 none, bursts := [[1, 2, 3, 4, 5, 6, 7]] } }
    (∃ t b', (pump s).run perform b = (.ok t, b') ∧ t.bytes = 6 ∧ Offers [5, 6, 7] b'.engine) ∧
      ∃ pumps b' rest, passes s [freed, freed, freed] b = .ok (pumps, b') ∧ pumps.length = 3 ∧
        [1, 2, 3, 4, 5, 6, 7] = pumps.flatMap (·.account.taken) ++ rest ∧
        b'.engine.bursts.flatten = rest := by
  intro s b
  have fit : Fit b := ⟨by decide, ⟨by decide +kernel, rfl⟩⟩
  have valid : Settings.validate { transfer := s } = .ok () := by decide +kernel
  obtain ⟨single, several⟩ := @transmits_ready Rehearsal.Engine _ _ s _ valid rfl
  obtain ⟨t, b', k, -, ran, -, others, -, block⟩ :=
    single b _ fit ⟨rfl, by decide +kernel⟩ (offers_burst [1, 2, 3, 4, 5, 6, 7] [] b.engine)
  obtain ⟨words, pointer, control, -, framed⟩ := block nofun
  refine ⟨⟨t, b', ran, ?_, others (by decide)⟩, ?_⟩
  · rw [framed.told]
    change (outgoing s [1, 2, 3, 4]).length = 6
    decide
  · obtain ⟨pumps, b', rest, ran, count, -, whole, left⟩ :=
      several _ pours_bursts b _ [freed, freed, freed] fit rfl (by simpa using clears_freed)
    exact ⟨pumps, b', rest, ran, count, whole, left⟩

end Transfer

end SdBridge.Bridge
