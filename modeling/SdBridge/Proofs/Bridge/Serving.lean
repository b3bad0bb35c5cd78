import SdBridge.Proofs.Bridge.Transcript
import SdBridge.Proofs.Register.Bits
import SdBridge.Proofs.Register.Word
import SdBridge.Rehearsal.Engine

/-!
What one pass of the command loop amounts to, over any protocol engine: exactly one exchange with
the host if a command is latched, and none otherwise.
-/
namespace SdBridge

/-- The writes that send the first bytes of a response: its words go to the response registers in
order, and then one write to CONTROL starts the transmission. -/
structure Sent (command : UInt8) (response : Response) (length : Nat) (flags : List String)
    (writes : List RegisterWrite) : Prop where
  places : writes.map (·.offset) = Offset.responseWords.take (length / 4) ++ [Offset.control]
  bytes : writes.dropLast.flatMap (fun w => bytesOfWord w.value) = response.toList.take length
  control : ∃ w, writes.getLast? = some w ∧ Control.names.namesIn w.value = flags ∧
    w.value.toNat / 2 ^ 16 % 2 ^ 8 = command.toNat ∧ w.value.toNat / 2 ^ 25 = 0

namespace Bridge

section Decoding

open Commander

theorem bytes_responseWord (response : Response) (word : Fin 4) :
    bytesOfWord (responseWord response word) = (response.toList.drop (4 * word.val)).take 4 := by
  rw [responseWord, bytesOfWord_wordOfBytes]
  apply List.ext_getElem
  · simp only [List.length_cons, List.length_nil, List.length_take, List.length_drop,
      Vector.length_toList]
    omega
  · intro i inside _
    simp only [List.length_cons, List.length_nil] at inside
    match i, inside with
    | 0, _ | 1, _ | 2, _ | 3, _ => simp

/-- The fields of the CONTROL words that start a response. -/
theorem control_fields : ∀ command < 64, ∀ long : Bool,
    let word := Control.word (responseFlags ||| if long then Control.longResponse else 0)
      (UInt8.ofNat command) 0
    Control.names.namesIn word = (if long then ["ENABLE", "SEND", "LONG_RESPONSE", "AUTO_CRC7"]
      else ["ENABLE", "SEND", "AUTO_CRC7"]) ∧
    word.toNat / 2 ^ 16 % 2 ^ 8 = command ∧ word.toNat / 2 ^ 25 = 0 := by
  decide +kernel

variable {command : UInt8} (index : command.toNat < 64) (response : Response)

include index

theorem sent_short :
    Sent command response shortResponse ["ENABLE", "SEND", "AUTO_CRC7"]
      (sending command shortResponse response) := by
  obtain ⟨flags, field, crc⟩ := control_fields command.toNat index false
  rw [UInt8.ofNat_toNat] at flags field crc
  refine ⟨rfl, ?_, ⟨_, rfl, flags, field, crc⟩⟩
  change bytesOfWord (responseWord response 0) ++ [] = _
  rw [bytes_responseWord, List.append_nil]
  rfl

theorem sent_long :
    Sent command response longResponse ["ENABLE", "SEND", "LONG_RESPONSE", "AUTO_CRC7"]
      (sending command longResponse response) := by
  obtain ⟨flags, field, crc⟩ := control_fields command.toNat index true
  rw [UInt8.ofNat_toNat] at flags field crc
  refine ⟨rfl, ?_, ⟨_, rfl, flags, field, crc⟩⟩
  have split (bytes : List UInt8) : bytes.take (4 + (4 + (4 + 4))) = (bytes.drop 0).take 4 ++
      ((bytes.drop 4).take 4 ++ ((bytes.drop 8).take 4 ++ (bytes.drop 12).take 4)) := by
    rw [List.take_add, List.take_add, List.take_add, List.drop_drop, List.drop_drop]
    rfl
  refine Eq.trans ?_ (split response.toList).symm
  change bytesOfWord (responseWord response 0) ++ (bytesOfWord (responseWord response 1) ++
    (bytesOfWord (responseWord response 2) ++ (bytesOfWord (responseWord response 3) ++ []))) = _
  simp only [bytes_responseWord, List.append_nil]
  rfl

end Decoding
section Request

variable {π : Type}

def statusWord (b : Bridge π) : StatusWord := ⟨b.registers.word Offset.status⟩

def latched (b : Bridge π) : Bool := b.statusWord.has Status.newCommand

def completed (b : Bridge π) : Bool := b.statusWord.has Status.complete

/-- The request in STATUS and ARG: STATUS has the index in bits 21 to 16 and the CRC7 in bits 31
to 25. -/
def request (b : Bridge π) : Request where
  command := UInt8.ofNat (b.statusWord.raw.toNat / 2 ^ 16 % 2 ^ 6)
  argument := b.registers.word Offset.argument
  crc7 := UInt8.ofNat (b.statusWord.raw.toNat / 2 ^ 25)

theorem toNat_commandIndex (s : StatusWord) :
    s.commandIndex.toNat = s.raw.toNat / 2 ^ 16 % 2 ^ 6 := by
  have mask : commandIndexMask.toNat = 2 ^ 6 - 1 := by decide
  rw [StatusWord.commandIndex, StatusWord.commandByte, UInt8.toNat_and, mask,
    Nat.and_two_pow_sub_one_eq_mod, toNat_byte _ (n := 16) (by decide), Nat.mod_mod_of_dvd]
  decide

theorem toNat_crc7 (s : StatusWord) : s.crc7.toNat = s.raw.toNat / 2 ^ 25 := by
  have mask : (0x7f : UInt8).toNat = 2 ^ 7 - 1 := by decide
  have small := s.raw.toNat_lt
  rw [StatusWord.crc7, UInt8.toNat_and, mask, Nat.and_two_pow_sub_one_eq_mod,
    toNat_byte _ (n := 25) (by decide)]
  omega

theorem request_eq (b : Bridge π) :
    b.request = ⟨b.statusWord.commandIndex, b.registers.word Offset.argument, b.statusWord.crc7⟩ := by
  rw [request, ← toNat_commandIndex, ← toNat_crc7, UInt8.ofNat_toNat, UInt8.ofNat_toNat]

end Request

section Inside

variable {f : RegisterFile} (size : Offset.size ≤ 4 * f.words.size)

include size

theorem inside_acknowledging (bits : UInt32) :
    ∀ w ∈ Commander.acknowledging bits, w.Inside f := by
  intro w listed
  rw [Commander.mem_acknowledging listed]
  have here : Offset.status % 4 = 0 ∧ Offset.status / 4 < 8 := by decide
  refine ⟨here.1, Nat.lt_of_lt_of_le here.2 ?_⟩
  simp only [Offset.size] at size
  omega

theorem inside_writes (done : Exchange) (response : Response) :
    ∀ w ∈ done.writes response, w.Inside f := by
  intro w listed
  have places : ∀ offset ∈ Offset.responseWords ++ [Offset.control],
      offset % 4 = 0 ∧ offset < Offset.size := by decide
  obtain ⟨aligned, below⟩ := places w.offset (Exchange.offset_writes listed)
  exact ⟨aligned, by omega⟩

end Inside

section Pass

variable {π : Type} [Responder π] [ByteSource π] {b : Bridge π} {k : List Access}
  {status : StatusWord}

/-- The records that a pass publishes about an exchange, given when its command was seen and what
the clock reads after that. -/
def records (seen : UInt64) (clock : List UInt64) (status : StatusWord) (c : Commander)
    (block : Option BlockRequest) (done : Exchange) : List Event.Record :=
  done.arrival.toList.map (·.record seen) ++
    stamped clock (done.notices status c.lastRejected block ++
      Commander.completionNotices status c.slowCompletion)

def reporting (seen : UInt64) (clock : List UInt64) (status : StatusWord) (c : Commander)
    (block : Option BlockRequest) (done : Exchange) : List Access :=
  [.takeBlockRequest] ++ publishing (done.arrival.toList.map (·.record seen)) ++
    telling (stamped clock (done.notices status c.lastRejected block ++
      Commander.completionNotices status c.slowCompletion))

theorem gist_reporting (seen : UInt64) (clock : List UInt64) (status : StatusWord) (c : Commander)
    (block : Option BlockRequest) (done : Exchange) :
    Gist.of (reporting seen clock status c block done) =
      ⟨[], [], [], [], records seen clock status c block done⟩ := by
  rw [reporting, Gist.of_append, Gist.of_append, Gist.of_publishing, Gist.of_telling]
  rfl

theorem telling_reporting (seen : UInt64) (clock : List UInt64) (status : StatusWord) (c : Commander)
    (block : Option BlockRequest) (done : Exchange) :
    ∀ access ∈ reporting seen clock status c block done, Telling access := by
  intro access listed
  rcases List.mem_append.1 listed with first | last
  · rcases List.mem_append.1 first with took | published
    · rw [List.mem_singleton.1 took]
      trivial
    · exact telling_publishing _ access published
  · exact telling_telling _ access last

theorem ends_report (seen : UInt64) (latched : status.has Status.newCommand = true) (c : Commander)
    (done : Exchange) (room : b.ring.head.toNat + 5 < 2 ^ 64) :
    Program.Ends transcribed (c.report seen status done) (b, k) fun out s =>
      out.1 = ⟨status, status.has Status.complete, some done⟩ ∧
        s.1.registers = b.registers ∧ s.1.inFlight = b.inFlight ∧
        s.2 = k ++ reporting seen b.clock status c (Responder.takeBlockRequest b.engine).1 done := by
  have few := done.length_notices_le status c.lastRejected (Responder.takeBlockRequest b.engine).1
  have last := Commander.length_completionNotices_latched latched c.slowCompletion
  have took : transcribed .takeBlockRequest (b, k) = (.ok (Responder.takeBlockRequest b.engine).1,
      { b with engine := (Responder.takeBlockRequest b.engine).2 }, k ++ [.takeBlockRequest]) :=
    transcribed_eq_ok rfl k
  rw [Commander.report_eq]
  refine Program.ends_access_bind took ?_
  refine Program.ends_bind (ends_tellArrival (by simp only; omega)) ?_
  rintro - ⟨b₁, k₁⟩ ⟨⟨ring, rfl, head⟩, rfl⟩
  refine Program.ends_bind (ends_tellAll ?_) ?_
  · simp only [head, List.length_append]
    omega
  rintro - ⟨b₂, k₂⟩ ⟨⟨ring', clock, rfl⟩, rfl⟩
  refine Program.ends_pure ⟨rfl, rfl, rfl, ?_⟩
  simp only [reporting, List.append_assoc, List.cons_append, List.nil_append]

theorem ends_idle (size : Offset.size ≤ 4 * b.registers.words.size)
    (room : b.ring.head.toNat + 5 < 2 ^ 64) (c : Commander) :
    Program.Ends transcribed (c.idle status) (b, k) fun out s =>
      out.1 = ⟨status, status.has Status.complete, none⟩ ∧
        s.1.registers = b.registers.writeAll (Commander.acknowledging (Commander.completion status)) ∧
        s.1.inFlight = b.inFlight ∧
        s.2 = k ++ writing (Commander.acknowledging (Commander.completion status)) ++
          telling (stamped b.clock (Commander.completionNotices status c.slowCompletion)) := by
  have few := Commander.length_completionNotices_le status c.slowCompletion
  rw [Commander.idle_eq]
  refine Program.ends_bind (ends_writeAll (inside_acknowledging size _)) ?_
  rintro - ⟨b₁, k₁⟩ ⟨⟩
  refine Program.ends_bind (ends_tellAll (by simp only; omega)) ?_
  rintro - ⟨b₂, k₂⟩ ⟨⟨ring', clock, rfl⟩, rfl⟩
  exact Program.ends_pure ⟨rfl, rfl, rfl, rfl⟩

theorem ends_serve (size : Offset.size ≤ 4 * b.registers.words.size)
    (room : b.ring.head.toNat + 5 < 2 ^ 64) (latched : status.has Status.newCommand = true)
    {c : Commander} {request : Request}
    (asked : request = ⟨status.commandIndex, b.registers.word Offset.argument, status.crc7⟩)
    {result : Except ProtocolError Nat} {response : Response} {after : π}
    (answers : Responder.dispatch request c.response b.engine =
      ⟨result.mapError .error, response, after⟩) :
    Program.Ends transcribed (c.serve status) (b, k) fun out s =>
      let done := Exchange.ofResult request.command result
      let writes := done.writes response ++
        Commander.acknowledging (done.acknowledged ||| Commander.completion status)
      out.1 = ⟨status, status.has Status.complete, some done⟩ ∧
        s.1.registers =
          { b.registers with reads := b.registers.reads + 1 }.writeAll writes ∧
        s.1.inFlight = false ∧
        s.2 = k ++ [.clock, .readRegister Offset.argument, .setInFlight true,
            .dispatch request c.response, .setInFlight false] ++
          writing writes ++
          reporting (b.clock.headD 0) b.clock.tail status c (Responder.takeBlockRequest after).1
            done := by
  subst asked
  have inside : Offset.argument / 4 < b.registers.words.size := by
    simp only [Offset.size, Offset.argument] at *
    omega
  have dispatched : perform (.dispatch ⟨status.commandIndex, b.registers.word Offset.argument,
      status.crc7⟩ c.response) { b with
        registers := { b.registers with reads := b.registers.reads + 1 }
        clock := b.clock.tail, inFlight := true } = (.ok (result, response), { b with
        registers := { b.registers with reads := b.registers.reads + 1 }
        clock := b.clock.tail, inFlight := true, engine := after }) := by
    rw [perform, answers, Bridge.dispatched]
    cases result <;> rfl
  rw [Commander.serve]
  refine Program.ends_access_bind (transcribed_eq_ok rfl k) ?_
  have read := perform_readRegister_inside (b := { b with clock := b.clock.tail }) (by decide) inside
  refine Program.ends_access_bind (transcribed_eq_ok read _) ?_
  refine Program.ends_access_bind (transcribed_eq_ok rfl _) ?_
  refine Program.ends_access_bind (transcribed_eq_ok dispatched _) ?_
  refine Program.ends_access_bind (transcribed_eq_ok rfl _) ?_
  refine Program.ends_bind (ends_writeAll ?_) ?_
  · intro w listed
    rcases List.mem_append.1 listed with first | last
    · exact inside_writes size _ _ w first
    · exact inside_acknowledging size _ w last
  rintro - ⟨b₁, k₁⟩ ⟨⟩
  refine Program.ends_mono (ends_report _ latched _ _ room) ?_
  rintro out ⟨b₂, k₂⟩ ⟨outcome, registers, inFlight, transcript⟩
  refine ⟨outcome, registers, inFlight, transcript.trans ?_⟩
  simp only [List.append_assoc, List.cons_append, List.nil_append]
  rfl

end Pass

def legal : Except ProtocolError Nat → Bool
  | .ok length => length == 0 || length == shortResponse || length == longResponse
  | .error _ => false

section Exchanged

variable {π : Type} [Responder π]

def cleared (b : Bridge π) (result : Except ProtocolError Nat) : UInt32 :=
  (if b.latched && legal result then Status.newCommand else 0) |||
    if b.completed then Status.complete else 0

/-- What a pass of the command loop did, if the engine answers the request in the registers by a
result and a buffer and is left in a state `after`. -/
structure Exchanged (b : Bridge π) (c : Commander) (result : Except ProtocolError Nat)
    (response : Response) (after : π) (o : Outcome) (b' : Bridge π) (accesses : List Access) :
    Prop where
  outcome : o = ⟨b.statusWord, b.completed,
    if b.latched then some (.ofResult b.request.command result) else none⟩
  reads : (Gist.of accesses).reads =
    Offset.status :: if b.latched then [Offset.argument] else []
  requests : (Gist.of accesses).requests = if b.latched then [b.request] else []
  /-- The flag goes up right before the dispatch and down right after it, and at no other time. -/
  calls : (Gist.of accesses).calls = if b.latched then
    [.setInFlight true, .dispatch b.request c.response, .setInFlight false] else []
  around : b.latched → [.setInFlight true, .dispatch b.request c.response, .setInFlight false] <:+:
    accesses
  writes : (Gist.of accesses).writes = b'.registers.log.toList
  long : b.latched → result = .ok longResponse → ∃ sent,
    b'.registers.log.toList = sent ++ Commander.acknowledging (b.cleared result) ∧
      Sent b.request.command response longResponse ["ENABLE", "SEND", "LONG_RESPONSE", "AUTO_CRC7"]
        sent
  short : b.latched → result = .ok shortResponse → ∃ sent,
    b'.registers.log.toList = sent ++ Commander.acknowledging (b.cleared result) ∧
      Sent b.request.command response shortResponse ["ENABLE", "SEND", "AUTO_CRC7"] sent
  silent : (b.latched → result ≠ .ok longResponse ∧ result ≠ .ok shortResponse) →
    b'.registers.log.toList = Commander.acknowledging (b.cleared result)
  left : b'.registers.word Offset.status = b.registers.word Offset.status &&& ~~~b.cleared result
  /-- The host sees its command pending until it runs into its time limit. -/
  pending : b.latched = true → legal result = false → b'.latched = true
  /-- Nothing is told before the last register write, and nothing else is done after it. -/
  order : ∃ work told, accesses = work ++ told ∧ (Gist.of work).events = [] ∧
    ∀ access ∈ told, Telling access
  events : (Gist.of accesses).events =
    match o.exchange with
    | none => stamped b.clock (Commander.completionNotices b.statusWord c.slowCompletion)
    | some done => records (b.clock.headD 0) b.clock.tail b.statusWord c
      (Responder.takeBlockRequest after).1 done

end Exchanged

section Results

variable {command : UInt8} {result : Except ProtocolError Nat} {response : Response}

theorem ofResult_of_legal {length : Nat} (fits : legal (.ok length) = true) :
    Exchange.ofResult command (.ok length) = .answered command length := by
  have known : length = 0 ∨ length = shortResponse ∨ length = longResponse := by
    simpa [legal, or_assoc] using fits
  rw [Exchange.ofResult, Commander.legalLength, if_pos known]

theorem ofResult_of_illegal (other : legal result = false) :
    ∃ why, Exchange.ofResult command result = .rejected command why := by
  cases result with
  | error cause => exact ⟨_, rfl⟩
  | ok length =>
    have unknown : ¬(length = 0 ∨ length = shortResponse ∨ length = longResponse) := by
      simpa [legal, and_assoc] using other
    exact ⟨.badLength length, by rw [Exchange.ofResult, Commander.legalLength, if_neg unknown]⟩

theorem acknowledged_ofResult : (Exchange.ofResult command result).acknowledged =
    if legal result then Status.newCommand else 0 := by
  cases fits : legal result with
  | true =>
    cases result with
    | error cause => cases fits
    | ok length => rw [ofResult_of_legal fits]; rfl
  | false =>
    obtain ⟨why, same⟩ : ∃ why, Exchange.ofResult command result = .rejected command why :=
      ofResult_of_illegal fits
    rw [same]
    rfl

/-- Only responses that have bytes are sent. -/
theorem writes_ofResult_silent (long : result ≠ .ok longResponse)
    (short : result ≠ .ok shortResponse) :
    (Exchange.ofResult command result).writes response = [] := by
  cases fits : legal result with
  | true =>
    cases result with
    | error cause => cases fits
    | ok length =>
      rw [ofResult_of_legal fits, Exchange.writes, Commander.sending,
        if_neg fun same => long (congrArg _ same), if_neg fun same => short (congrArg _ same)]
  | false =>
    obtain ⟨why, same⟩ : ∃ why, Exchange.ofResult command result = .rejected command why :=
      ofResult_of_illegal fits
    rw [same, Exchange.writes]

/-- STATUS after an acknowledgement. -/
theorem word_acknowledging {f : RegisterFile} (clears : Offset.status ∈ f.clearOnOne)
    (bits : UInt32) :
    (f.writeAll (Commander.acknowledging bits)).word Offset.status =
      f.word Offset.status &&& ~~~bits := by
  rw [Commander.acknowledging]
  split
  · exact RegisterFile.word_write_clears clears (by decide) bits
  · rename_i none
    rw [not_not.1 none]
    exact (UInt32.and_neg_one).symm

/-- An acknowledgement of a completion at most leaves a command latched. -/
theorem latched_of_left {π : Type} {b b' : Bridge π} (latched : b.latched = true)
    (other : legal result = false)
    (left : b'.registers.word Offset.status = b.registers.word Offset.status &&& ~~~b.cleared result) :
    b'.latched = true := by
  have kept : ~~~b.cleared result &&& Status.newCommand = Status.newCommand := by
    rw [Bridge.cleared, other, Bool.and_false]
    cases b.completed <;> decide
  rw [Bridge.latched, statusWord, StatusWord.has, left, UInt32.and_assoc, kept]
  exact latched

theorem apart_of_writes {done : Exchange} {w : RegisterWrite} (listed : w ∈ done.writes response) :
    Offset.status / 4 ≠ w.offset / 4 := by
  have apart : ∀ offset ∈ Offset.responseWords ++ [Offset.control],
      Offset.status / 4 ≠ offset / 4 := by decide
  exact apart w.offset (Exchange.offset_writes listed)

end Results

section Whole

variable {π : Type} {b : Bridge π}

/-- The registers are there and nothing was written yet, and the ring has numbers for the events of
one pass. -/
structure Ready (b : Bridge π) : Prop where
  size : Offset.size ≤ 4 * b.registers.words.size
  clears : Offset.status ∈ b.registers.clearOnOne
  unwritten : b.registers.log = #[]
  room : b.ring.head.toNat + 5 < 2 ^ 64

theorem Ready.inside_status (ready : b.Ready) : Offset.status / 4 < b.registers.words.size := by
  have size := ready.size
  simp only [Offset.size, Offset.status] at *
  omega

/-- The log of a register file that had none. -/
theorem log_writeAll_of_inside {f : RegisterFile} (unwritten : f.log = #[])
    {writes : List RegisterWrite} (inside : ∀ w ∈ writes, w.Inside f) :
    (f.writeAll writes).log.toList = writes := by
  rw [RegisterFile.log_writeAll fun w listed => (inside w listed).1, unwritten, List.nil_append]

variable [Responder π] {result : Except ProtocolError Nat} {response : Response} {after : π}

/-- A pass over registers that hold no command. -/
theorem exchanged_idle (ready : b.Ready) (idle : b.latched = false) (c : Commander) {o : Outcome}
    {b' : Bridge π} {accesses : List Access} (outcome : o = ⟨b.statusWord, b.completed, none⟩)
    {reads : UInt32} (registers : b'.registers = { b.registers with reads }.writeAll
      (Commander.acknowledging (Commander.completion b.statusWord)))
    (transcript : accesses = [.readRegister Offset.status] ++
      writing (Commander.acknowledging (Commander.completion b.statusWord)) ++
      telling (stamped b.clock (Commander.completionNotices b.statusWord c.slowCompletion))) :
    Exchanged b c result response after o b' accesses := by
  have cleared : b.cleared result = Commander.completion b.statusWord := by
    rw [Bridge.cleared, idle]
    exact UInt32.zero_or
  have log : b'.registers.log.toList = Commander.acknowledging (b.cleared result) := by
    rw [registers, cleared]
    exact log_writeAll_of_inside (f := { b.registers with reads }) ready.unwritten
      (inside_acknowledging ready.size _)
  have gist : Gist.of accesses = ⟨[Offset.status], [], [], b'.registers.log.toList,
      stamped b.clock (Commander.completionNotices b.statusWord c.slowCompletion)⟩ := by
    rw [transcript, Gist.of_append, Gist.of_append, Gist.of_writing, Gist.of_telling, log, cleared,
      Gist.append, Gist.append]
    simp only [List.append_nil]
    rfl
  have left : b'.registers.word Offset.status =
      b.registers.word Offset.status &&& ~~~b.cleared result := by
    rw [registers, word_acknowledging (f := { b.registers with reads }) ready.clears, cleared]
    rfl
  constructor
  case outcome =>
    rw [outcome, idle]
    rfl
  case reads =>
    rw [gist, idle]
    rfl
  case requests | calls =>
    rw [gist, idle]
    rfl
  case writes => rw [gist]
  case around | long | short | pending =>
    rw [idle]
    exact fun latched => absurd latched Bool.false_ne_true
  case silent => exact fun _ => log
  case left => exact left
  case order =>
    refine ⟨_, _, transcript, ?_, ?_⟩
    · rw [Gist.of_append, Gist.of_writing]
      rfl
    · exact telling_telling _
  case events =>
    rw [gist, outcome]

/-- A pass over registers that hold a command. -/
theorem exchanged_serve (ready : b.Ready) (latched : b.latched = true) (c : Commander) {o : Outcome}
    {b' : Bridge π} {accesses : List Access} {done : Exchange}
    (exchanged : done = Exchange.ofResult b.request.command result)
    (outcome : o = ⟨b.statusWord, b.completed, some done⟩)
    {reads : UInt32} (registers : b'.registers = { b.registers with reads }.writeAll
      (done.writes response ++
        Commander.acknowledging (done.acknowledged ||| Commander.completion b.statusWord)))
    (transcript : accesses = [.readRegister Offset.status, .clock, .readRegister Offset.argument] ++
      [.setInFlight true, .dispatch b.request c.response, .setInFlight false] ++
      writing (done.writes response ++
        Commander.acknowledging (done.acknowledged ||| Commander.completion b.statusWord)) ++
      reporting (b.clock.headD 0) b.clock.tail b.statusWord c (Responder.takeBlockRequest after).1
        done) :
    Exchanged b c result response after o b' accesses := by
  subst exchanged
  have cleared : b.cleared result = (Exchange.ofResult b.request.command result).acknowledged |||
      Commander.completion b.statusWord := by
    rw [Bridge.cleared, latched, acknowledged_ofResult]
    rfl
  rw [← cleared] at registers transcript
  have inside : ∀ w ∈ (Exchange.ofResult b.request.command result).writes response ++
      Commander.acknowledging (b.cleared result), w.Inside { b.registers with reads } := by
    intro w listed
    rcases List.mem_append.1 listed with first | last
    · exact inside_writes ready.size _ _ w first
    · exact inside_acknowledging ready.size _ w last
  have log := log_writeAll_of_inside (f := { b.registers with reads }) ready.unwritten inside
  rw [← registers] at log
  have left : b'.registers.word Offset.status =
      b.registers.word Offset.status &&& ~~~b.cleared result := by
    have clears : Offset.status ∈ (RegisterFile.writeAll { b.registers with reads }
        ((Exchange.ofResult b.request.command result).writes response)).clearOnOne := by
      rw [RegisterFile.clearOnOne_writeAll]
      exact ready.clears
    rw [registers, RegisterFile.writeAll_append, word_acknowledging clears,
      RegisterFile.word_writeAll fun w listed => apart_of_writes listed]
    rfl
  have index : b.request.command.toNat < 64 := by
    rw [request_eq, toNat_commandIndex]
    exact Nat.mod_lt _ (by decide)
  have gist : Gist.of accesses = ⟨[Offset.status, Offset.argument], [b.request],
      [.setInFlight true, .dispatch b.request c.response, .setInFlight false],
      b'.registers.log.toList, records (b.clock.headD 0) b.clock.tail b.statusWord c
        (Responder.takeBlockRequest after).1 (.ofResult b.request.command result)⟩ := by
    rw [transcript, Gist.of_append, Gist.of_append, Gist.of_append, Gist.of_writing, gist_reporting,
      log, Gist.append, Gist.append, Gist.append]
    simp only [List.append_nil]
    rfl
  constructor
  case outcome =>
    rw [outcome, latched]
    rfl
  case reads =>
    rw [gist, latched]
    rfl
  case requests | calls =>
    rw [gist, latched]
    rfl
  case writes => rw [gist]
  case around =>
    intro _
    rw [transcript, List.append_assoc _ (writing _)]
    exact List.infix_append ..
  case long =>
    rintro - rfl
    exact ⟨_, log, sent_long index response⟩
  case short =>
    rintro - rfl
    exact ⟨_, log, sent_short index response⟩
  case silent =>
    intro other
    obtain ⟨long, short⟩ := other latched
    rw [log, writes_ofResult_silent long short, List.nil_append]
  case left => exact left
  case pending => exact fun _ other => latched_of_left latched other left
  case order =>
    refine ⟨_, _, transcript, ?_, ?_⟩
    · rw [Gist.of_append, Gist.of_writing]
      rfl
    · exact telling_reporting _ _ _ _ _ _
  case events =>
    rw [gist, outcome]

variable [ByteSource π]

/-- One pass of the command loop is one exchange, from the read of STATUS to the acknowledgement,
with all events after the last write. -/
theorem one_exchange (ready : b.Ready) (c : Commander)
    (answers : b.latched = true → Responder.dispatch b.request c.response b.engine =
      ⟨result.mapError .error, response, after⟩) :
    ∃ o c' b' accesses, c.poll.run transcribed (b, []) = (.ok (o, c'), b', accesses) ∧
      c.poll.run perform b = (.ok (o, c'), b') ∧
      Exchanged b c result response after o b' accesses := by
  have aligned : Offset.status % 4 = 0 := by decide
  have read := perform_readRegister_inside aligned ready.inside_status
  have ends : Program.Ends transcribed c.poll (b, []) fun out s =>
      Exchanged b c result response after out.1 s.1 s.2 := by
    rw [Commander.poll_eq_serve]
    refine Program.ends_access_bind (transcribed_eq_ok read []) ?_
    change Program.Ends transcribed
      (if b.latched = true then c.serve b.statusWord else c.idle b.statusWord) _ _
    cases found : b.latched with
    | false =>
      rw [if_neg Bool.false_ne_true]
      refine Program.ends_mono (ends_idle (b := { b with
        registers := { b.registers with reads := b.registers.reads + 1 } }) ready.size ready.room c) ?_
      rintro ⟨o, c'⟩ ⟨b', accesses⟩ ⟨outcome, registers, -, transcript⟩
      exact exchanged_idle ready found c outcome registers transcript
    | true =>
      rw [if_pos rfl]
      refine Program.ends_mono (ends_serve (b := { b with
        registers := { b.registers with reads := b.registers.reads + 1 } }) ready.size ready.room
          found (request_eq b) (answers found)) ?_
      rintro ⟨o, c'⟩ ⟨b', accesses⟩ ⟨outcome, registers, -, transcript⟩
      refine exchanged_serve ready found c rfl outcome registers (transcript.trans ?_)
      simp only [List.append_assoc]
      rfl
  obtain ⟨⟨o, c'⟩, ⟨b', accesses⟩, ran, exchanged⟩ := ends
  refine ⟨o, c', b', accesses, ran, ?_, exchanged⟩
  rw [Program.run_noting perform transcribe c.poll b []]
  exact Prod.ext (congrArg (·.1) ran) (congrArg (·.2.1) ran)

/-- A response of sixteen bytes to CMD9, with a completion that waits to be acknowledged. -/
theorem one_exchange_long :
    let b : Bridge Rehearsal.Engine := {
      registers := { words := #[0, 0x00490003, 0, 0, 0xb3680000, 0, 0, 0], clearOnOne := [4] }
      buffer := { words := #[] }
      engine := { manner := .echo 16 none }
      ring := { shared := { slots := Array.replicate 2 .empty } } }
    let c : Commander := { slowCompletion := 50 }
    let a := Responder.dispatch b.request c.response b.engine
    b.Ready ∧ a.result = .ok 16 ∧ ∃ o c' b' accesses,
      c.poll.run perform b = (.ok (o, c'), b') ∧
        Exchanged b c (.ok 16) a.response a.state o b' accesses ∧
        b'.registers.log.toList.map (·.offset) = [0x10, 0x14, 0x18, 0x1c, 0x00, 0x04] ∧
        b'.registers.word Offset.status = 0x00490000 := by
  intro b c a
  have ready : b.Ready := ⟨by decide, by decide, rfl, by decide⟩
  have result : a.result = .ok 16 := by decide +kernel
  have answers : a = ⟨(Except.ok 16).mapError .error, a.response, a.state⟩ :=
    congrArg (Answer.mk · a.response a.state) result
  obtain ⟨o, c', b', accesses, -, ran, exchanged⟩ := one_exchange ready c fun _ => answers
  refine ⟨ready, result, o, c', b', accesses, ran, exchanged, ?_, ?_⟩
  · obtain ⟨sent, log, words⟩ := exchanged.long (by decide +kernel) rfl
    rw [log, List.map_append, words.places]
    decide +kernel
  · rw [exchanged.left]
    decide +kernel

end Whole

end Bridge
end SdBridge
