import SdBridge.Proofs.Bridge.Kinds

/-!
The command loop in order. A pass first reads, dispatches and writes; what it writes is a list of
register writes. Then it tells what happened; what it tells is a list of notices. Only the first
notice of an answered command is told under a time that was read before.
-/
namespace SdBridge.Bridge

/-- An event without its time. -/
structure Notice where
  kind : Event.Kind
  text : String
  extra : UInt64
  deriving DecidableEq

def Notice.record (n : Notice) (time : UInt64) : Event.Record := .of n.kind n.text n.extra time

namespace Loop

def tellAll : List Notice → Loop Unit
  | [] => pure ()
  | n :: rest => do
    publish n.kind n.text n.extra
    tellAll rest

def writeAll : List RegisterWrite → Loop Unit
  | [] => pure ()
  | w :: rest => do
    writeRegister w.offset w.value
    writeAll rest

theorem tellAll_append (first second : List Notice) :
    tellAll (first ++ second) = (do tellAll first; tellAll second) := by
  induction first with
  | nil => rfl
  | cons n rest ih => rw [List.cons_append, tellAll, tellAll, ih, bind_assoc]

theorem writeAll_append (first second : List RegisterWrite) :
    writeAll (first ++ second) = (do writeAll first; writeAll second) := by
  induction first with
  | nil => rfl
  | cons w rest ih => rw [List.cons_append, writeAll, writeAll, ih, bind_assoc]

end Loop

namespace Commander

open Loop

def sending (command : UInt8) (length : Nat) (response : Response) : List RegisterWrite :=
  let words := List.zipWith .mk Offset.responseWords (List.ofFn (responseWord response))
  if length = longResponse then
    words ++ [⟨Offset.control, Control.word (responseFlags ||| Control.longResponse) command 0⟩]
  else if length = shortResponse then
    words.take 1 ++ [⟨Offset.control, Control.word responseFlags command 0⟩]
  else []

theorem offset_sending {command : UInt8} {length : Nat} {response : Response} {w : RegisterWrite}
    (listed : w ∈ sending command length response) :
    w.offset ∈ Offset.responseWords ++ [Offset.control] := by
  have place := List.mem_map_of_mem (f := RegisterWrite.offset) listed
  rw [sending] at place
  split at place
  · exact place
  · split at place
    · have short : Offset.responseWords.take 1 ++ [Offset.control] ⊆
          Offset.responseWords ++ [Offset.control] := by decide
      exact short place
    · cases place

theorem respond_eq (command : UInt8) (length : Nat) (response : Response) :
    respond command length response = writeAll (sending command length response) := by
  rw [respond, sending]
  split
  · rfl
  · split <;> rfl

def acknowledging (bits : UInt32) : List RegisterWrite :=
  if bits ≠ 0 then [⟨Offset.status, bits⟩] else []

theorem mem_acknowledging {bits : UInt32} {w : RegisterWrite} (listed : w ∈ acknowledging bits) :
    w = ⟨Offset.status, bits⟩ := by
  rw [acknowledging] at listed
  split at listed
  · exact List.mem_singleton.1 listed
  · cases listed

theorem acknowledge_eq (bits : UInt32) : acknowledge bits = writeAll (acknowledging bits) := by
  rw [acknowledge, acknowledging]
  split <;> rfl

def blockNotices : Option BlockRequest → List Notice
  | some (.getSize bytes) => [⟨.getSize, "Get size", bytes⟩]
  | some (.readSector lba) => [⟨.readSector, "Read sector", lba⟩]
  | some (.writeSector lba) => [⟨.writeSector, "Write sector", lba⟩]
  | none => []

theorem reportBlock_eq (block : Option BlockRequest) :
    reportBlock block = tellAll (blockNotices block) := by
  rcases block with none | ⟨_ | _ | _⟩ <;> rfl

theorem length_blockNotices_le (block : Option BlockRequest) : (blockNotices block).length ≤ 1 := by
  rcases block with none | ⟨_ | _ | _⟩ <;> simp [blockNotices]

def rejectionNotice (command : UInt8) : Rejection → Notice
  | .badLength length => ⟨.badResponseLength, "Bad response length", length.toUInt64⟩
  | .refused _ => ⟨.protocolEngineError, "Protocol engine refused command", command.toUInt64⟩

theorem reportRejection_eq (command : UInt8) (why : Rejection) :
    reportRejection command why = tellAll [rejectionNotice command why] := by
  cases why <;> rfl

def completionNotices (status : StatusWord) (slow : UInt8) : List Notice :=
  if status.has Status.complete then
    ⟨.commandComplete, "Command complete", status.raw.toUInt64⟩ ::
      if !status.has Status.newCommand && slow < status.completionDelay then
        [⟨.slowCompletion, "Warning: processing took too long", status.completionDelay.toUInt64⟩]
      else []
  else []

theorem length_completionNotices_le (status : StatusWord) (slow : UInt8) :
    (completionNotices status slow).length ≤ 2 := by
  rw [completionNotices]
  split
  · split <;> simp
  · simp

/-- The delay of a completion is not known once a new command is latched. -/
theorem length_completionNotices_latched {status : StatusWord}
    (latched : status.has Status.newCommand = true) (slow : UInt8) :
    (completionNotices status slow).length ≤ 1 := by
  rw [completionNotices, latched]
  split <;> simp

theorem reportCompletion_eq (status : StatusWord) (c : Commander) :
    (if status.has Status.complete then c.reportCompletion status else pure ()) =
      tellAll (completionNotices status c.slowCompletion) := by
  rw [reportCompletion, completionNotices]
  split
  · split <;> rfl
  · rfl

end Commander

namespace Exchange

open Loop Commander

def ofResult (command : UInt8) (result : Except ProtocolError Nat) : Exchange :=
  match legalLength result with
  | .ok length => .answered command length
  | .error why => .rejected command why

def writes (response : Response) : Exchange → List RegisterWrite
  | .answered command length => sending command length response
  | .rejected _ _ => []

theorem offset_writes {done : Exchange} {response : Response} {w : RegisterWrite}
    (listed : w ∈ done.writes response) : w.offset ∈ Offset.responseWords ++ [Offset.control] := by
  cases done with
  | answered command length => exact offset_sending listed
  | rejected command why => cases listed

/-- The bits of STATUS that an exchange acknowledges. -/
def acknowledged : Exchange → UInt32
  | .answered _ _ => Status.newCommand
  | .rejected _ _ => 0

def dropped? (status : StatusWord) : Exchange → Option UInt32
  | .answered _ _ => none
  | .rejected _ _ => some (rejectionKey status)

/-- What is told under the time when the command was seen. -/
def arrival : Exchange → Option Notice
  | .answered command _ => some ⟨.commandReceived, "New command", command.toUInt64⟩
  | .rejected _ _ => none

/-- What is told of an exchange under the present time. A dropped exchange is not told again while
the last one that was dropped is the same. -/
def notices (status : StatusWord) (lastRejected : Option UInt32) (block : Option BlockRequest) :
    Exchange → List Notice
  | .answered command length =>
    (if length = 0 then [⟨.noResponse, "No response", command.toUInt64⟩] else []) ++
      (blockNotices block ++ [⟨.commandProcessed, "Processed command", command.toUInt64⟩])
  | .rejected command why =>
    (if lastRejected ≠ some (rejectionKey status) then [rejectionNotice command why] else []) ++
      blockNotices block

/-- An exchange has at most four notices, the first one included. -/
theorem length_notices_le (done : Exchange) (status : StatusWord) (last : Option UInt32)
    (block : Option BlockRequest) :
    done.arrival.toList.length + (done.notices status last block).length ≤ 4 := by
  have few := length_blockNotices_le block
  cases done with
  | answered command length =>
    simp only [arrival, notices, List.length_append]
    split <;> simp <;> omega
  | rejected command why =>
    simp only [arrival, notices, List.length_append]
    split <;> simp <;> omega

def tellArrival (seen : UInt64) (done : Exchange) : Loop Unit :=
  match done.arrival with
  | some n => publishAt seen n.kind n.text n.extra
  | none => pure ()

end Exchange

namespace Commander

open Loop

theorem conclude_eq (command : UInt8) (result : Except ProtocolError Nat) (c : Commander) :
    c.conclude command result = (do
      writeAll ((Exchange.ofResult command result).writes c.response)
      pure (.ofResult command result, (Exchange.ofResult command result).acknowledged, c)) := by
  rw [conclude, Exchange.ofResult]
  cases legalLength result with
  | ok length =>
    simp only [respond_eq]
    rfl
  | error why => rfl

theorem reportExchange_eq (seen : UInt64) (status : StatusWord) (c : Commander) (done : Exchange) :
    c.reportExchange seen status done = (do
      let block ← takeBlockRequest
      done.tellArrival seen
      tellAll (done.notices status c.lastRejected block)
      pure (done.dropped? status)) := by
  cases done with
  | answered command length =>
    simp only [reportExchange, reportBlock_eq, Exchange.notices, tellAll_append, bind_assoc,
      Exchange.tellArrival, Exchange.arrival, Exchange.dropped?]
    split <;> rfl
  | rejected command why =>
    simp only [reportExchange, reportBlock_eq, reportRejection_eq, Exchange.notices, tellAll_append,
      bind_assoc, Exchange.tellArrival, Exchange.arrival, Exchange.dropped?, pure_bind]
    split <;> rfl

theorem report_eq (seen : UInt64) (status : StatusWord) (done : Exchange) (c : Commander) :
    c.report seen status done = (do
      let block ← takeBlockRequest
      done.tellArrival seen
      tellAll (done.notices status c.lastRejected block ++
        completionNotices status c.slowCompletion)
      pure (⟨status, status.has Status.complete, some done⟩,
        { c with lastRejected := done.dropped? status })) := by
  simp only [tellAll_append, bind_assoc, ← reportCompletion_eq, report, reportExchange_eq]
  split <;> simp only [pure_bind]

theorem idle_eq (status : StatusWord) (c : Commander) :
    c.idle status = (do
      writeAll (acknowledging (completion status))
      tellAll (completionNotices status c.slowCompletion)
      pure (⟨status, status.has Status.complete, none⟩, { c with lastRejected := none })) := by
  simp only [idle, acknowledge_eq, ← reportCompletion_eq]
  split <;> rfl

def serve (status : StatusWord) (c : Commander) : Loop (Outcome × Commander) := do
  let seen ← readClock
  let argument ← readRegister Offset.argument
  setInFlight true
  let (result, response) ← dispatch ⟨status.commandIndex, argument, status.crc7⟩ c.response
  setInFlight false
  let done := Exchange.ofResult status.commandIndex result
  writeAll (done.writes response ++ acknowledging (done.acknowledged ||| completion status))
  { c with response }.report seen status done

theorem poll_eq_serve (c : Commander) :
    c.poll = (do
      let word ← readRegister Offset.status
      if StatusWord.has ⟨word⟩ Status.newCommand then c.serve ⟨word⟩ else c.idle ⟨word⟩) := by
  simp only [poll_eq, exchange_eq, conclude_eq, acknowledge_eq, serve, writeAll_append, bind_assoc,
    pure_bind]

end Commander
end SdBridge.Bridge
