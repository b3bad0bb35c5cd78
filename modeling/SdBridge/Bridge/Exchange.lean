import SdBridge.Bridge.Access
import SdBridge.Event.Drain
import SdBridge.Register.Layout
import SdBridge.Register.Word

/-!
The command loop: it polls STATUS, hands new commands to the protocol engine, writes the response
words and acknowledges. An exchange that the engine refuses, or answers with an illegal length,
is dropped: the new-command bit stays set and the host runs into its time limit. Events are
published after the last register write of a pass.
-/
namespace SdBridge.Bridge

inductive Rejection where
  | badLength (length : Nat)
  | refused (cause : ProtocolError)
  deriving DecidableEq

inductive Exchange where
  | answered (command : UInt8) (length : Nat)
  | rejected (command : UInt8) (why : Rejection)
  deriving DecidableEq

structure Outcome where
  status : StatusWord
  /-- The end of a response was acknowledged. -/
  completed : Bool
  exchange : Option Exchange
  deriving DecidableEq

def Outcome.isIdle (o : Outcome) : Bool := !o.completed && o.exchange.isNone

structure Commander where
  /-- Completions that take more cycles than this are slow. -/
  slowCompletion : UInt8
  response : Response := Vector.replicate 16 0
  /-- STATUS, without the completion bit, of the exchange dropped last: a command that the host
  has not withdrawn is reported once. -/
  lastRejected : Option UInt32 := none

namespace Commander

open Loop

def threadName : String := "sdproxy-cmd"

def legalLength (result : Except ProtocolError Nat) : Except Rejection Nat :=
  match result with
  | .ok length =>
    if length = 0 ∨ length = shortResponse ∨ length = longResponse then .ok length
    else .error (.badLength length)
  | .error cause => .error (.refused cause)

def responseWord (response : Response) (word : Fin 4) : UInt32 :=
  wordOfBytes response[4 * word.val] response[4 * word.val + 1] response[4 * word.val + 2]
    response[4 * word.val + 3]

def responseFlags : UInt32 := Control.enable ||| Control.send ||| Control.autoCrc7

/-- Write the words of a response, then start it. A response without bytes is not sent. -/
def respond (command : UInt8) (length : Nat) (response : Response) : Loop Unit := do
  if length = longResponse then
    writeRegister Offset.argument (responseWord response 0)
    writeRegister Offset.argument2 (responseWord response 1)
    writeRegister Offset.argument3 (responseWord response 2)
    writeRegister Offset.argument4 (responseWord response 3)
    writeRegister Offset.control (Control.word (responseFlags ||| Control.longResponse) command 0)
  else if length = shortResponse then
    writeRegister Offset.argument (responseWord response 0)
    writeRegister Offset.control (Control.word responseFlags command 0)

/-- Clear bits of STATUS by one write, if there are any to clear. -/
def acknowledge (bits : UInt32) : Loop Unit := do
  if bits ≠ 0 then writeRegister Offset.status bits

def reportBlock : Option BlockRequest → Loop Unit
  | some (.getSize bytes) => publish .getSize "Get size" bytes
  | some (.readSector lba) => publish .readSector "Read sector" lba
  | some (.writeSector lba) => publish .writeSector "Write sector" lba
  | none => pure ()

def reportRejection (command : UInt8) : Rejection → Loop Unit
  | .badLength length => publish .badResponseLength "Bad response length" length.toUInt64
  | .refused _ =>
    publish .protocolEngineError "Protocol engine refused command" command.toUInt64

/-- What identifies a dropped exchange while the host has its command latched. -/
def rejectionKey (status : StatusWord) : UInt32 := status.raw &&& ~~~Status.complete

def reportExchange (seen : UInt64) (status : StatusWord) (c : Commander) :
    Exchange → Loop (Option UInt32)
  | .answered command length => do
    let block ← takeBlockRequest
    publishAt seen .commandReceived "New command" command.toUInt64
    if length = 0 then publish .noResponse "No response" command.toUInt64
    reportBlock block
    publish .commandProcessed "Processed command" command.toUInt64
    pure none
  | .rejected command why => do
    let block ← takeBlockRequest
    let key := rejectionKey status
    if c.lastRejected ≠ some key then reportRejection command why
    reportBlock block
    pure (some key)

/-- The events of a completion. The delay can be told only while no new command overwrote it. -/
def reportCompletion (status : StatusWord) (c : Commander) : Loop Unit := do
  publish .commandComplete "Command complete" status.raw.toUInt64
  if !status.has Status.newCommand && c.slowCompletion < status.completionDelay then
    publish .slowCompletion "Warning: processing took too long" status.completionDelay.toUInt64

/-- Hand a latched command to the protocol engine and answer it. The result is the exchange and
the bits of STATUS that it acknowledges. -/
def exchange (status : StatusWord) (c : Commander) : Loop (Exchange × UInt32 × Commander) := do
  let argument ← readRegister Offset.argument
  let request : Request := ⟨status.commandIndex, argument, status.crc7⟩
  setInFlight true
  let (result, response) ← dispatch request c.response
  setInFlight false
  let c := { c with response }
  match legalLength result with
  | .ok length =>
    respond request.command length response
    pure (.answered request.command length, Status.newCommand, c)
  | .error why => pure (.rejected request.command why, 0, c)

def poll (c : Commander) : Loop (Outcome × Commander) := do
  let status ← StatusWord.mk <$> readRegister Offset.status
  let completed := status.has Status.complete
  let completion := if completed then Status.complete else 0
  if status.has Status.newCommand then
    let seen ← readClock
    let (done, answered, c) ← c.exchange status
    acknowledge (answered ||| completion)
    let lastRejected ← c.reportExchange seen status done
    if completed then c.reportCompletion status
    pure (⟨status, completed, some done⟩, { c with lastRejected })
  else
    acknowledge completion
    if completed then c.reportCompletion status
    pure (⟨status, completed, none⟩, { c with lastRejected := none })

/-- Enable the reception of commands, which comes before the first pass. -/
def arm (processor : Option UInt64) : Loop Unit := do
  writeRegister Offset.control Control.enable
  publish .started "Command loop started" (processor.getD Event.unknownProcessor)

end Commander
end SdBridge.Bridge
