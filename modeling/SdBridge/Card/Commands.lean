import SdBridge.Card.Command
import SdBridge.Card.Registers
import SdBridge.Card.Status
import SdBridge.Card.Ticket
import SdBridge.Image.Store
import SdBridge.Protocol
import SdBridge.Register.Word

/-!
The command half of the card. It answers from memory alone: what it wants from the image it posts
as a ticket, and the only word it reads from the data half is the ticket finished last.
-/
namespace SdBridge.Card

structure Commands where
  state : State := .idle
  rca : UInt16 := 0
  status : UInt32 := 0
  /-- The next command is an application command. -/
  appExpected : Bool := false
  wideBus : Bool := false
  sectors : UInt64
  cid : Vector UInt8 16
  csd : Vector UInt8 16
  generation : UInt32 := 0
  /-- The latest ticket: the word that the data half watches. -/
  posted : Ticket := .idle
  pending : Option BlockRequest := none
  /-- An application command that was refused. The bridge repeats it while the host has it
  latched, and it is still an application command then. -/
  refused : Option Request := none

def Commands.ofImage (sectors : UInt64) (identity : Identity) : Commands :=
  { sectors, cid := Card.cid identity, csd := Card.csd sectors }

/-- What a handler works on: the command half, and the buffer for its response. -/
structure Desk where
  commands : Commands
  response : Response

/-- A handler. If it fails, what it did until then is not undone. -/
abbrev Work := EStateM (Failure ProtocolError) Desk

namespace Commands

def rcaStep : UInt16 := 0x4567

def blockLength : UInt32 := 512

def voltageRange : UInt32 := 1

def post (job : Job) (c : Commands) : Except (Failure ProtocolError) Commands :=
  let generation := nextGeneration c.generation
  match Ticket.issue generation job with
  | .ok posted => .ok { c with generation, posted }
  | .error fault => .error (.fault fault)

/-- Leave the data state once the data half has finished the job posted last. -/
def sync (finished : Ticket) (c : Commands) : Commands :=
  if c.state = .sendingData ∧ finished = c.posted then { c with state := .transfer } else c

def addressed (argument : UInt32) (c : Commands) : Bool := (argument >>> 16).toUInt16 == c.rca

/-- The address after another. Zero is left out. -/
def nextRca (rca : UInt16) : UInt16 := if rca + rcaStep = 0 then rcaStep else rca + rcaStep

/-- Whether a command is read as an application command: the one before was a prefix, or was
this very command, read as one and refused. -/
def readsAsApp (request : Request) (c : Commands) : Bool :=
  c.appExpected || c.refused == some request

def current : Work Commands := return (← get).commands

def change (f : Commands → Commands) : Work Unit :=
  modify fun desk => { desk with commands := f desk.commands }

def enter (state : State) : Work Unit := change fun c => { c with state }

def refuse (cause : ProtocolError) : Work α := throw (.error cause)

def expect (command : UInt8) (allowed : List State) : Work Unit := do
  let c ← current
  if c.state ∉ allowed then refuse (.wrongState command c.state.name)

def hand (job : Job) : Work Unit := do
  match (← current).post job with
  | .ok c => change fun _ => c
  | .error failure => throw failure

/-- Write a short response. What the buffer holds behind it stays. -/
def short (word : UInt32) : Work Nat := do
  modify fun desk => { desk with response := overlay (bytesOfWord word).toArray desk.response }
  return shortResponse

def long (register : Vector UInt8 16) : Work Nat := do
  modify fun desk => { desk with response := register }
  return longResponse

/-- The status word, which clears the errors it reports. -/
def report (extra : UInt32) : Work UInt32 := do
  let c ← current
  change fun c => { c with status := c.status &&& ~~~Status.errors }
  return Status.word c.status extra c.state

def r1 (extra : UInt32 := 0) : Work Nat := do
  short (← report extra)

def r6 : Work Nat := do
  let word ← report 0
  let c ← current
  short ((c.rca.toUInt32 <<< 16) ||| Status.condensed word)

def reset : Work Unit := do
  change fun c =>
    { c with state := .idle, rca := 0, status := 0, appExpected := false, wideBus := false }
  hand .idle

def select (request : Request) : Work Nat := do
  let c ← current
  if c.addressed request.argument then
    expect request.command [.standby]
    let length ← r1
    enter .transfer
    return length
  else if c.state = .transfer ∨ c.state = .sendingData then
    hand .idle
    enter .standby
    return 0
  else return 0

/-- Queue the sectors from one on, if that one exists. -/
def startRead (lba : UInt64) (job : Job) : Work Bool := do
  let c ← current
  if c.sectors ≤ lba then
    change fun c => { c with status := c.status ||| Status.outOfRange }
    return false
  else
    hand job
    change fun c => { c with pending := some (.readSector lba) }
    return true

def read (job : UInt64 → Job) (request : Request) : Work Nat := do
  expect request.command [.transfer]
  let lba := request.argument.toUInt64
  let started ← startRead lba (job lba)
  let length ← r1
  if started then enter .sendingData
  return length

/-- Refuse to write, by a status bit. -/
def write (request : Request) : Work Nat := do
  expect request.command [.transfer]
  change fun c =>
    { c with
      status := c.status ||| Status.writeProtectViolation
      pending := some (.writeSector request.argument.toUInt64) }
  r1

def send (job : Commands → Job) (request : Request) : Work Nat := do
  expect request.command [.transfer]
  let length ← r1 Status.appCommand
  hand (job (← current))
  enter .sendingData
  return length

/-- Answer a plain command. The result is the length of the response. -/
def plain (request : Request) : Work Nat :=
  let command := request.command
  let argument := request.argument
  match Command.ofIndex? command with
  | none => refuse (.illegalCommand command)
  | some .goIdleState => do
    reset
    return 0
  | some .allSendCid => do
    expect command [.ready]
    enter .ident
    long (← current).cid
  | some .sendRelativeAddress => do
    expect command [.ident, .standby]
    change fun c => { c with rca := nextRca c.rca }
    let length ← r6
    enter .standby
    return length
  | some .selectCard => select request
  | some .sendInterfaceCondition => do
    expect command [.idle]
    if (argument >>> 8) &&& 0xf ≠ voltageRange then return 0
    else short (argument &&& 0xfff)
  | some .sendCsd => do
    expect command [.standby]
    let c ← current
    if c.addressed argument then
      match checkedMul c.sectors Image.sectorSize.toUInt64 with
      | .ok bytes =>
        change fun c => { c with pending := some (.getSize bytes) }
        long c.csd
      | .error fault => throw (.fault fault)
    else return 0
  | some .sendCid => do
    expect command [.standby]
    let c ← current
    if c.addressed argument then long c.cid else return 0
  | some .stopTransmission => do
    expect command [.sendingData]
    hand .idle
    let length ← r1
    enter .transfer
    return length
  | some .sendStatus => do
    expect command [.standby, .transfer, .sendingData]
    let c ← current
    if c.addressed argument then r1 else return 0
  | some .setBlockLength => do
    expect command [.transfer]
    if argument ≠ blockLength then
      change fun c => { c with status := c.status ||| Status.blockLengthError }
    r1
  | some .readSingleBlock => read .readBlock request
  | some .readMultipleBlock => read .readBlocks request
  | some .writeBlock | some .writeMultipleBlock => write request
  | some .appCommand => do
    let c ← current
    if c.state ≠ .idle ∧ !c.addressed argument then return 0
    else
      change fun c => { c with appExpected := true }
      r1 Status.appCommand

def app (request : Request) : Work Nat :=
  let command := request.command
  let argument := request.argument
  match AppCommand.ofIndex? command with
  | none => plain request
  | some .setBusWidth => do
    expect command [.transfer]
    if argument &&& 3 = 0 then
      change fun c => { c with wideBus := false }
      r1 Status.appCommand
    else if argument &&& 3 = 2 then
      change fun c => { c with wideBus := true }
      r1 Status.appCommand
    else refuse (.outOfRange command argument)
  | some .sdStatus => send (fun c => .sdStatus c.wideBus) request
  | some .sendOperatingCondition => do
    expect command [.idle, .ready]
    if argument &&& ocrVoltageWindow ≠ 0 then
      enter .ready
      short (ocrVoltageWindow ||| ocrPoweredUp ||| ocrHighCapacity)
    else short ocrVoltageWindow
  | some .sendScr => send (fun _ => .scr) request

/-- Remember a refused application command, and report an illegal command with the next status. -/
def noteRefusal (request : Request) (isApp : Bool) (cause : ProtocolError) : Work Unit := do
  if isApp then change fun c => { c with refused := some request }
  match cause with
  | .illegalCommand _ => change fun c => { c with status := c.status ||| Status.illegalCommand }
  | _ => return

def handle (request : Request) : Work Nat := do
  let isApp := (← current).readsAsApp request
  change fun c => { c with pending := none, refused := none, appExpected := false }
  try
    if isApp then app request else plain request
  catch failure =>
    -- The state is as the handler left it: catching a failure does not take anything back.
    if let .error cause := failure then noteRefusal request isApp cause
    throw failure

end Commands
end SdBridge.Card
