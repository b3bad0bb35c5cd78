import SdBridge.Proofs.Card.Reply
import SdBridge.Proofs.Card.Ticket

/-!
What a card does with the commands that it accepts, one case for each way of accepting one. These
cases say nothing of the handlers; that the handlers keep to them is a theorem about each branch.
-/
namespace SdBridge.Card

def Command.index : Command → Nat
  | .goIdleState => 0
  | .allSendCid => 2
  | .sendRelativeAddress => 3
  | .selectCard => 7
  | .sendInterfaceCondition => 8
  | .sendCsd => 9
  | .sendCid => 10
  | .stopTransmission => 12
  | .sendStatus => 13
  | .setBlockLength => 16
  | .readSingleBlock => 17
  | .readMultipleBlock => 18
  | .writeBlock => 24
  | .writeMultipleBlock => 25
  | .appCommand => 55

theorem Command.toNat_of_ofIndex? {index : UInt8} {command : Command}
    (known : ofIndex? index = some command) : index.toNat = command.index := by
  unfold ofIndex? at known
  split at known
  all_goals first | contradiction | (cases known; assumption)

theorem Command.ofIndex?_of_toNat {index : UInt8} {command : Command}
    (known : index.toNat = command.index) : ofIndex? index = some command := by
  cases command <;> simp only [ofIndex?, known, Command.index]

theorem Command.index_ne_of_ofIndex? {index : UInt8} (unknown : ofIndex? index = none)
    (command : Command) : index.toNat ≠ command.index := by
  intro known
  rw [ofIndex?_of_toNat known] at unknown
  contradiction

def Command.states : Command → List State
  | .allSendCid => [.ready]
  | .sendRelativeAddress => [.ident, .standby]
  | .selectCard | .sendCsd | .sendCid => [.standby]
  | .sendInterfaceCondition => [.idle]
  | .stopTransmission => [.sendingData]
  | .sendStatus => [.standby, .transfer, .sendingData]
  | .setBlockLength | .readSingleBlock | .readMultipleBlock | .writeBlock
  | .writeMultipleBlock => [.transfer]
  | .goIdleState | .appCommand => [.idle, .ready, .ident, .standby, .transfer, .sendingData]

def AppCommand.index : AppCommand → Nat
  | .setBusWidth => 6
  | .sdStatus => 13
  | .sendOperatingCondition => 41
  | .sendScr => 51

theorem AppCommand.toNat_of_ofIndex? {index : UInt8} {command : AppCommand}
    (known : ofIndex? index = some command) : index.toNat = command.index := by
  unfold ofIndex? at known
  split at known
  all_goals first | contradiction | (cases known; assumption)

theorem AppCommand.ofIndex?_of_toNat {index : UInt8} {command : AppCommand}
    (known : index.toNat = command.index) : ofIndex? index = some command := by
  cases command <;> simp only [ofIndex?, known, AppCommand.index]

theorem AppCommand.index_ne_of_ofIndex? {index : UInt8} (unknown : ofIndex? index = none)
    (command : AppCommand) : index.toNat ≠ command.index := by
  intro known
  rw [ofIndex?_of_toNat known] at unknown
  contradiction

def AppCommand.states : AppCommand → List State
  | .setBusWidth | .sdStatus | .sendScr => [.transfer]
  | .sendOperatingCondition => [.idle, .ready]

namespace Commands

def issued (job : Job) (c : Commands) : Commands :=
  let generation := nextGeneration c.generation
  { c with generation, posted := .pack generation job }

def reported (c : Commands) : Commands := { c with status := c.status &&& ~~~Status.errors }

/-- A status response, before the errors it reports are cleared. -/
def statusReply (c : Commands) (extra : UInt32 := 0) : Reply :=
  .short (Status.word c.status extra c.state)

theorem post_eq_ok {job : Job} (fits : job.payload ≤ Ticket.payloadMask) (c : Commands) :
    c.post job = .ok (c.issued job) := by
  simp [post, Ticket.issue_eq_ok _ fits, issued]

/-- An argument always fits the payload of a ticket. -/
theorem argument_fits (argument : UInt32) : argument.toUInt64 ≤ Ticket.payloadMask := by
  have bound := argument.toNat_lt
  rw [UInt64.le_iff_toNat_le, UInt32.toNat_toUInt64]
  simp only [Ticket.payloadMask, UInt64.reduceToNat]
  omega

def readJob (request : Request) : Job :=
  if request.command.toNat = 17 then .readBlock request.argument.toUInt64
  else .readBlocks request.argument.toUInt64

theorem readJob_fits (request : Request) : (readJob request).payload ≤ Ticket.payloadMask := by
  unfold readJob
  split <;> exact argument_fits request.argument

/-- The response that publishes an address, which takes 13 bits of the status word along. -/
def addressReply (rca : UInt16) (c : Commands) : Reply :=
  .short ((rca.toUInt32 <<< 16) ||| Status.condensed (Status.word c.status 0 c.state))

/-- The ways of accepting a plain command: the reply and the state after it. -/
inductive Accepts (request : Request) (c : Commands) : Reply → Commands → Prop where
  | reset (index : request.command.toNat = 0) :
    Accepts request c .silent (issued .idle
      { c with state := .idle, rca := 0, status := 0, appExpected := false, wideBus := false })
  | identify (index : request.command.toNat = 2) (state : c.state = .ready) :
    Accepts request c (.long c.cid) { c with state := .ident }
  | address (index : request.command.toNat = 3) (state : c.state = .ident ∨ c.state = .standby) :
    Accepts request c (c.addressReply (nextRca c.rca))
      { reported { c with rca := nextRca c.rca } with state := .standby }
  | select (index : request.command.toNat = 7) (state : c.state = .standby)
      (addressed : c.addressed request.argument = true) :
    Accepts request c c.statusReply { c.reported with state := .transfer }
  | deselect (index : request.command.toNat = 7) (addressed : c.addressed request.argument = false)
      (state : c.state = .transfer ∨ c.state = .sendingData) :
    Accepts request c .silent { c.issued .idle with state := .standby }
  /-- A command for another card or for another voltage. -/
  | ignore (index : request.command.toNat ∈ [7, 8, 9, 10, 13, 55])
      (foreign : request.command.toNat ≠ 8 → c.addressed request.argument = false)
      (unselected : request.command.toNat = 7 → c.state ≠ .transfer ∧ c.state ≠ .sendingData)
      (begun : request.command.toNat = 55 → c.state ≠ .idle)
      (state : ∀ command : Command, request.command.toNat = command.index →
        command ≠ .selectCard → c.state ∈ command.states)
      (range : request.command.toNat = 8 → (request.argument >>> 8) &&& 0xf ≠ voltageRange) :
    Accepts request c .silent c
  | voltage (index : request.command.toNat = 8) (state : c.state = .idle)
      (range : (request.argument >>> 8) &&& 0xf = voltageRange) :
    Accepts request c (.short (request.argument &&& 0xfff)) c
  | capacity (index : request.command.toNat = 9) (state : c.state = .standby) (bytes : UInt64)
      (size : checkedMul c.sectors Image.sectorSize.toUInt64 = .ok bytes)
      (addressed : c.addressed request.argument = true) :
    Accepts request c (.long c.csd) { c with pending := some (.getSize bytes) }
  | identity (index : request.command.toNat = 10) (state : c.state = .standby)
      (addressed : c.addressed request.argument = true) :
    Accepts request c (.long c.cid) c
  | stop (index : request.command.toNat = 12) (state : c.state = .sendingData) :
    Accepts request c c.statusReply { (c.issued .idle).reported with state := .transfer }
  | status (index : request.command.toNat = 13)
      (state : c.state ∈ [.standby, .transfer, .sendingData])
      (addressed : c.addressed request.argument = true) :
    Accepts request c c.statusReply c.reported
  | blockLength (index : request.command.toNat = 16) (state : c.state = .transfer)
      (length : request.argument = Commands.blockLength) :
    Accepts request c c.statusReply c.reported
  | otherLength (index : request.command.toNat = 16) (state : c.state = .transfer)
      (length : request.argument ≠ Commands.blockLength) :
    Accepts request c
      (statusReply { c with status := c.status ||| Status.blockLengthError })
      (reported { c with status := c.status ||| Status.blockLengthError })
  | outside (index : request.command.toNat ∈ [17, 18]) (state : c.state = .transfer)
      (range : c.sectors ≤ request.argument.toUInt64) :
    Accepts request c
      (statusReply { c with status := c.status ||| Status.outOfRange })
      (reported { c with status := c.status ||| Status.outOfRange })
  | read (index : request.command.toNat ∈ [17, 18]) (state : c.state = .transfer)
      (range : request.argument.toUInt64 < c.sectors) :
    Accepts request c c.statusReply
      { (c.issued (readJob request)).reported with
        pending := some (.readSector request.argument.toUInt64), state := .sendingData }
  | write (index : request.command.toNat ∈ [24, 25]) (state : c.state = .transfer) :
    Accepts request c
      (statusReply { c with status := c.status ||| Status.writeProtectViolation })
      { reported { c with status := c.status ||| Status.writeProtectViolation } with
        pending := some (.writeSector request.argument.toUInt64) }
  | announce (index : request.command.toNat = 55)
      (addressed : c.state = .idle ∨ c.addressed request.argument = true) :
    Accepts request c (c.statusReply Status.appCommand) { c.reported with appExpected := true }

inductive AcceptsApp (request : Request) (c : Commands) : Reply → Commands → Prop where
  | width (index : request.command.toNat = 6) (state : c.state = .transfer) (wideBus : Bool)
      (field : request.argument &&& 3 = if wideBus then 2 else 0) :
    AcceptsApp request c (c.statusReply Status.appCommand) { c.reported with wideBus }
  | status (index : request.command.toNat = 13) (state : c.state = .transfer) :
    AcceptsApp request c (c.statusReply Status.appCommand)
      { c.reported.issued (.sdStatus c.wideBus) with state := .sendingData }
  | operate (index : request.command.toNat = 41) (state : c.state = .idle ∨ c.state = .ready)
      (window : request.argument &&& ocrVoltageWindow ≠ 0) :
    AcceptsApp request c (.short (ocrVoltageWindow ||| ocrPoweredUp ||| ocrHighCapacity))
      { c with state := .ready }
  | inquire (index : request.command.toNat = 41) (state : c.state = .idle ∨ c.state = .ready)
      (window : request.argument &&& ocrVoltageWindow = 0) :
    AcceptsApp request c (.short ocrVoltageWindow) c
  | scr (index : request.command.toNat = 51) (state : c.state = .transfer) :
    AcceptsApp request c (c.statusReply Status.appCommand)
      { c.reported.issued .scr with state := .sendingData }
  | plain (index : ∀ command : AppCommand, request.command.toNat ≠ command.index) {reply c'}
      (accepts : Accepts request c reply c') : AcceptsApp request c reply c'

end Commands
end SdBridge.Card
