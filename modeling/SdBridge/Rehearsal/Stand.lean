import SdBridge.Bridge.Exchange
import SdBridge.Bridge.Transfer
import SdBridge.Register.Hardware

/-!
A stand on which the loops of a bridge are tried one after the other. What the hardware does while
a loop runs is planned beforehand, and every dispatch is recorded.
-/
namespace SdBridge.Rehearsal

structure Dispatch where
  request : Request
  inFlight : Bool
  /-- What a pass of the data loop did meanwhile, if there was one. -/
  meanwhile : Option (Except Fault Bridge.Transfer)

structure Plan where
  /-- The registers that the hardware sets before each read of STATUS. -/
  feed : List (List RegisterWrite) := []
  /-- The hardware sends off the waiting block during each sleep. -/
  sends : Bool := false
  /-- The read of STATUS, or the sleep, in which the loop is told to stop; beforehand if zero. -/
  stopAfter : Nat := 0

structure Stand (π : Type) where
  bridge : Bridge π
  commander : Bridge.Commander
  settings : TransferSettings
  reentrant : Bool := false
  plan : Option Plan := none
  polls : Nat := 0
  clock : ManualClock := {}
  dispatches : Array Dispatch := #[]

namespace Stand

variable {π : Type}

def ofEngine (engine : π) (s : Settings) (bufferSize : Nat) : Except Fault (Stand π) :=
  (Bridge.ofEngine engine s bufferSize).map fun bridge =>
    { bridge, commander := { slowCompletion := s.slowCompletion }, settings := s.transfer }

def hardware (act : RegisterFile → RegisterFile) (s : Stand π) : Stand π :=
  { s with bridge := { s.bridge with registers := act s.bridge.registers } }

private def stopIf (stop : Bool) (s : Stand π) : Stand π :=
  { s with bridge := { s.bridge with stop } }

/-- What is planned for a read of STATUS. The read comes to nothing if the hardware is to set a
register that is not there. -/
def beforePoll (s : Stand π) : Except Fault Unit × Stand π :=
  match s.plan with
  | none => (.ok (), s)
  | some plan =>
    let polls := s.polls + 1
    let (answer, registers) := s.bridge.registers.setAll (plan.feed.headD [])
    (answer, { s with plan := some { plan with feed := plan.feed.tail }, polls }
      |>.hardware (fun _ => registers)
      |>.stopIf (plan.stopAfter ≤ polls))

def duringSleep (time : Duration) (s : Stand π) : Stand π :=
  let s := { s with clock := s.clock.sleep time }
  match s.plan with
  | none => s
  | some plan =>
    s.hardware (fun f => if plan.sends then f.blockSent else f)
      |>.stopIf (plan.stopAfter ≤ s.clock.sleeps.toNat)

variable [Responder π] [ByteSource π]

def perform : Handler Bridge.Access.Answer (Stand π)
  | .dispatch request response, s =>
    let (meanwhile, bridge) :=
      if s.reentrant then
        let (answer, bridge) := (Bridge.Transfer.pump s.settings).run Bridge.perform s.bridge
        (some answer, bridge)
      else (none, s.bridge)
    let seen : Dispatch := ⟨request, s.bridge.inFlight, meanwhile⟩
    let (answer, bridge) := Bridge.perform (.dispatch request response) bridge
    (answer, { s with bridge, dispatches := s.dispatches.push seen })
  | .readRegister offset, s =>
    match if offset = Offset.status then s.beforePoll else (.ok (), s) with
    | (.error fault, s) => (.error fault, s)
    | (.ok (), s) =>
      let (answer, bridge) := Bridge.perform (.readRegister offset) s.bridge
      (answer, { s with bridge })
  | .sleep time, s => (.ok (), s.duringSleep time)
  | access, s =>
    let (answer, bridge) := Bridge.perform access s.bridge
    (answer, { s with bridge })

def poll (s : Stand π) : Except Fault Bridge.Outcome × Stand π :=
  match s.commander.poll.run perform s with
  | (.ok (outcome, commander), s) => (.ok outcome, { s with commander })
  | (.error fault, s) => (.error fault, s)

def pump (s : Stand π) : Except Fault Bridge.Transfer × Stand π :=
  (Bridge.Transfer.pump s.settings).run perform s

def arm (processor : Option UInt64) (s : Stand π) : Except Fault Unit × Stand π :=
  (Bridge.Commander.arm processor).run perform s

/-- Poll until told to stop, at most `passes` times. A fault ends this too; what the passes before
it did is not undone. -/
def polling : (passes : Nat) → Stand π → Except Fault Unit × Stand π
  | 0, s => (.ok (), s)
  | passes + 1, s =>
    if s.bridge.stop then (.ok (), s)
    else match s.poll with
      | (.ok _, s) => polling passes s
      | (.error fault, s) => (.error fault, s)

def planned (plan : Plan) (act : Stand π → α × Stand π) (s : Stand π) : α × Stand π :=
  let start := { s with plan := some plan, polls := 0, clock := {} }.stopIf (plan.stopAfter = 0)
  let (answer, s) := act start
  (answer, { s with plan := none }.stopIf false)

/-- Run the command loop as planned: arm it, then poll until told to stop. -/
def runCommands (processor : Option UInt64) (plan : Plan) : Stand π → Except Fault Unit × Stand π :=
  planned plan fun s =>
    match s.arm processor with
    | (.ok (), s) => s.polling plan.stopAfter
    | (.error fault, s) => (.error fault, s)

def runData (interval : Duration) (plan : Plan) : Stand π → Except Fault Unit × Stand π :=
  planned plan fun s =>
    let (answer, s) := (Bridge.Transfer.pumping s.settings interval plan.stopAfter).run perform s
    (answer.map fun _ => (), s)

end Stand
end SdBridge.Rehearsal
