import SdBridge.Clock
import SdBridge.Event.Ring
import SdBridge.Log
import SdBridge.Program
import SdBridge.Protocol
import SdBridge.Register.File
import SdBridge.Register.Layout
import SdBridge.Settings

/-!
What the two loops of a bridge share, and the accesses by which they touch it: the register file,
the data buffer, the flag that a command is being dispatched, the flag that tells both to stop, the
protocol engine, the event ring and the log. `Bridge.perform` gives each access its effect; a loop
is a program over them.
-/
namespace SdBridge

inductive Bridge.Access where
  | readRegister (offset : Nat)
  | writeRegister (offset : Nat) (value : UInt32)
  | writeBuffer (offset : Nat) (value : UInt32)
  | inFlight
  | setInFlight (raised : Bool)
  | dispatch (request : Request) (response : Response)
  | takeBlockRequest
  | clock
  | publish (record : Event.Record)
  | dataReady
  | nextByte
  | log (entry : Log.Entry)
  | stopRequested
  | sleep (time : Duration)

abbrev Bridge.Access.Answer : Bridge.Access → Type
  | .readRegister _ => UInt32
  | .writeRegister _ _ | .writeBuffer _ _ | .setInFlight _ | .publish _ | .log _ | .sleep _ => Unit
  | .inFlight | .dataReady | .stopRequested => Bool
  | .dispatch _ _ => Except ProtocolError Nat × Response
  | .takeBlockRequest => Option BlockRequest
  | .clock => UInt64
  | .nextByte => UInt8

/-- The state that the loops share, over the state `π` of a protocol engine. -/
structure Bridge (π : Type) where
  registers : RegisterFile
  buffer : RegisterFile
  engine : π
  ring : Event.Ring
  inFlight : Bool := false
  stop : Bool := false
  clock : List UInt64 := []
  log : Array Log.Entry := #[]

namespace Bridge

variable {π : Type}

def ofEngine (engine : π) (settings : Settings) (bufferSize : Nat := 1024) :
    Except Fault (Bridge π) := do
  let buffer ← RegisterFile.ofSize bufferSize
  let registers ← RegisterFile.ofSize Offset.size [Offset.status]
  let ring ← Event.Ring.ofCapacity settings.ringCapacity
  return { registers, buffer, engine, ring }

/-- A part of a bridge that is a machine of its own, with the effect of an access on it. -/
def onRegisters (b : Bridge π) : α × RegisterFile → α × Bridge π
  | (answer, registers) => (answer, { b with registers })

def served (b : Bridge π) (s : Served α π) : Except Fault α × Bridge π :=
  (s.answer, { b with engine := s.state, log := b.log ++ s.log.toArray })

/-- A response length or a refusal is an answer to a dispatch; only a fault stops the loop. -/
def dispatched (b : Bridge π) (a : SdBridge.Answer π) :
    Except Fault (Except ProtocolError Nat × Response) × Bridge π :=
  let b := { b with engine := a.state }
  match a.result with
  | .ok length => (.ok (.ok length, a.response), b)
  | .error (.error cause) => (.ok (.error cause, a.response), b)
  | .error (.fault fault) => (.error fault, b)

def perform [Responder π] [ByteSource π] : Handler Access.Answer (Bridge π)
  | .readRegister offset, b => b.onRegisters (b.registers.read offset)
  | .writeRegister offset value, b => b.onRegisters (b.registers.write offset value)
  | .writeBuffer offset value, b =>
    let (answer, buffer) := b.buffer.write offset value
    (answer, { b with buffer })
  | .inFlight, b => (.ok b.inFlight, b)
  | .setInFlight raised, b => (.ok (), { b with inFlight := raised })
  | .dispatch request response, b => b.dispatched (Responder.dispatch request response b.engine)
  | .takeBlockRequest, b =>
    let (request, engine) := Responder.takeBlockRequest b.engine
    (.ok request, { b with engine })
  | .clock, b => (.ok (b.clock.headD 0), { b with clock := b.clock.tail })
  | .publish record, b =>
    let (answer, ring) := b.ring.publish record
    (answer, { b with ring })
  | .dataReady, b => b.served (ByteSource.dataReady b.engine)
  | .nextByte, b => b.served (ByteSource.nextByte b.engine)
  | .log entry, b => (.ok (), { b with log := b.log.push entry })
  | .stopRequested, b => (.ok b.stop, b)
  | .sleep _, b => (.ok (), b)

abbrev Loop := Program Access.Answer

namespace Loop

def readRegister (offset : Nat) : Loop UInt32 :=
  @Program.access _ Access.Answer (.readRegister offset)

def writeRegister (offset : Nat) (value : UInt32) : Loop Unit :=
  @Program.access _ Access.Answer (.writeRegister offset value)

def writeBuffer (offset : Nat) (value : UInt32) : Loop Unit :=
  @Program.access _ Access.Answer (.writeBuffer offset value)

def isInFlight : Loop Bool := @Program.access _ Access.Answer .inFlight

def setInFlight (raised : Bool) : Loop Unit :=
  @Program.access _ Access.Answer (.setInFlight raised)

def dispatch (request : Request) (response : Response) :
    Loop (Except ProtocolError Nat × Response) :=
  @Program.access _ Access.Answer (.dispatch request response)

def takeBlockRequest : Loop (Option BlockRequest) :=
  @Program.access _ Access.Answer .takeBlockRequest

def readClock : Loop UInt64 := @Program.access _ Access.Answer .clock

def publishAt (time : UInt64) (kind : Event.Kind) (text : String) (extra : UInt64) : Loop Unit :=
  @Program.access _ Access.Answer (.publish (.of kind text extra time))

def publish (kind : Event.Kind) (text : String) (extra : UInt64) : Loop Unit := do
  publishAt (← readClock) kind text extra

def dataReady : Loop Bool := @Program.access _ Access.Answer .dataReady

def nextByte : Loop UInt8 := @Program.access _ Access.Answer .nextByte

def isStopped : Loop Bool := @Program.access _ Access.Answer .stopRequested

def sleep (time : Duration) : Loop Unit := @Program.access _ Access.Answer (.sleep time)

def tell (entry : Log.Entry) : Loop Unit := @Program.access _ Access.Answer (.log entry)

end Loop
end Bridge
end SdBridge
