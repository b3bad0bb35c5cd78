import SdBridge.Fault
import SdBridge.Log
import SdBridge.Text.Hex

/-!
What the bridge asks of the protocol engine behind it. The engine has two halves, since two loops
call it: the command loop asks a `Responder` for an answer to each command, and the data loop
takes the bytes of outgoing blocks from a `ByteSource`. Both act on one state, which holds
whatever the halves share.
-/
namespace SdBridge

structure Request where
  /-- The six-bit command index. -/
  command : UInt8
  argument : UInt32
  crc7 : UInt8 := 0
  deriving DecidableEq

/-- Why a protocol engine refuses a command. The host gets no answer then. -/
inductive ProtocolError where
  | illegalCommand (command : UInt8)
  | wrongState (command : UInt8) (state : String)
  | outOfRange (command : UInt8) (argument : UInt32)
  deriving DecidableEq

def ProtocolError.message : ProtocolError → String
  | .illegalCommand command => s!"illegal command CMD{command}"
  | .wrongState command state => s!"CMD{command} not accepted in state {state}"
  | .outOfRange command argument =>
    s!"argument {Text.hexPadded 8 argument.toNat} out of range for CMD{command}"

inductive BlockRequest where
  | getSize (bytes : UInt64)
  | readSector (lba : UInt64)
  | writeSector (lba : UInt64)
  deriving DecidableEq

def shortResponse : Nat := 4

def longResponse : Nat := 16

/-- The buffer that responses are written to. It keeps its contents between commands. -/
abbrev Response := Vector UInt8 16

/-- Bytes laid over the start of a buffer; what they do not reach stays. -/
def overlay (bytes : Array UInt8) (buffer : Vector UInt8 n) : Vector UInt8 n :=
  Vector.ofFn fun i => bytes[i.val]?.getD buffer[i]

structure Answer (π : Type) where
  result : Except (Failure ProtocolError) Nat
  response : Response
  state : π

class Responder (π : Type) where
  /-- Answer a command. The length of the response is 0, 4 or 16. -/
  dispatch : Request → Response → π → Answer π
  /-- The block traffic that the last command queued, if it was not taken yet. -/
  takeBlockRequest : π → Option BlockRequest × π

structure Served (α π : Type) where
  answer : Except Fault α
  state : π
  log : List Log.Entry := []

class ByteSource (π : Type) where
  dataReady : π → Served Bool π
  /-- The next byte, which means something only after `dataReady` said so. -/
  nextByte : π → Served UInt8 π

def Served.inside (s : Served α π) (wrap : π → ρ) : Served α ρ := ⟨s.answer, wrap s.state, s.log⟩

namespace ByteSource

/-- Take bytes while there are any, at most `limit`. A fault ends this as a lack of bytes does. -/
def takeUpTo [ByteSource π] : (limit : Nat) → π → List UInt8 × π × List Log.Entry
  | 0, p => ([], p, [])
  | limit + 1, p =>
    let asked := dataReady p
    match asked.answer with
    | .ok true =>
      let taken := nextByte asked.state
      match taken.answer with
      | .ok byte =>
        let (bytes, p, log) := takeUpTo limit taken.state
        (byte :: bytes, p, asked.log ++ taken.log ++ log)
      | .error _ => ([], taken.state, asked.log ++ taken.log)
    | _ => ([], asked.state, asked.log)

end ByteSource

instance [Responder π] [Responder ρ] : Responder (π ⊕ ρ) where
  dispatch request response
    | .inl p => let a := Responder.dispatch request response p; ⟨a.result, a.response, .inl a.state⟩
    | .inr p => let a := Responder.dispatch request response p; ⟨a.result, a.response, .inr a.state⟩
  takeBlockRequest
    | .inl p => (Responder.takeBlockRequest p).map id .inl
    | .inr p => (Responder.takeBlockRequest p).map id .inr

instance [ByteSource π] [ByteSource ρ] : ByteSource (π ⊕ ρ) where
  dataReady
    | .inl p => (ByteSource.dataReady p).inside .inl
    | .inr p => (ByteSource.dataReady p).inside .inr
  nextByte
    | .inl p => (ByteSource.nextByte p).inside .inl
    | .inr p => (ByteSource.nextByte p).inside .inr

end SdBridge
