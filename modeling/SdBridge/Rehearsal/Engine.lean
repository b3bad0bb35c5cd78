import SdBridge.Protocol
import SdBridge.Register.Word

/-!
An engine to rehearse with: the loops can be tried without a card. It answers from prepared
replies, or with words made from the argument, and hands out prepared bursts of bytes.
-/
namespace SdBridge.Rehearsal

/-- A prepared reply: a refusal, or bytes for the response buffer and a length to go with them. The
block request is there to be taken either way. -/
structure Reply where
  bytes : List UInt8 := []
  length : Nat
  refusal : Option ProtocolError := none
  block : Option BlockRequest := none

inductive Manner where
  /-- Reply after reply; the last one serves for all further commands. -/
  | prepared (replies : List Reply)
  /-- Four words counted up from the complement of the argument, cut to a length. The engine gives
  up on a fatal command. -/
  | echo (length : Nat) (fatal : Option UInt8)

structure Engine where
  manner : Manner
  block : Option BlockRequest := none
  /-- A burst that is used up is dropped by the next question for data, which is denied. -/
  bursts : List (List UInt8) := []

namespace Engine

def echoed (argument : UInt32) : List UInt8 :=
  ([0, 1, 2, 3] : List UInt32).flatMap fun i => bytesOfWord (~~~argument + i)

def gaveUp (command : UInt8) : Fault := .raised s!"protocol engine died on CMD{command}"

def dispatch (request : Request) (response : Response) (e : Engine) : Answer Engine :=
  match e.manner with
  | .echo length fatal =>
    if fatal = some request.command then ⟨.error (.fault (gaveUp request.command)), response, e⟩
    else ⟨.ok length, overlay (echoed request.argument).toArray response, e⟩
  | .prepared [] => ⟨.ok 0, response, e⟩
  | .prepared (reply :: rest) =>
    let e := { e with
      block := reply.block, manner := .prepared (if rest.isEmpty then [reply] else rest) }
    match reply.refusal with
    | some cause => ⟨.error (.error cause), response, e⟩
    | none => ⟨.ok reply.length, overlay (reply.bytes.take 16).toArray response, e⟩

def addBurst (burst : List UInt8) (e : Engine) : Engine := { e with bursts := e.bursts ++ [burst] }

instance : Responder Engine where
  dispatch := dispatch
  takeBlockRequest e := (e.block, { e with block := none })

instance : ByteSource Engine where
  dataReady e :=
    match e.bursts with
    | [] :: rest => ⟨.ok false, { e with bursts := rest }, []⟩
    | bursts => ⟨.ok !bursts.isEmpty, e, []⟩
  nextByte e :=
    match e.bursts with
    | (byte :: burst) :: rest => ⟨.ok byte, { e with bursts := burst :: rest }, []⟩
    | _ => ⟨.ok 0, e, []⟩

end Engine
end SdBridge.Rehearsal
