import Mathlib.Data.List.Induction
import SdBridge.Proofs.Bridge.Footprint
import SdBridge.Proofs.Program.Account
import SdBridge.Proofs.Register.File
import SdBridge.Rehearsal.Engine

/-!
Both loops of a bridge access by access, over any protocol engine, with the hardware in between. Of
every pass an account is kept: what it read of the registers that the hardware drives, and what it
wrote.
-/
namespace SdBridge.Bridge

inductive Signal where
  | raise (offset : Nat) (bits : UInt32)
  | lower (offset : Nat) (bits : UInt32)
  | set (offset : Nat) (value : UInt32)

def Signal.apply (f : RegisterFile) : Signal → RegisterFile
  | .raise offset bits => f.force offset (f.word offset ||| bits)
  | .lower offset bits => f.force offset (f.word offset &&& ~~~bits)
  | .set offset value => f.force offset value

structure Polled where
  word : Option UInt32 := none
  result : Option (Except ProtocolError Nat) := none
  written : List UInt32 := []

def Polled.note : (access : Access) → Access.Answer access → Polled → Polled
  | .readRegister offset, word, k => if offset = Offset.status then { k with word := some word } else k
  | .dispatch _ _, (result, _), k => { k with result := some result }
  | .writeRegister offset value, _, k =>
    if offset = Offset.status then { k with written := k.written ++ [value] } else k
  | _, _, k => k

structure Poll where
  account : Polled
  /-- The bits of STATUS that went up during the pass. -/
  raised : UInt32
  outcome : Outcome
  left : UInt32

structure Pumped where
  busy : Bool := false
  control : Option UInt32 := none
  taken : List UInt8 := []
  writes : List Access := []
  /-- The bytes of the block started last, in this pass or in an earlier one. -/
  queued : Option (List UInt8) := none

namespace Pumped

def note : (access : Access) → Access.Answer access → Pumped → Pumped
  | .inFlight, raised, k => { k with busy := raised }
  | .readRegister offset, word, k =>
    if offset = Offset.dataControl then { k with control := some word } else k
  | .nextByte, byte, k => { k with taken := k.taken ++ [byte] }
  | .writeBuffer offset value, _, k => { k with writes := k.writes ++ [.writeBuffer offset value] }
  | .writeRegister offset value, _, k =>
    { k with
      writes := k.writes ++ [.writeRegister offset value]
      queued := if offset = Offset.dataControl then some k.taken else k.queued }
  | _, _, k => k

def again (k : Pumped) : Pumped := { queued := k.queued }

end Pumped

structure Pump where
  account : Pumped
  transfer : Transfer

structure Traffic (π : Type) where
  bridge : Bridge π
  settings : TransferSettings
  polling : Loop (Outcome × Commander)
  pumping : Loop Transfer := Transfer.pump settings
  polled : Polled := {}
  pumped : Pumped := {}
  /-- The bits of STATUS that went up since the pass of the command loop began. -/
  raised : UInt32 := 0
  /-- How often the completion bit of STATUS went up. -/
  completions : Nat := 0
  polls : List Poll := []
  pumps : List Pump := []

namespace Traffic

inductive Turn where
  | command
  | data
  | hardware (signal : Signal)

variable {π : Type}

def start (bridge : Bridge π) (settings : TransferSettings) (c : Commander) : Traffic π :=
  { bridge, settings, polling := c.poll }

def status (t : Traffic π) : UInt32 := t.bridge.registers.word Offset.status

def hardware (signal : Signal) (t : Traffic π) : Traffic π :=
  let bridge := { t.bridge with registers := signal.apply t.bridge.registers }
  let after : Traffic π := { t with bridge }
  let risen := after.status &&& ~~~t.status
  { after with
    raised := t.raised ||| risen
    completions := t.completions + if risen &&& Status.complete = 0 then 0 else 1 }

theorem completions_hardware (signal : Signal) (t : Traffic π) :
    (t.hardware signal).completions = t.completions +
      if ((t.hardware signal).status &&& ~~~t.status) &&& Status.complete = 0 then 0 else 1 := rfl

variable [Responder π] [ByteSource π]

/-- The command loop goes on. One pass follows on another, and a fault ends the loop. -/
def command (t : Traffic π) : Traffic π :=
  match t.polling.result? with
  | some (outcome, c) =>
    { t with
      polling := c.poll, polled := {}, raised := 0
      polls := t.polls ++ [⟨t.polled, t.raised, outcome, t.status⟩] }
  | none =>
    let next := t.polling.step (Program.noting perform Polled.note) (t.bridge, t.polled)
    { t with polling := next.1, bridge := next.2.1, polled := next.2.2 }

def data (t : Traffic π) : Traffic π :=
  match t.pumping.result? with
  | some transfer =>
    { t with
      pumping := Transfer.pump t.settings, pumped := t.pumped.again
      pumps := t.pumps ++ [⟨t.pumped, transfer⟩] }
  | none =>
    let next := t.pumping.step (Program.noting perform Pumped.note) (t.bridge, t.pumped)
    { t with pumping := next.1, bridge := next.2.1, pumped := next.2.2 }

def turn : Turn → Traffic π → Traffic π
  | .command, t => t.command
  | .data, t => t.data
  | .hardware signal, t => t.hardware signal

def run (turns : List Turn) (t : Traffic π) : Traffic π := turns.foldl (fun t turn => t.turn turn) t

theorem run_append (turns : List Turn) (turn : Turn) (t : Traffic π) :
    run (turns ++ [turn]) t = (run turns t).turn turn := by
  simp [run, List.foldl_append]

@[simp] theorem settings_turn (turn : Turn) (t : Traffic π) :
    (t.turn turn).settings = t.settings := by
  cases turn with
  | command =>
    simp only [turn, command]
    split <;> rfl
  | data =>
    simp only [turn, data]
    split <;> rfl
  | hardware signal => rfl

theorem settings_run (turns : List Turn) (t : Traffic π) : (run turns t).settings = t.settings := by
  induction turns using List.reverseRecOn with
  | nil => rfl
  | append_singleton turns turn before => rw [run_append, settings_turn, before]

/-- A bridge with the least memory that will do, over an engine that answers each command by four
bytes and has eight bytes to hand out. -/
def rehearsal : Traffic Rehearsal.Engine :=
  start {
      registers := { words := Array.replicate 8 0, clearOnOne := [Offset.status] }
      buffer := { words := Array.replicate 129 0 }
      engine := { manner := .echo 4 none, bursts := [[1, 2, 3, 4, 5, 6, 7, 8]] }
      ring := { shared := { slots := Array.replicate 2 .empty } } }
    {} { slowCompletion := 50 }

end Traffic
end SdBridge.Bridge
