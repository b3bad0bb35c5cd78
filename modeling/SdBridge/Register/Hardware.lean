import SdBridge.Register.File
import SdBridge.Register.Layout

/-! What the SD block does to its register file by itself. -/
namespace SdBridge.RegisterFile

/-- A register changed by the hardware; nothing happens to one the file does not have. -/
def force (f : RegisterFile) (offset : Nat) (value : UInt32) : RegisterFile :=
  (f.set offset value).2

/-- Registers changed one after the other, up to the first that the file does not have. -/
def setAll (f : RegisterFile) : List RegisterWrite → Except Fault Unit × RegisterFile
  | [] => (.ok (), f)
  | change :: rest =>
    match f.set change.offset change.value with
    | (.ok (), f) => f.setAll rest
    | (.error fault, f) => (.error fault, f)

/-- A command has arrived, with whatever the argument register holds. -/
def announce (f : RegisterFile) (command : UInt16) : RegisterFile :=
  f.force Offset.status (Status.newCommand ||| (command.toUInt32 <<< 16))

def latch (f : RegisterFile) (command : UInt16) (argument : UInt32) : RegisterFile :=
  (f.force Offset.argument argument).announce command

def completeAfter (f : RegisterFile) (delay : UInt16) : RegisterFile :=
  f.force Offset.status (Status.complete ||| (delay.toUInt32 <<< 16))

def blockSent (f : RegisterFile) : RegisterFile := f.force Offset.dataControl 0

end SdBridge.RegisterFile
