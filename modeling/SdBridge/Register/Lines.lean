import SdBridge.Register.File

/-! The reset and kick lines of the SD block: one bit each in a register bank of their own. -/
namespace SdBridge.Lines

def resetOffset : Nat := 0x0

def kickOffset : Nat := 0x8

private def level (high : Bool) : UInt32 := if high then 1 else 0

def setReset (high : Bool) (bank : RegisterFile) : Except Fault Unit × RegisterFile :=
  bank.write resetOffset (level high)

def setKick (high : Bool) (bank : RegisterFile) : Except Fault Unit × RegisterFile :=
  bank.write kickOffset (level high)

/-- Assert and release the reset line, which returns the block to its power-on state. -/
def pulseReset (bank : RegisterFile) : Except Fault Unit × RegisterFile :=
  match setReset true bank with
  | (.ok (), bank) => setReset false bank
  | (.error fault, bank) => (.error fault, bank)

end SdBridge.Lines
