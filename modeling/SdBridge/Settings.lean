import SdBridge.Clock
import SdBridge.Register.Layout

/-! The settings of a bridge, with their defaults and the rules that they have to meet. -/
namespace SdBridge

/-- Who computes the CRC16 of outgoing blocks. -/
inductive CrcMode where
  | hardware
  /-- The data loop computes it and sends it as part of the block. -/
  | software
  deriving DecidableEq

inductive BusWidth where
  | oneBit
  | fourBit
  deriving DecidableEq

structure TransferSettings where
  /-- The most bytes that a block takes from the source. -/
  maxBytes : Nat := maxBlockBytes
  crcMode : CrcMode := .hardware
  busWidth : BusWidth := .oneBit
  deriving DecidableEq

structure Settings where
  processor : Nat := 1
  /-- The pause of the data loop between passes. -/
  dataPoll : Duration := .ofMilliseconds 1
  /-- The pause of the telemetry drain after a pass that found nothing. -/
  drainPoll : Duration := .ofMilliseconds 1
  /-- Completions that take more cycles than this are reported as slow. -/
  slowCompletion : UInt8 := 50
  transfer : TransferSettings := {}
  ringCapacity : Nat := 512
  /-- The stack of the command loop, in bytes. -/
  stackSize : Nat := 64 * 1024
  lockMemory : Bool := false
  /-- The device to place the command loop's working set in. -/
  scratchDevice : Option String := none
  deriving DecidableEq

inductive Positive where
  | dataPoll
  | drainPoll
  | stackSize
  deriving DecidableEq

def Positive.name : Positive → String
  | .dataPoll => "data poll interval"
  | .drainPoll => "drain poll interval"
  | .stackSize => "real-time stack size"

inductive SettingsError where
  | zero (setting : Positive)
  | transferSize (bytes : Nat)
  | ringCapacity (slots : Nat)
  | softwareCrcOnWideBus
  deriving DecidableEq

def SettingsError.message : SettingsError → String
  | .zero setting => setting.name ++ " must not be zero"
  | .transferSize bytes =>
    s!"max transfer size {bytes} must be a non-zero multiple of 4 no larger than 512"
  | .ringCapacity slots => s!"ring capacity {slots} is below the minimum of 2"
  | .softwareCrcOnWideBus => "software CRC16 is only supported on a 1-bit bus"

namespace Settings

def validate (s : Settings) : Except SettingsError Unit :=
  if s.dataPoll.isZero then .error (.zero .dataPoll)
  else if s.drainPoll.isZero then .error (.zero .drainPoll)
  else if s.stackSize = 0 then .error (.zero .stackSize)
  else if s.transfer.maxBytes = 0 ∨ maxBlockBytes < s.transfer.maxBytes ∨
      s.transfer.maxBytes % 4 ≠ 0 then
    .error (.transferSize s.transfer.maxBytes)
  else if s.ringCapacity < 2 then .error (.ringCapacity s.ringCapacity)
  else if s.transfer.crcMode = .software ∧ s.transfer.busWidth = .fourBit then
    .error .softwareCrcOnWideBus
  else .ok ()

end Settings
end SdBridge
