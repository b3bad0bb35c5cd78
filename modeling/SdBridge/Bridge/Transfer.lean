import SdBridge.Bridge.Access
import SdBridge.Crc
import SdBridge.Register.Layout
import SdBridge.Register.Word
import SdBridge.Settings

/-!
The data loop: it moves one block of ready bytes at a time into the data buffer and starts its
transmission. It does nothing while a command is being dispatched or while a block is still going
out, which the SEND flag of DATCTRL tells.
-/
namespace SdBridge.Bridge

structure Transfer where
  bytes : Nat := 0
  words : Nat := 0
  deriving DecidableEq

namespace Transfer

def threadName : String := "sdproxy-dat"

def isEmpty (t : Transfer) : Bool := t.bytes == 0

/-- Bytes on their way into words of the data buffer: fewer than four that wait for company, and
the number of words written. -/
structure Packer where
  waiting : List UInt8 := []
  words : Nat := 0

namespace Packer

open Loop

def bytes (p : Packer) : Nat := 4 * p.words + p.waiting.length

def push (p : Packer) (byte : UInt8) : Loop Packer := do
  let waiting := p.waiting ++ [byte]
  if waiting.length = 4 then
    writeBuffer (4 * p.words) (packedWord waiting)
    pure { words := p.words + 1 }
  else pure { p with waiting }

def pushAll (p : Packer) : List UInt8 → Loop Packer
  | [] => pure p
  | byte :: rest => do (← p.push byte).pushAll rest

def finish (p : Packer) : Loop Transfer := do
  if p.waiting = [] then pure ⟨p.bytes, p.words⟩
  else
    writeBuffer (4 * p.words) (packedWord p.waiting)
    pure ⟨p.bytes, p.words + 1⟩

end Packer

open Loop

/-- Take bytes from the source while there are any, at most `limit`, and keep their CRC16. -/
def fill : (limit : Nat) → Packer → (crc : UInt16) → Loop (Packer × UInt16)
  | 0, p, crc => pure (p, crc)
  | limit + 1, p, crc => do
    if ← dataReady then
      let byte ← nextByte
      let p ← p.push byte
      fill limit p (Crc.update16 Crc.polynomial16 crc [byte])
    else pure (p, crc)

def flags (s : TransferSettings) : UInt32 :=
  DataControl.send |||
    (match s.crcMode with
      | .hardware => DataControl.autoCrc16
      | .software => 0) |||
    (match s.busWidth with
      | .oneBit => 0
      | .fourBit => DataControl.fourBit)

/-- The bytes that close a block. -/
def trailer (s : TransferSettings) (crc : UInt16) : List UInt8 :=
  match s.crcMode with
  | .hardware => []
  | .software => Crc.bytes16 crc

def queued (bytes : Nat) : Log.Entry :=
  ⟨.trace, "data block queued", [("bytes", .number bytes.toUInt64)]⟩

def send (s : TransferSettings) : Loop Transfer := do
  let (packer, crc) ← fill s.maxBytes {} Crc.initial16
  if packer.bytes = 0 then pure {}
  else
    let packer ← packer.pushAll (trailer s crc)
    let transfer ← packer.finish
    writeRegister Offset.pointer (pointerWord 0 transfer.bytes.toUInt16)
    writeRegister Offset.dataControl (DataControl.word (flags s) .none)
    tell (queued transfer.bytes)
    pure transfer

def pump (s : TransferSettings) : Loop Transfer := do
  if ← isInFlight then pure {}
  else
    let control ← readRegister Offset.dataControl
    if control &&& DataControl.send ≠ 0 then pure {} else send s

/-- The whole data loop: pump and sleep until told to stop. The result is false if the stop flag is
still down after `passes` passes. -/
def pumping (s : TransferSettings) (interval : Duration) : (passes : Nat) → Loop Bool
  | 0 => isStopped
  | passes + 1 => do
    if ← isStopped then pure true
    else
      let _ ← pump s
      sleep interval
      pumping s interval passes

end Transfer
end SdBridge.Bridge
