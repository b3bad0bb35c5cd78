/-!
The register file of the SD block. All registers have 32 bits; response words and arguments are
big-endian, so the first byte of a response lands in the top byte of its word.

```text
0x00 CONTROL   [w]    enable, send, response length, interrupts, command, automatic CRC7, CRC7
0x04 STATUS    [r,wc] new command and completion (write one to clear), line state, received command
0x08 POINTER   [w]    buffer offset, then length
0x0c DATCTRL   [w]    enable, send, bus width, automatic CRC16, busy, CRC status token
0x10 ARG       [rw]   received argument, then response word 0
0x14..0x1c ARG2..4    response words 1 to 3
```

The command loop owns CONTROL, STATUS and the response words; the data loop owns POINTER, DATCTRL
and the data buffer.
-/
namespace SdBridge

namespace Offset

def control : Nat := 0x00
def status : Nat := 0x04
def pointer : Nat := 0x08
def dataControl : Nat := 0x0c
def argument : Nat := 0x10
def argument2 : Nat := 0x14
def argument3 : Nat := 0x18
def argument4 : Nat := 0x1c

/-- The response words in the order a long response fills them. -/
def responseWords : List Nat := [argument, argument2, argument3, argument4]

def size : Nat := 0x20

end Offset

def hostToCard : UInt8 := 0x40

def commandIndexMask : UInt8 := 0x3f

def crcStatusMask : UInt32 := 0xf00

/-- The largest block the data buffer is used for, in bytes. -/
def maxBlockBytes : Nat := 512

abbrev FlagNames := List (String × UInt32)

namespace FlagNames

def all (flags : FlagNames) : UInt32 := flags.foldl (fun bits flag => bits ||| flag.2) 0

def truncate (flags : FlagNames) (word : UInt32) : UInt32 := word &&& flags.all

def knows (flags : FlagNames) (word : UInt32) : Bool := flags.truncate word == word

def namesIn (flags : FlagNames) (word : UInt32) : List String :=
  (flags.filter fun flag => word &&& flag.2 == flag.2).map (·.1)

end FlagNames

namespace Control

def enable : UInt32 := 1
def send : UInt32 := 0x2
def longResponse : UInt32 := 0x8
def interruptOnCommand : UInt32 := 0x10
def interruptOnRest : UInt32 := 0x20
def autoCrc7 : UInt32 := 0x1000000

def names : FlagNames :=
  [("ENABLE", enable), ("SEND", send), ("LONG_RESPONSE", longResponse),
    ("IRQ_NEW_COMMAND", interruptOnCommand), ("IRQ_REST", interruptOnRest),
    ("AUTO_CRC7", autoCrc7)]

/-- A CONTROL word: flags, the command to answer, and the low seven bits of its CRC7. -/
def word (flags : UInt32) (command crc7 : UInt8) : UInt32 :=
  flags ||| (command.toUInt32 <<< 16) ||| ((crc7 &&& 0x7f).toUInt32 <<< 25)

end Control

namespace Status

def newCommand : UInt32 := 1
def complete : UInt32 := 0x2
def powered : UInt32 := 0x4
def commandWire : UInt32 := 0x8
def newData : UInt32 := 0x10
def dataComplete : UInt32 := 0x20
def dataCrcError : UInt32 := 0x40
def busySent : UInt32 := 0x80
def inFlight : UInt32 := 0x100

def names : FlagNames :=
  [("NEW_COMMAND", newCommand), ("COMPLETE", complete), ("POWERED", powered),
    ("CMD_WIRE", commandWire), ("NEW_DATA", newData), ("DATA_COMPLETE", dataComplete),
    ("DATA_CRC_ERROR", dataCrcError), ("BUSY_SENT", busySent), ("IN_FLIGHT", inFlight)]

end Status

structure StatusWord where
  raw : UInt32
  deriving DecidableEq

namespace StatusWord

def has (s : StatusWord) (flags : UInt32) : Bool := s.raw &&& flags != 0

/-- The received command byte with its start and transmission bits. -/
def commandByte (s : StatusWord) : UInt8 := (s.raw >>> 16).toUInt8

def commandIndex (s : StatusWord) : UInt8 := s.commandByte &&& commandIndexMask

def crc7 (s : StatusWord) : UInt8 := (s.raw >>> 25).toUInt8 &&& 0x7f

/-- The CRC7 that the block computed itself. -/
def ownCrc7 (s : StatusWord) : UInt8 := (s.raw >>> 9).toUInt8 &&& 0x7f

def endBit (s : StatusWord) : Bool := s.raw &&& 0x1000000 != 0

/-- The cycles it took to notice a completion. They share their bits with the command byte and
mean something only while no new command is latched. -/
def completionDelay (s : StatusWord) : UInt8 := s.commandByte

end StatusWord

def pointerWord (offset length : UInt16) : UInt32 := (length.toUInt32 <<< 16) ||| offset.toUInt32

inductive CrcStatus where
  | none
  | accepted
  | crcError
  | writeError
  deriving DecidableEq

def CrcStatus.bits : CrcStatus → UInt32
  | .none => 0
  | .accepted => 0x500
  | .crcError => 0xb00
  | .writeError => 0xd00

namespace DataControl

def enable : UInt32 := 1
def send : UInt32 := 0x2
def fourBit : UInt32 := 0x4
def autoCrc16 : UInt32 := 0x10
def busy : UInt32 := 0x20
def autoBusy : UInt32 := 0x40

def names : FlagNames :=
  [("ENABLE", enable), ("SEND", send), ("FOUR_BIT", fourBit), ("AUTO_CRC16", autoCrc16),
    ("BUSY", busy), ("AUTO_BUSY", autoBusy)]

def word (flags : UInt32) (status : CrcStatus) : UInt32 := flags ||| status.bits

end DataControl

end SdBridge
