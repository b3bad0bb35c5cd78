import SdBridge.Register.Layout

/-! The state of a card and the status word it reports. -/
namespace SdBridge.Card

inductive State where
  | idle
  | ready
  | ident
  | standby
  | transfer
  | sendingData
  deriving DecidableEq

namespace State

def code : State → UInt32
  | .idle => 0
  | .ready => 1
  | .ident => 2
  | .standby => 3
  | .transfer => 4
  | .sendingData => 5

def name : State → String
  | .idle => "idle"
  | .ready => "ready"
  | .ident => "ident"
  | .standby => "stby"
  | .transfer => "tran"
  | .sendingData => "data"

end State

namespace Status

def outOfRange : UInt32 := 0x80000000
def addressError : UInt32 := 0x40000000
def blockLengthError : UInt32 := 0x20000000
def writeProtectViolation : UInt32 := 0x04000000
def illegalCommand : UInt32 := 0x00400000
def readyForData : UInt32 := 0x00000100
def appCommand : UInt32 := 0x00000020

def names : FlagNames :=
  [("OUT_OF_RANGE", outOfRange), ("ADDRESS_ERROR", addressError),
    ("BLOCK_LEN_ERROR", blockLengthError), ("WP_VIOLATION", writeProtectViolation),
    ("ILLEGAL_COMMAND", illegalCommand), ("READY_FOR_DATA", readyForData),
    ("APP_CMD", appCommand)]

/-- The error bits, which are cleared once they are reported. -/
def errors : UInt32 :=
  outOfRange ||| addressError ||| blockLengthError ||| writeProtectViolation ||| illegalCommand

def stateShift : UInt32 := 9

def stateMask : UInt32 := 0x1e00

def word (pending extra : UInt32) (state : State) : UInt32 :=
  pending ||| extra ||| readyForData ||| (state.code <<< stateShift)

/-- The lower half of an address response: bits 23, 22, 19 and 12 to 0 of a status word. -/
def condensed (word : UInt32) : UInt32 :=
  (word >>> 8 &&& (0xc000 : UInt32)) ||| (word >>> 6 &&& (0x2000 : UInt32)) |||
    (word &&& (0x1fff : UInt32))

end Status
end SdBridge.Card
