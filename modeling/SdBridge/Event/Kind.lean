/-! The kinds of telemetry events and the codes they travel under. -/
namespace SdBridge.Event

inductive Kind where
  /-- Marks a processed record; the bridge never publishes it. -/
  | done
  | debug
  | debugWithValue
  /-- A capacity query; the value is the size in bytes. -/
  | getSize
  | readSector
  | writeSector
  /-- The command loop was armed; the value is its processor. -/
  | started
  /-- A new command; the value is its index, as for the next kind. -/
  | commandReceived
  | commandProcessed
  /-- A response has been sent; the value is the STATUS word. -/
  | commandComplete
  /-- A completion was noticed late; the value is the delay in cycles. -/
  | slowCompletion
  /-- There was no response to send; the value is the command index. -/
  | noResponse
  /-- The protocol engine gave an illegal response length, which is the value. -/
  | badResponseLength
  /-- The protocol engine refused a command, whose index is the value. -/
  | protocolEngineError
  deriving DecidableEq, Inhabited

namespace Kind

def all : List Kind :=
  [.done, .debug, .debugWithValue, .getSize, .readSector, .writeSector, .started,
    .commandReceived, .commandProcessed, .commandComplete, .slowCompletion, .noResponse,
    .badResponseLength, .protocolEngineError]

def code : Kind → UInt8
  | .done => 0
  | .debug => 1
  | .debugWithValue => 2
  | .getSize => 3
  | .readSector => 4
  | .writeSector => 5
  | .started => 6
  | .commandReceived => 7
  | .commandProcessed => 8
  | .commandComplete => 9
  | .slowCompletion => 10
  | .noResponse => 11
  | .badResponseLength => 12
  | .protocolEngineError => 13

def ofCode? (code : UInt8) : Option Kind := all[code.toNat]?

def name : Kind → String
  | .done => "Done"
  | .debug => "Debug"
  | .debugWithValue => "DebugWithValue"
  | .getSize => "GetSize"
  | .readSector => "ReadSector"
  | .writeSector => "WriteSector"
  | .started => "Started"
  | .commandReceived => "CommandReceived"
  | .commandProcessed => "CommandProcessed"
  | .commandComplete => "CommandComplete"
  | .slowCompletion => "SlowCompletion"
  | .noResponse => "NoResponse"
  | .badResponseLength => "BadResponseLength"
  | .protocolEngineError => "ProtocolEngineError"

def isWarning : Kind → Bool
  | .slowCompletion | .badResponseLength | .protocolEngineError => true
  | _ => false

theorem ofCode?_code (k : Kind) : ofCode? k.code = some k := by cases k <;> rfl

end Kind
end SdBridge.Event
