/-!
The options of the program: those that take a value, and switches. Most can also be given by a
variable of the environment.
-/
namespace SdBridge.Options

inductive Domain where
  /-- A path, which must not be empty. -/
  | path
  /-- A number. Where a minus sign may stand before it, only zero may follow. -/
  | number (largest : Nat) (mayBeNegated : Bool)
  deriving DecidableEq

def largestWord : Nat := 0xffffffffffffffff

inductive Parameter where
  | device
  | processor
  | dataPoll
  | drainPoll
  | slowCompletion
  | maxTransfer
  | ringCapacity
  | stackSize
  | scratchDevice
  deriving DecidableEq

namespace Parameter

/-- All of them, in the order in which variables are looked up. -/
def all : List Parameter :=
  [.device, .processor, .dataPoll, .drainPoll, .slowCompletion, .maxTransfer, .ringCapacity,
    .stackSize, .scratchDevice]

def name : Parameter → String
  | .device => "uio"
  | .processor => "rt-core"
  | .dataPoll => "poll-interval-us"
  | .drainPoll => "drain-interval-us"
  | .slowCompletion => "slow-completion"
  | .maxTransfer => "max-transfer"
  | .ringCapacity => "ring-capacity"
  | .stackSize => "rt-stack"
  | .scratchDevice => "scratch-device"

def placeholder : Parameter → String
  | .device => "DEVICE"
  | .processor => "CPU"
  | .dataPoll | .drainPoll => "US"
  | .slowCompletion => "CYCLES"
  | .maxTransfer | .stackSize => "BYTES"
  | .ringCapacity => "SLOTS"
  | .scratchDevice => "PATH"

def variableName : Parameter → String
  | .device => "SDPROXY_UIO"
  | .processor => "SDPROXY_RT_CORE"
  | .dataPoll => "SDPROXY_DATA_POLL_US"
  | .drainPoll => "SDPROXY_DRAIN_POLL_US"
  | .slowCompletion => "SDPROXY_SLOW_COMPLETION"
  | .maxTransfer => "SDPROXY_MAX_TRANSFER"
  | .ringCapacity => "SDPROXY_RING_CAPACITY"
  | .stackSize => "SDPROXY_RT_STACK"
  | .scratchDevice => "SDPROXY_SCRATCH_DEVICE"

def domain : Parameter → Domain
  | .device | .scratchDevice => .path
  | .slowCompletion => .number 0xff true
  | _ => .number largestWord false

def shown (p : Parameter) : String := s!"--{p.name} <{p.placeholder}>"

end Parameter

inductive Switch where
  | lockMemory
  | softwareCrc
  | fourBit
  | noReset
  | bench
  deriving DecidableEq

namespace Switch

def all : List Switch := [.lockMemory, .softwareCrc, .fourBit, .noReset, .bench]

def name : Switch → String
  | .lockMemory => "lock-memory"
  | .softwareCrc => "software-crc"
  | .fourBit => "four-bit"
  | .noReset => "no-reset"
  | .bench => "bench"

def variableName? : Switch → Option String
  | .lockMemory => some "SDPROXY_LOCK_MEMORY"
  | .softwareCrc => some "SDPROXY_SOFTWARE_CRC"
  | .fourBit => some "SDPROXY_FOUR_BIT"
  | .noReset | .bench => none

def shown (s : Switch) : String := "--" ++ s.name

end Switch

def imageShown : String := "<IMAGE>"

end SdBridge.Options
