import SdBridge.Fault

/-! Durations, and a clock on which sleeping takes no time but is counted. -/
namespace SdBridge

structure Duration where
  nanoseconds : Nat
  deriving DecidableEq

namespace Duration

def ofMicroseconds (n : Nat) : Duration := ⟨1000 * n⟩

def ofMilliseconds (n : Nat) : Duration := ⟨1000000 * n⟩

def second : Nat := 1000000000

/-- Seconds and nanoseconds, if a word can hold the whole seconds. -/
def ofParts (seconds : UInt64) (nanoseconds : UInt32) : Except Fault Duration :=
  let total := second * seconds.toNat + nanoseconds.toNat
  if total < second * UInt64.size then .ok ⟨total⟩ else .error .longDuration

def seconds (d : Duration) : Nat := d.nanoseconds / second

def subsecond (d : Duration) : Nat := d.nanoseconds % second

def isZero (d : Duration) : Bool := d.nanoseconds == 0

end Duration

/-- A clock that is moved by hand. Its time wraps at the end of its word. -/
structure ManualClock where
  now : UInt64 := 0
  sleeps : UInt64 := 0
  deriving DecidableEq

namespace ManualClock

def advance (c : ManualClock) (d : Duration) : ManualClock :=
  { c with now := c.now + d.nanoseconds.toUInt64 }

def sleep (c : ManualClock) (d : Duration) : ManualClock :=
  { c.advance d with sleeps := c.sleeps + 1 }

end ManualClock
end SdBridge
