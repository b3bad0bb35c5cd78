import SdBridge.Clock
import SdBridge.Log
import SdBridge.NearestFloat
import SdBridge.Register.File
import SdBridge.Register.Layout

/-!
The start-up timing of the buses: how long many accesses in a row take. A timed loop stops at the
first fault.
-/
namespace SdBridge

structure Timing where
  operations : Nat
  elapsed : Duration

namespace Timing

/-- Nanoseconds for each access; zero if there was none. -/
def perOperation (t : Timing) : Float :=
  if t.operations = 0 then 0.0
  else nearestFloat t.elapsed.nanoseconds / nearestFloat t.operations

def readsIn (rounds : Nat) : Nat := 2 * rounds

def controlReads : (rounds : Nat) → RegisterFile → Except Fault Unit × RegisterFile
  | 0, f => (.ok (), f)
  | rounds + 1, f =>
    match f.read Offset.control with
    | (.error fault, f) => (.error fault, f)
    | (.ok _, f) =>
      match f.read Offset.status with
      | (.error fault, f) => (.error fault, f)
      | (.ok _, f) => controlReads rounds f

def writtenPattern : UInt32 := 0xdeadbeef

def bufferWrites : (writes : Nat) → RegisterFile → Except Fault Unit × RegisterFile
  | 0, f => (.ok (), f)
  | writes + 1, f =>
    match f.write 0 writtenPattern with
    | (.error fault, f) => (.error fault, f)
    | (.ok (), f) => bufferWrites writes f

def startupRounds : Nat := 1000000

def startupWrites : Nat := 100000

def entry (what : String) (operations : Nat) : Log.Entry :=
  ⟨.info, "benchmarked " ++ what, [("operations", .number operations.toUInt64)]⟩

structure Run where
  control : RegisterFile
  buffer : RegisterFile
  log : List Log.Entry

def run (control buffer : RegisterFile) : Except Fault Run := do
  let (written, buffer) := bufferWrites startupWrites buffer
  written
  let (read, control) := controlReads startupRounds control
  read
  return ⟨control, buffer, [entry "data buffer writes" startupWrites,
    entry "control register reads" (readsIn startupRounds)]⟩

end Timing
end SdBridge
