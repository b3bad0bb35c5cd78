import SdBridge.Clock
import SdBridge.Event.Ring
import SdBridge.Log

/-!
The telemetry drain: it takes records off the ring and turns each into a log entry. Records that
were overwritten before it came by are reported once, by a warning with their number.
-/
namespace SdBridge.Event

def Ring.takeUpTo : (limit : Nat) → Ring → Except Fault (List Ring.Taken × Ring)
  | 0, r => .ok ([], r)
  | limit + 1, r =>
    match r.take with
    | (.error fault, _) => .error fault
    | (.ok none, r) => .ok ([], r)
    | (.ok (some taken), r) =>
      match r.release taken with
      | (.error fault, _) => .error fault
      | (.ok (), r) => (takeUpTo limit r).map fun (rest, r) => (taken :: rest, r)

/-- Microseconds from one record to the next; zero for the first record, and where time runs
backwards. -/
def latency (previous : Option UInt64) (timestamp : UInt64) : Float :=
  match previous with
  | some earlier => (if earlier ≤ timestamp then timestamp - earlier else 0).toFloat / 1000.0
  | none => 0.0

/-- The value of a `started` record when the processor is not known. -/
def unknownProcessor : UInt64 := 0xffffffffffffffff

/-- The log entry of a record. A `done` record has none. -/
def Record.entry? (record : Record) (latency : Float) : Option Log.Entry :=
  let text := record.payload.toString
  let timed (level : Log.Level) (message : String) (more : List (String × Log.Value)) :=
    some ⟨level, message, ("latency_us", .real latency) :: more⟩
  let value : Log.Value := .number record.extra
  match record.kind with
  | .done => none
  | .debug => timed .debug text []
  | .debugWithValue => timed .debug text [("value", value)]
  | .getSize => timed .info "get size" [("bytes", value)]
  | .readSector => timed .info "read sector" [("sector", value)]
  | .writeSector => timed .info "write sector" [("sector", value)]
  | .started =>
    some ⟨.info, text, if record.extra = unknownProcessor then [] else [("cpu", value)]⟩
  | .commandReceived | .commandProcessed | .noResponse => timed .debug text [("command", value)]
  | .commandComplete =>
    timed .debug text [("status", .text (Text.hexPadded 8 record.extra.toNat))]
  | .slowCompletion => timed .warn text [("delay", value)]
  | .badResponseLength => timed .warn text [("len", value)]
  | .protocolEngineError => timed .warn text [("command", value)]

def entries : Option UInt64 → List Record → List Log.Entry
  | _, [] => []
  | previous, record :: rest =>
    (record.entry? (latency previous record.timestamp)).toList ++
      entries (some record.timestamp) rest

structure Drain where
  lastTimestamp : Option UInt64 := none
  reportedLost : UInt64 := 0

structure Drain.Stats where
  records : Nat
  /-- Records overwritten since the pass before. -/
  lost : UInt64
  deriving DecidableEq

namespace Drain

def lossWarning (lost total : UInt64) : Log.Entry :=
  ⟨.warn, "telemetry records overwritten before they were read",
    [("lost", .number lost), ("total", .number total)]⟩

structure Pass where
  stats : Stats
  drain : Drain
  ring : Ring
  log : List Log.Entry

def pass (d : Drain) (r : Ring) : Except Fault Pass := do
  let (taken, r) ← r.takeUpTo r.capacity
  let records := taken.map (·.record)
  let log := entries d.lastTimestamp records
  let lastTimestamp := (records.getLast?.map (·.timestamp)).or d.lastTimestamp
  if d.reportedLost < r.lost then
    let lost := r.lost - d.reportedLost
    return ⟨⟨records.length, lost⟩, ⟨lastTimestamp, r.lost⟩, r, log ++ [lossWarning lost r.lost]⟩
  else
    return ⟨⟨records.length, 0⟩, { d with lastTimestamp }, r, log⟩

/-- In sleep number `k` the batch `k` of the feed is published, and the stop flag is raised then if
`k` has reached `stopAfter`. -/
structure Watch where
  drain : Drain
  ring : Ring
  clock : ManualClock := {}
  log : List Log.Entry := []
  feed : List (List Record)
  stopped : Bool

namespace Watch

def look (w : Watch) : Except Fault (Nat × Watch) := do
  let p ← w.drain.pass w.ring
  return (p.stats.records, { w with drain := p.drain, ring := p.ring, log := w.log ++ p.log })

def nap (interval : Duration) (stopAfter : UInt64) (w : Watch) : Except Fault Watch := do
  let clock := w.clock.sleep interval
  let ring ← w.ring.publishAll (w.feed.headD [])
  return { w with
    ring, clock, feed := w.feed.tail, stopped := w.stopped || stopAfter ≤ clock.sleeps }

/-- Pass and sleep until stopped, then pass once more. Nothing comes of it if the stop flag is
still down after `passes` passes. -/
def run (interval : Duration) (stopAfter : UInt64) : Nat → Watch → Except Fault (Option Watch)
  | passes, w => do
    if w.stopped then
      let (_, w) ← w.look
      return some w
    else match passes with
      | 0 => return none
      | passes + 1 =>
        let (found, w) ← w.look
        if found = 0 then run interval stopAfter passes (← w.nap interval stopAfter)
        else run interval stopAfter passes w

end Watch

/-- The passes it takes at most to sleep `sleeps` times: a sleep comes after at most one pass that
found records and one that found none. -/
def enoughPasses (sleeps : UInt64) : Nat := 2 * max 1 sleeps.toNat

end Drain
end SdBridge.Event
