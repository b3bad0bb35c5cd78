import SdBridge.Event.Kind
import SdBridge.Event.Payload

/-! A telemetry record: what happened, a short text, a number and when. -/
namespace SdBridge.Event

structure Record where
  kind : Kind
  payload : Payload
  extra : UInt64
  /-- Nanoseconds on the clock of the publishing side. -/
  timestamp : UInt64
  deriving DecidableEq, Inhabited

def Record.of (kind : Kind) (text : String) (extra timestamp : UInt64) : Record :=
  ⟨kind, .ofString text, extra, timestamp⟩

end SdBridge.Event
