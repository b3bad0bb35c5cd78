import SdBridge.Log
import SdBridge.Text.Decimal

/-! How far down levels pass. -/
namespace SdBridge.Log

inductive Threshold where
  | off
  | error
  | warn
  | info
  | debug
  | trace
  deriving DecidableEq

namespace Threshold

def all : List Threshold := [.off, .error, .warn, .info, .debug, .trace]

def name : Threshold → String
  | .off => "off"
  | .error => "error"
  | .warn => "warn"
  | .info => "info"
  | .debug => "debug"
  | .trace => "trace"

/-- A threshold by its number, or by its name in either case. -/
def ofText? (text : String) : Option Threshold :=
  ((Text.unsigned? text.toList).bind (all[·]?)).or (all.find? (·.name == text.toLower))

def passes : Threshold → Level → Bool
  | .off, _ | .error, _ => false
  | .warn, level => level == .warn
  | .info, level => level == .warn || level == .info
  | .debug, level => level != .trace
  | .trace, _ => true

end Threshold
end SdBridge.Log
