/-!
Log entries: what the bridge tells its operator. An entry keeps its fields apart from its text, so
that a printer can lay them out as it likes.
-/
namespace SdBridge.Log

inductive Level where
  | trace
  | debug
  | info
  | warn
  deriving DecidableEq

def Level.name : Level → String
  | .trace => "TRACE"
  | .debug => "DEBUG"
  | .info => "INFO"
  | .warn => "WARN"

inductive Value where
  | number (n : UInt64)
  | real (x : Float)
  | text (s : String)

structure Entry where
  level : Level
  message : String
  fields : List (String × Value) := []

end SdBridge.Log
