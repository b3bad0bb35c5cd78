import SdBridge.IoError

/-! Binding a loop to one processor. -/
namespace SdBridge.Affinity

def maskBits : Nat := 1024

inductive Error where
  | outOfRange (processor : Nat)
  | system (processor : Nat) (source : IoError)
  deriving DecidableEq

def Error.message : Error → String
  | .outOfRange processor => s!"cpu {processor} is outside the affinity mask (max {maskBits})"
  | .system processor source => s!"sched_setaffinity(cpu {processor}) failed: " ++ source.message

/-- Bind to a processor, given which ones the machine has. A processor that the mask has no room
for is refused before the machine is asked. -/
def bind (isPresent : Nat → Bool) (processor : Nat) : Except Error Unit :=
  if maskBits ≤ processor then .error (.outOfRange processor)
  else if isPresent processor then .ok ()
  else .error (.system processor .invalidArgument)

end SdBridge.Affinity
