import SdBridge.Options.Error
import SdBridge.Text.Decimal

/-! What a user gave: values of options, switches and the image. -/
namespace SdBridge.Options

inductive Value where
  | path (p : String)
  | number (n : Nat)
  deriving DecidableEq

def number? (mayBeNegated : Bool) : List Char → Option Nat
  | '-' :: digits => if mayBeNegated then (Text.natural? digits).filter (· == 0) else none
  | cs => Text.unsigned? cs

def Parameter.read (p : Parameter) (text : String) : Except Error Value :=
  match p.domain with
  | .path => if text = "" then .error (.invalid (.parameter p) text) else .ok (.path text)
  | .number largest mayBeNegated =>
    match number? mayBeNegated text.toList with
    | some n => if n ≤ largest then .ok (.number n) else .error (.malformed p text)
    | none => .error (.malformed p text)

structure Given where
  image : Option String := none
  values : List (Parameter × Value) := []
  switches : List Switch := []
  deriving DecidableEq

namespace Given

def value? (g : Given) (p : Parameter) : Option Value := (g.values.find? (·.1 == p)).map (·.2)

def path? (g : Given) (p : Parameter) : Option String :=
  match g.value? p with
  | some (.path path) => some path
  | _ => none

def number? (g : Given) (p : Parameter) : Option Nat :=
  match g.value? p with
  | some (.number n) => some n
  | _ => none

def has (g : Given) (s : Switch) : Bool := g.switches.contains s

def assign (g : Given) (p : Parameter) (text : String) : Except Error Given :=
  if (g.value? p).isSome then .error (.repeated (.parameter p))
  else (p.read text).map fun value => { g with values := g.values ++ [(p, value)] }

def turnOn (g : Given) (s : Switch) : Except Error Given :=
  if g.has s then .error (.repeated (.switch s))
  else .ok { g with switches := g.switches ++ [s] }

end Given
end SdBridge.Options
