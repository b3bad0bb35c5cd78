import SdBridge.Log.Pattern.Class
import SdBridge.Text.Alphanumeric
import SdBridge.Text.Decimal

/-!
Patterns for the values of fields: regular expressions. Only their form matters here. A pattern has
branches between bars, a branch has parts one after the other, and a part is a character or what
stands for some, a class, a group, a part that is repeated or a turn of flags. Braces never occur
in patterns unescaped, since a brace ends the field.
-/
namespace SdBridge.Log
namespace Pattern

inductive Part where
  /-- Flags that are turned here. They cannot be repeated. -/
  | turn
  /-- Anything else, by its depth. -/
  | item (depth : Nat)

def Part.depth : Part → Nat
  | .turn => 0
  | .item depth => depth

/-- What was read of a group, or of the whole pattern. -/
structure Body where
  branches : List Nat := []
  /-- The parts of the last branch, the last one first. -/
  parts : List Part := []

namespace Body

def add (b : Body) (part : Part) : Body := { b with parts := part :: b.parts }

def branch (b : Body) : Body := ⟨together (b.parts.map Part.depth) :: b.branches, []⟩

def depth (b : Body) : Nat := together b.branch.branches

end Body

structure Reading where
  flags : Flags := {}
  names : List (List Char) := []
  body : Body := {}
  /-- What was read around the innermost group, with the flags that hold there. -/
  around : List (Flags × Body) := []

def isGroupName : List Char → Bool
  | [] => false
  | c :: rest =>
    (c == '_' || Text.isAlphabetic c) &&
      rest.all fun c => c == '_' || c == '.' || c == '[' || c == ']' || Text.isAlphanumeric c

namespace Reading

def add (r : Reading) (part : Part) (rest : List Char) : Reading × List Char :=
  ({ r with body := r.body.add part }, rest)

def openGroup (r : Reading) (flags : Flags) (rest : List Char) : Reading × List Char :=
  ({ r with flags, body := {}, around := (r.flags, r.body) :: r.around }, rest)

/-- Open a group with the name in front of an angle bracket. All names are different. -/
def openNamed (r : Reading) (cs : List Char) : Option (Reading × List Char) :=
  let name := cs.takeWhile (· != '>')
  if name.length < cs.length && isGroupName name && !r.names.contains name then
    some ({ r with names := name :: r.names }.openGroup r.flags (cs.drop (name.length + 1)))
  else none

def openAny (r : Reading) (cs : List Char) : Option (Reading × List Char) :=
  match cs with
  | '?' :: 'P' :: '<' :: rest | '?' :: '<' :: rest => r.openNamed rest
  | '?' :: ')' :: _ => none
  | '?' :: rest => (r.flags.turned true [] rest).map fun (flags, mark, rest) =>
      if mark = ':' then r.openGroup flags rest else { r with flags }.add .turn rest
  | rest => some (r.openGroup r.flags rest)

/-- Close the innermost group, behind which the flags hold that held in front of it. -/
def close (r : Reading) (rest : List Char) : Option (Reading × List Char) :=
  match r.around with
  | [] => none
  | (flags, body) :: around =>
    some ({ r with flags, body, around }.add (.item (1 + r.body.depth)) rest)

/-- Repeat the last part; a question mark then asks for as few as possible. -/
def repeated (r : Reading) (cs : List Char) : Option (Reading × List Char) :=
  match r.body.parts with
  | .item depth :: parts =>
    let rest := if cs.head? = some '?' then cs.drop 1 else cs
    some ({ r with body := { r.body with parts } }.add (.item (1 + depth)) rest)
  | _ => none

def step (r : Reading) (c : Char) (rest : List Char) : Option (Reading × List Char) :=
  match c with
  | '(' => r.openAny (r.flags.skip rest)
  | ')' => r.close rest
  | '|' => some ({ r with body := r.body.branch }, rest)
  | '[' => (Class.ofText? r.flags rest).map fun (depth, rest) => r.add (.item depth) rest
  | '*' | '+' | '?' => r.repeated rest
  | '\x7b' => none
  | '^' | '$' => some (r.add (.item 0) rest)
  | '.' => if r.flags.unicode then some (r.add (.item 0) rest) else none
  | '\\' => (escaped r.flags rest).bind fun (atom, rest) =>
      if atom.isSupported r.flags then some (r.add (.item 0) rest) else none
  | _ => if (Atom.literal c).isSupported r.flags then some (r.add (.item 0) rest) else none

/-- Read all of a pattern. Each step reads a character at least. -/
def run : (fuel : Nat) → Reading → List Char → Option Reading
  | 0, _, _ => none
  | fuel + 1, r, cs =>
    match r.flags.skip cs with
    | [] => some r
    | c :: rest => (r.step c rest).bind fun (r, rest) => r.run fuel rest

end Reading

def largestDepth : Nat := 250

end Pattern

def isPattern (cs : List Char) : Bool :=
  (Pattern.Reading.run (cs.length + 1) {} cs).any fun r =>
    r.around.isEmpty && r.body.depth ≤ Pattern.largestDepth

/-- Whether a text can be asked for as the value of a field: a pattern, or a number with a plus
sign, which is no pattern. -/
def isValue : List Char → Bool
  | '+' :: number => Text.isReal number
  | cs => isPattern cs

end SdBridge.Log
