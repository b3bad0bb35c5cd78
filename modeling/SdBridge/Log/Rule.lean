import SdBridge.Log.Line
import SdBridge.Log.Pattern
import SdBridge.Log.Threshold
import SdBridge.Text.Alphanumeric
import SdBridge.Text.Blank
import SdBridge.Text.Cut

/-!
Rules of a log filter. A rule is a level, or a target, what it asks for between brackets and a
level after an equals sign, as in `target[span{field=value}]=level`; all parts but one can be left
out.

White space around a rule is passed over when its parts are looked for, but their positions are
then taken in the rule with the white space, so that white space in front moves all parts.
-/
namespace SdBridge.Log

structure FieldQuery where
  name : String
  value : Option String := none
  deriving DecidableEq

/-- Whether and from which level on lines of a target pass. -/
structure Rule where
  /-- What the target of a line begins with. -/
  target : Option String := none
  span : Option String := none
  field : Option FieldQuery := none
  threshold : Threshold := .trace
  deriving DecidableEq

structure BadRule where
  text : String
  deriving DecidableEq

namespace Rule

/-- The part of a rule that is being read, with the position where it starts. -/
inductive Part where
  | start
  /-- A level or a target: what follows tells. -/
  | name (first : Nat)
  | span (first : Nat)
  | field (first : Nat)
  | fieldEnd
  | bracketEnd
  | level (first : Nat)
  deriving DecidableEq

structure Reading where
  rule : Rule := {}
  part : Part := .start

abbrev Step := Except (Failure BadRule)

def bad (text : String) : Step α := .error (.error ⟨text⟩)

def part (text : String) (first past : Nat) : Step String :=
  (Text.cut text first past).mapError .fault

def startsName (c : Char) : Bool :=
  c == '-' || c == ':' || c == '_' || Text.isAlphanumeric c

/-- A field with the value behind the first equals sign, as far as a second one. -/
def fieldOfText (rule text : String) : Step FieldQuery :=
  match text.splitOn "=" with
  | name :: value :: _ => if isValue value.toList then .ok ⟨name, some value⟩ else bad rule
  | _ => if text = "" then bad rule else .ok ⟨text, none⟩

def levelOfText (rule text : String) : Step Threshold :=
  if text = "" then .ok .trace
  else match Threshold.ofText? text with
    | some threshold => .ok threshold
    | none => bad rule

def Reading.take (text : String) (r : Reading) (position : Nat) (c : Char) : Step Reading := do
  match r.part, c with
  | .start, '[' => return { r with part := .span (position + 1) }
  | .start, _ => if startsName c then return { r with part := .name position } else bad text
  | .name first, '=' =>
    let target ← Rule.part text first position
    return ⟨{ r.rule with target := some target }, .level (position + 1)⟩
  | .name first, '[' =>
    let target ← Rule.part text first position
    return ⟨{ r.rule with target := some target }, .span (position + 1)⟩
  | .span first, ']' =>
    let span ← Rule.part text first position
    return ⟨{ r.rule with span := some span }, .bracketEnd⟩
  | .span first, '\x7b' =>
    let span ← Rule.part text first position
    return ⟨{ r.rule with span := if span = "" then none else some span }, .field (position + 1)⟩
  | .field first, '\x7d' =>
    let field ← fieldOfText text (← Rule.part text first position)
    return ⟨{ r.rule with field := some field }, .fieldEnd⟩
  | .fieldEnd, ']' => return { r with part := .bracketEnd }
  | .bracketEnd, '=' => return { r with part := .level (position + 1) }
  | .fieldEnd, _ | .bracketEnd, _ => bad text
  | .name _, _ | .span _, _ | .field _, _ | .level _, _ => return r

def Reading.takeAll (text : String) : Reading → (position : Nat) → List Char → Step Reading
  | r, _, [] => .ok r
  | r, position, c :: rest => do
    (← r.take text position c).takeAll text (position + c.utf8Size) rest

def Reading.finish (text : String) (r : Reading) : Step Rule := do
  match r.part with
  | .name first =>
    let name ← Rule.part text first text.utf8ByteSize
    match Threshold.ofText? name with
    | some threshold => return { r.rule with threshold }
    | none => return { r.rule with target := some name }
  | .level first =>
    let threshold ← levelOfText text (← Rule.part text first text.utf8ByteSize)
    return { r.rule with threshold }
  | .bracketEnd => return r.rule
  | _ => bad text

def ofText (text : String) : Step Rule := do
  (← ({} : Reading).takeAll text 0 (Text.trimmed text.toList)).finish text

/-- Whether a rule decides about a line. Lines lie in no span, and only spans are asked for the
values of their fields. -/
def covers (r : Rule) (l : Line) : Bool :=
  r.span.isNone &&
    r.field.all (fun f => f.value.isNone && l.fieldNames.contains f.name) &&
    r.target.all fun target => l.target.toList.take target.length == target.toList

def weight (r : Rule) : Nat := (r.target.map String.utf8ByteSize).getD 0

def fieldName (r : Rule) : String := (r.field.map (·.name)).getD ""

/-- Of two rules that cover a line the one with the longer target, then the one with the later
field; of equal ones the second. -/
def closer (a b : Rule) : Rule :=
  if b.weight < a.weight ∨ b.weight = a.weight ∧ b.fieldName < a.fieldName then a else b

end Rule
end SdBridge.Log
