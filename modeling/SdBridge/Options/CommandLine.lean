import SdBridge.Options.Given

/-!
Reading a command line. A value that stands apart from its option, and the image, are checked when
the next argument has been recognised: an argument that nobody knows is reported even if the
value before it is no good.
-/
namespace SdBridge.Options

inductive Pending where
  /-- An option, with its value once that was seen. -/
  | parameter (p : Parameter) (text : Option String)
  | image (path : String)
  deriving DecidableEq

inductive Form where
  /-- Two dashes, after which all arguments are plain. -/
  | separator
  | long (name : String) (value : Option String)
  | short (letter : Char)
  | plain
  deriving DecidableEq

def cutAtEquals (cs : List Char) : String × Option String :=
  let name := String.ofList (cs.takeWhile (· ≠ '='))
  match cs.dropWhile (· ≠ '=') with
  | _ :: value => (name, some (String.ofList value))
  | [] => (name, none)

def Form.of (argument : String) : Form :=
  match argument.toList with
  | ['-', '-'] => .separator
  | '-' :: '-' :: body => let (name, value) := cutAtEquals body; .long name value
  | '-' :: letter :: _ => .short letter
  | _ => .plain

structure CommandLine where
  given : Given := {}
  pending : Option Pending := none
  hasImage : Bool := false
  onlyPlain : Bool := false

namespace CommandLine

def settle (c : CommandLine) : Except Error CommandLine :=
  match c.pending with
  | none => .ok c
  | some (.parameter p none) => .error (.invalid (.parameter p) "")
  | some (.parameter p (some text)) =>
    (c.given.assign p text).map fun given => { c with given, pending := none }
  | some (.image "") => .error (.invalid .image "")
  | some (.image path) =>
    .ok { c with given := { c.given with image := some path }, pending := none }

/-- Take an argument that can only be the image. -/
def takeImage (c : CommandLine) (argument : String) : Except Error CommandLine :=
  if c.hasImage then .error (.unknown argument)
  else c.settle.map fun c => { c with pending := some (.image argument), hasImage := true }

/-- Take a plain argument: the value of the option before it, or the image. -/
def takePlain (c : CommandLine) (argument : String) : Except Error CommandLine :=
  match c.pending with
  | some (.parameter p none) => .ok { c with pending := some (.parameter p (some argument)) }
  | _ => c.takeImage argument

def takeLong (c : CommandLine) (name : String) (value : Option String) :
    Except Error CommandLine :=
  match Parameter.all.find? (·.name == name) with
  | some p => do
    let c ← c.settle
    match value with
    | none => return { c with pending := some (.parameter p none) }
    | some text => return { c with given := ← c.given.assign p text }
  | none =>
    match Switch.all.find? (·.name == name), value with
    | some s, some text => .error (.surplus (.switch s) text)
    | some s, none => do
      let c ← c.settle
      return { c with given := ← c.given.turnOn s }
    | none, _ =>
      if name = "help" then
        match value with
        | some text => .error (.surplus .help text)
        | none => c.settle.bind fun _ => .error .help
      else .error (.unknown ("--" ++ name))

def take (c : CommandLine) (argument : String) : Except Error CommandLine :=
  if c.onlyPlain then c.takeImage argument
  else match Form.of argument with
    | .separator => .ok { c with onlyPlain := true }
    | .long name value => c.takeLong name value
    | .short letter =>
      if letter = 'h' then c.settle.bind fun _ => .error .help
      else .error (.unknown (String.ofList ['-', letter]))
    | .plain => c.takePlain argument

def read (arguments : List String) : Except Error Given := do
  let c ← arguments.foldlM take ({} : CommandLine)
  return (← c.settle).given

end CommandLine
end SdBridge.Options
