import SdBridge.Options.Names

/-! What can be wrong with options, and which argument and value an error is about. -/
namespace SdBridge.Options

inductive Subject where
  | image
  | parameter (p : Parameter)
  | switch (s : Switch)
  | help
  deriving DecidableEq

def Subject.shown : Subject → String
  | .image => imageShown
  | .parameter p => p.shown
  | .switch s => s.shown
  | .help => "--help"

inductive Error where
  /-- Help was asked for, which ends the reading of the command line like an error. -/
  | help
  | missingImage
  /-- An argument that is no option, or a second image. -/
  | unknown (argument : String)
  | malformed (p : Parameter) (text : String)
  /-- An empty path, no value at all, or a switch variable that is neither true nor false. -/
  | invalid (subject : Subject) (text : String)
  | surplus (subject : Subject) (text : String)
  | repeated (subject : Subject)
  deriving DecidableEq

namespace Error

def argument? : Error → Option String
  | .help => none
  | .missingImage => some imageShown
  | .unknown argument => some argument
  | .malformed p _ => some p.shown
  | .invalid subject _ | .surplus subject _ | .repeated subject => some subject.shown

def value? : Error → Option String
  | .malformed _ text | .invalid _ text | .surplus _ text => some text
  | _ => none

def exitCode : Error → UInt32
  | .help => 0
  | _ => 2

end Error

end SdBridge.Options
