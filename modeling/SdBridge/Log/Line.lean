import SdBridge.Log

/-! Log entries as lines of text. -/
namespace SdBridge.Log

/-- An entry and the part of the program it comes from. -/
structure Line where
  target : String
  entry : Entry

def Value.shown : Value → String
  | .number n => toString n
  | .real x => toString x
  | .text s => s

/-- The names of the fields of a line, of which its message is one. -/
def Line.fieldNames (l : Line) : List String := "message" :: l.entry.fields.map (·.1)

def Line.text (l : Line) : String :=
  " ".intercalate (s!"{l.entry.level.name} {l.target}: {l.entry.message}" ::
    l.entry.fields.map fun (name, value) => s!"{name}={value.shown}")

end SdBridge.Log
