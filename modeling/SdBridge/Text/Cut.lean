import SdBridge.Fault

/-! Parts of texts, by positions that count the bytes of UTF-8. -/
namespace SdBridge.Text

def isCut (text : String) (position : Nat) : Bool := String.Pos.Raw.isValid text ⟨position⟩

/-- The part of a text between two positions. It is a fault if a character lies across one. -/
def cut (text : String) (first past : Nat) : Except Fault String :=
  if !isCut text first then .error (.insideCharacter first)
  else if !isCut text past then .error (.insideCharacter past)
  else .ok (String.Pos.Raw.extract text ⟨first⟩ ⟨past⟩)

end SdBridge.Text
