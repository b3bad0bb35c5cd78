import SdBridge.Text.Hex
import SdBridge.Text.Hidden

/-!
Quoted text: a text between double quotes in which quotes, backslashes and characters that cannot
be seen are written as escapes.
-/
namespace SdBridge.Text

def byCode (c : Char) : List Char := "\\u\x7b".toList ++ hexDigits c.toNat ++ ['\x7d']

def escaped (c : Char) : List Char :=
  match c with
  | '"' => ['\\', '"']
  | '\\' => ['\\', '\\']
  | '\n' => ['\\', 'n']
  | '\r' => ['\\', 'r']
  | '\t' => ['\\', 't']
  | '\x00' => ['\\', '0']
  | c => if isHidden c then byCode c else [c]

def quoted (s : String) : String := String.ofList ('"' :: s.toList.flatMap escaped ++ ['"'])

end SdBridge.Text
