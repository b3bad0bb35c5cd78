import SdBridge.Log.Pattern.Flags
import SdBridge.Text.Hex

/-!
The smallest parts of patterns: characters, and what letters behind a backslash stand for. There
are no tables of what characters are, so that what needs them is refused: the other case of a
character, and classes and words of other characters than ASCII. A text is not cut inside of a
character, so that what might match a part of one is refused as well.
-/
namespace SdBridge.Log.Pattern

inductive Atom where
  /-- A character; `byte` tells that it is written as a byte, by two hexadecimal digits. -/
  | literal (char : Char) (byte : Bool := false)
  | anyOf
  | edge
  /-- The start or the end of a word, or a place that is neither. -/
  | wordEdge
  deriving DecidableEq

namespace Atom

def isSupported (f : Flags) : Atom → Bool
  | .literal c byte => if f.unicode then !f.caseless else !byte || c.toNat ≤ 0x7f
  | .edge => true
  | .anyOf | .wordEdge => !f.unicode

def isSupportedInClass (f : Flags) : Atom → Bool
  | .literal c _ => if f.unicode then !f.caseless else c.toNat ≤ 0x7f
  | .anyOf => !f.unicode
  | .edge | .wordEdge => false

end Atom

/-- The number that hexadecimal digits show, with what is passed over between them. -/
def coded (f : Flags) : (digits : Nat) → (high : Nat) → List Char → Option (Nat × List Char)
  | 0, n, cs => some (n, cs)
  | _ + 1, _, [] => none
  | digits + 1, n, c :: rest =>
    (Text.hexDigit? c).bind fun digit => coded f digits (16 * n + digit) (f.skip rest)

def codedChar (f : Flags) (digits : Nat) (cs : List Char) : Option (Atom × List Char) := do
  let (n, rest) ← coded f digits 0 (f.skip cs)
  if n.isValidChar then some (.literal (Char.ofNat n) (digits == 2), rest) else none

/-- Read what follows a backslash. What matches anything but digits, spaces or words is refused, and
so are references to groups and properties of characters. -/
def escaped (f : Flags) : List Char → Option (Atom × List Char)
  | [] => none
  | c :: rest =>
    match c with
    | 'x' => codedChar f 2 rest
    | 'u' => codedChar f 4 rest
    | 'U' => codedChar f 8 rest
    | 'd' | 's' | 'w' => some (.anyOf, rest)
    | 'A' | 'z' => some (.edge, rest)
    | 'b' | 'B' | '<' | '>' => some (.wordEdge, rest)
    | 'a' => some (.literal '\x07', rest)
    | 'f' => some (.literal '\x0c', rest)
    | 'n' => some (.literal '\n', rest)
    | 'r' => some (.literal '\r', rest)
    | 't' => some (.literal '\t', rest)
    | 'v' => some (.literal '\x0b', rest)
    | _ => if c.toNat ≤ 0x7f && !c.isAlphanum then some (.literal c, rest) else none

end SdBridge.Log.Pattern
