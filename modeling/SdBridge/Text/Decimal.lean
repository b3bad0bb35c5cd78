/-! Numbers in decimal digits. -/
namespace SdBridge.Text

def natural? (cs : List Char) : Option Nat :=
  if cs = [] ∨ !cs.all Char.isDigit then none
  else some (cs.foldl (fun n c => 10 * n + (c.toNat - '0'.toNat)) 0)

def unsigned? : List Char → Option Nat
  | '+' :: digits => natural? digits
  | digits => natural? digits

/-- Whether a text is a power of ten behind a number, or none. -/
def isPower : List Char → Bool
  | [] => true
  | c :: '-' :: digits => (c == 'e' || c == 'E') && (natural? digits).isSome
  | c :: digits => (c == 'e' || c == 'E') && (unsigned? digits).isSome

/-- Whether a text without a sign writes a real number, or is a word for what is infinite or no
number. -/
def isReal (cs : List Char) : Bool :=
  let rest := cs.dropWhile Char.isDigit
  let fraction := if rest.head? = some '.' then rest.drop 1 else []
  let power := if rest.head? = some '.' then fraction.dropWhile Char.isDigit else rest
  let digits := cs.takeWhile Char.isDigit ++ fraction.takeWhile Char.isDigit
  digits != [] && isPower power ||
    ["inf", "infinity", "nan"].contains (String.ofList (cs.map Char.toLower))

end SdBridge.Text
