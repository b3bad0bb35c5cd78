import SdBridge.Text.Blank

/-!
Flags of patterns: switches that hold from where they are turned to the end of the group around
them. Those that do not change what is a pattern are known by their letters only.
-/
namespace SdBridge.Log.Pattern

structure Flags where
  caseless : Bool := false
  /-- Characters are matched, not bytes. -/
  unicode : Bool := true
  spaced : Bool := false
  deriving DecidableEq

/-- A text without the white space and the comments in front. The first argument tells whether it
starts in a comment. -/
def uncommented : Bool → List Char → List Char
  | _, [] => []
  | true, c :: rest => uncommented (c != '\n') rest
  | false, c :: rest =>
    if c == '#' then uncommented true rest
    else if Text.isBlank c then uncommented false rest
    else c :: rest

namespace Flags

def skip (f : Flags) (cs : List Char) : List Char := if f.spaced then uncommented false cs else cs

/-- The next character past white space, where one number sign counts as white space and its
comment does not. -/
def next? (f : Flags) (cs : List Char) : Option Char :=
  if f.spaced then
    match cs.dropWhile Text.isBlank with
    | '#' :: rest => (rest.dropWhile Text.isBlank).head?
    | rest => rest.head?
  else cs.head?

def turn (f : Flags) (on : Bool) : Char → Option Flags
  | 'i' => some { f with caseless := on }
  | 'u' => some { f with unicode := on }
  | 'x' => some { f with spaced := on }
  | 'm' | 's' | 'R' | 'U' => some f
  | _ => none

/-- Turn switches on in front of a minus sign and off behind it. No letter may come twice, and the
sign has letters behind it. -/
def turned (f : Flags) (on : Bool) (seen : List Char) :
    List Char → Option (Flags × Char × List Char)
  | [] => none
  | c :: rest =>
    if c == ':' || c == ')' then if seen.head? = some '-' then none else some (f, c, rest)
    else if seen.contains c then none
    else if c == '-' then f.turned false (c :: seen) rest
    else (f.turn on c).bind fun f => f.turned on (c :: seen) rest

end Flags
end SdBridge.Log.Pattern
