import SdBridge.Log.Pattern.Atom

/-!
Classes of patterns: characters, ranges of them and further classes between brackets, put together
by operators, which are marks that stand twice. Only the depth of a class is kept.
-/
namespace SdBridge.Log.Pattern

/-- The depth of parts that stand together: those of several are inside of what holds them. -/
def together : List Nat → Nat
  | [] => 0
  | [depth] => depth
  | depths => 1 + depths.foldl max 0

structure Class where
  /-- The depth of what is left of an operator, if there was one. -/
  left : Option Nat := none
  /-- The depths of the items since then. -/
  items : List Nat := []

namespace Class

def add (k : Class) (depth : Nat) : Class := { k with items := depth :: k.items }

/-- The depth of what a class holds. Operators apply from left to right. -/
def depth (k : Class) : Nat :=
  match k.left with
  | none => together k.items
  | some left => 1 + max left (together k.items)

def operate (k : Class) : Class := ⟨some k.depth, []⟩

def names : List String :=
  ["alnum", "alpha", "ascii", "blank", "cntrl", "digit", "graph", "lower", "print", "punct",
    "space", "upper", "word", "xdigit"]

/-- Read a class by its name between colons, behind its bracket, and whether all but its characters
are meant. -/
def named? : List Char → Option (Bool × List Char)
  | ':' :: cs =>
    let others := cs.head? = some '^'
    let cs := if others then cs.drop 1 else cs
    match cs.dropWhile (· != ':') with
    | ':' :: ']' :: rest =>
      if names.contains (String.ofList (cs.takeWhile (· != ':'))) then some (others, rest) else none
    | _ => none
  | _ => none

/-- Read the minus signs that a class starts with; they stand for themselves. -/
def dashes (f : Flags) : (fuel : Nat) → Class → List Char → Class × List Char
  | fuel + 1, k, '-' :: rest => dashes f fuel (k.add 0) (f.skip rest)
  | _, k, cs => (k, cs)

/-- A bracket that would close the class at once stands for itself. A class of bytes has ASCII only,
so that it cannot be negated. -/
def start? (f : Flags) (cs : List Char) : Option (Class × List Char) :=
  let cs := f.skip cs
  let others := cs.head? = some '^'
  let cs := if others then f.skip (cs.drop 1) else cs
  let (k, rest) := dashes f cs.length {} cs
  let (k, rest) := match k.items, rest with
    | [], ']' :: rest => (k.add 0, f.skip rest)
    | _, _ => (k, rest)
  if others && !f.unicode || k.items != [] && f.unicode && f.caseless then none
  else some (k, rest)

def atom? (f : Flags) : List Char → Option (Atom × List Char)
  | [] => none
  | '\\' :: rest => escaped f rest
  | c :: rest => some (.literal c, rest)

def isRange (f : Flags) : Atom → Atom → Bool
  | .literal first fromByte, .literal last toByte =>
    Atom.isSupportedInClass f (.literal first fromByte) &&
      Atom.isSupportedInClass f (.literal last toByte) && first ≤ last
  | _, _ => false

/-- Read an atom or a range. A minus sign in front of another one or of the end of the class makes
no range. -/
def item? (f : Flags) (cs : List Char) : Option (List Char) := do
  let (first, rest) ← atom? f cs
  let single (rest : List Char) := if first.isSupportedInClass f then some rest else none
  match f.skip rest with
  | [] => none
  | '-' :: past =>
    if f.next? past = some ']' ∨ f.next? past = some '-' then single ('-' :: past)
    else
      let (last, rest) ← atom? f (f.skip past)
      if isRange f first last then some rest else none
  | rest => single rest

/-- Read on in a class that lies in others, the innermost first, and tell the depth of the outermost
once it closes. -/
def read (f : Flags) : (fuel : Nat) → Class → (around : List Class) → List Char →
    Option (Nat × List Char)
  | 0, _, _, _ => none
  | fuel + 1, k, around, cs =>
    match f.skip cs, around with
    | [], _ => none
    | '[' :: rest, _ =>
      match named? rest with
      | some (others, rest) =>
        let refused := if f.unicode then f.caseless else others
        if refused then none else read f fuel (k.add 0) around rest
      | none => (start? f rest).bind fun (inner, rest) => read f fuel inner (k :: around) rest
    | ']' :: rest, [] => some (1 + k.depth, rest)
    | ']' :: rest, outer :: around => read f fuel (outer.add (1 + k.depth)) around rest
    | '&' :: '&' :: rest, _ | '-' :: '-' :: rest, _ | '~' :: '~' :: rest, _ =>
      read f fuel k.operate around rest
    | cs, _ => (item? f cs).bind fun rest => read f fuel (k.add 0) around rest

/-- Read a class behind its bracket, and tell its depth. Each step reads a character at least. -/
def ofText? (f : Flags) (cs : List Char) : Option (Nat × List Char) :=
  (start? f cs).bind fun (k, rest) => read f (rest.length + 1) k [] rest

end Class
end SdBridge.Log.Pattern
