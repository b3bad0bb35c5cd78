import SdBridge.FileTree
import SdBridge.Mapping
import SdBridge.Text.Hex

/-!
A scratch arena: a fixed block of fast memory from which objects get their places one after the
other. Nothing is ever given back to it.
-/
namespace SdBridge.Scratch

def defaultSize : Nat := 256 * 1024

inductive Error where
  | opening (path : String) (source : IoError)
  | mapping (path : String) (size : Nat) (source : IoError)
  | exhausted (requested available : Nat)
  deriving DecidableEq

def Error.message : Error → String
  | .opening path source => s!"failed to open scratch device {path}: {source.message}"
  | .mapping path size source =>
    s!"failed to map scratch device {path} ({Text.hex size} bytes): {source.message}"
  | .exhausted requested available =>
    s!"scratch arena exhausted: {requested} bytes requested, {available} available"

structure Arena where
  base : Nat
  size : Nat
  /-- The end of the last place handed out, counted from the base. -/
  used : Nat := 0
  deriving DecidableEq

def word? (n : Nat) : Option Nat := if n < UInt64.size then some n else none

def nextMultiple (n unit : Nat) : Nat := (n + unit - 1) / unit * unit

namespace Arena

def nextStart (a : Arena) (alignment : Nat) : Nat :=
  nextMultiple (a.base + a.used) alignment - a.base

/-- Where the next object ends, counted from the base, if it fits. An aligned address or an end that
is no word does not fit. -/
def nextEnd? (a : Arena) (size alignment : Nat) : Option Nat := do
  let first ← word? (nextMultiple (a.base + a.used) alignment)
  let past ← word? (first - a.base + size)
  if past ≤ a.size then some past else none

/-- Hand out a place for an object; the result is its start, counted from the base. An object that
does not fit comes back. -/
def alloc (a : Arena) (size alignment : Nat) (object : α) : Except (Error × α) (Nat × Arena) :=
  match a.nextEnd? size alignment with
  | some past => .ok (a.nextStart alignment, { a with used := past })
  | none => .error (.exhausted size (a.size - a.used), object)

/-- Map a device as an arena at a given address. Unless a size is asked for, it is the size of the
file behind the device. -/
def ofDevice (tree : FileTree) (path : String) (asked : Option Nat) (address : Nat) :
    Except Error Arena := do
  let (_, bytes) ← (tree.openForUpdate path).mapError (.opening path)
  let size := asked.getD (if bytes.size = 0 then defaultSize else bytes.size)
  match Mapping.refusal? Mapping.largestPromise 0 size with
  | some source => throw (.mapping path size source)
  | none => return ⟨address, size, 0⟩

end Arena
end SdBridge.Scratch
