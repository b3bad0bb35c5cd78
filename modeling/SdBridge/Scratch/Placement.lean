import SdBridge.Log
import SdBridge.Scratch.Arena
import SdBridge.Settings

/-!
Where the working set of the command loop goes: into scratch memory as far as there is room, and
onto the heap otherwise. Placement changes latency only.
-/
namespace SdBridge.Scratch

inductive Place where
  | heap
  /-- A start in the arena, counted from its base. -/
  | arena (start : Nat)
  deriving DecidableEq

structure Placed (α : Type) where
  object : α
  place : Place

inductive Placement where
  | heap
  | scratch (arena : Arena)
  deriving DecidableEq

namespace Placement

def usesScratch : Placement → Bool
  | .heap => false
  | .scratch _ => true

def misfit (e : Error) : Log.Entry :=
  ⟨.debug, "object does not fit in scratch memory", [("error", .text e.message)]⟩

/-- Move an object to its place. One without bytes needs no room and never asks the arena, and one
that comes back from it goes onto the heap. -/
def put (size alignment : Nat) (object : α) : Placement → Placed α × List Log.Entry × Placement
  | .heap => (⟨object, .heap⟩, [], .heap)
  | .scratch arena =>
    if size = 0 then (⟨object, .heap⟩, [], .scratch arena)
    else match arena.alloc size alignment object with
      | .ok (start, arena) => (⟨object, .arena start⟩, [], .scratch arena)
      | .error (e, object) => (⟨object, .heap⟩, [misfit e], .scratch arena)

def place (size alignment : Nat) (p : Placement) : Place × List Log.Entry × Placement :=
  let (placed, rest) := p.put size alignment ()
  (placed.place, rest)

def inScratch (path : String) (arena : Arena) : Log.Entry :=
  ⟨.info, "placing command loop in scratch memory",
    [("path", .text path), ("len", .number arena.size.toUInt64)]⟩

def unavailable (e : Error) : Log.Entry :=
  ⟨.warn, "scratch memory unavailable; using the heap", [("error", .text e.message)]⟩

/-- Use the scratch device of the settings if there is one that can be mapped. -/
def probe (tree : FileTree) (s : Settings) (address : Nat) : Placement × List Log.Entry :=
  match s.scratchDevice with
  | none => (.heap, [])
  | some path =>
    match Arena.ofDevice tree path none address with
    | .ok arena => (.scratch arena, [inScratch path arena])
    | .error e => (.heap, [unavailable e])

end Placement
end SdBridge.Scratch
