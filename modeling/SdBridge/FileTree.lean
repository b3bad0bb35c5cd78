import SdBridge.Bytes
import SdBridge.IoError

/-!
The files a program can see, by their paths. Paths that start with a slash lead from the root, all
others from the working directory.
-/
namespace SdBridge

inductive FileNode where
  | file (bytes : Bytes)
  | directory

/-- Files and directories by the names that lead to them from the working directory, or by
`FileTree.root` and the names from there. -/
structure FileTree where
  nodes : List (List String × FileNode) := []

namespace FileTree

def root : String := "/"

/-- The name that leads back from a directory. Above the working directory nothing is known but
that there are directories, so the places there are made of this name. -/
def up : String := ".."

/-- The names that lead along a path; empty ones come from doubled and closing slashes. -/
def steps (path : String) : List String :=
  match path.toList with
  | '/' :: rest => root :: (rest.splitOn '/').map String.ofList
  | names => (names.splitOn '/').map String.ofList

/-- The place that a name leads to from another. The root is above itself. -/
def next (place : List String) (name : String) : List String :=
  if name = "" ∨ name = "." then place
  else if name = up then
    if place = [root] then place
    else if place.all (· == up) then place ++ [up]
    else place.dropLast
  else place ++ [name]

def along : (place names : List String) → List (List String)
  | _, [] => []
  | place, name :: rest => next place name :: along (next place name) rest

def add (t : FileTree) (path : String) (node : FileNode) : FileTree :=
  match (along [] (steps path)).reverse with
  | [] => t
  | place :: passed => ⟨(place, node) :: t.nodes ++ passed.map (·, .directory)⟩

/-- What lies at a place. The root, the working directory and those above it are always there. -/
def nodeAt (t : FileTree) (place : List String) : Option FileNode :=
  match t.nodes.find? (·.1 == place) with
  | some (_, node) => some node
  | none => if place = [root] ∨ place.all (· == up) then some .directory else none

def longestName : Nat := 255

def longestPath : Nat := 4095

/-- Go from a place along names, to a place and what lies there. Each name but the last has to lead
to a directory. -/
def walk (t : FileTree) : (place names : List String) → Except IoError (List String × FileNode)
  | place, [] =>
    match t.nodeAt place with
    | some node => .ok (place, node)
    | none => .error .notFound
  | place, name :: rest =>
    match t.nodeAt place with
    | none => .error .notFound
    | some (.file _) => .error .notDirectory
    | some .directory =>
      if longestName < name.utf8ByteSize then .error .nameTooLong
      else t.walk (next place name) rest

def locate (t : FileTree) (path : String) : Except IoError (List String × FileNode) :=
  if path.toList.contains '\x00' then .error .nulInName
  else if path = "" then .error .notFound
  else if longestPath < path.utf8ByteSize then .error .nameTooLong
  else t.walk [] (steps path)

def find (t : FileTree) (path : String) : Except IoError FileNode :=
  (t.locate path).map fun (_, node) => node

/-- The place and the bytes of a file opened for reading and writing, which a directory cannot
be. -/
def openForUpdate (t : FileTree) (path : String) : Except IoError (List String × Bytes) := do
  match ← t.locate path with
  | (place, .file bytes) => return (place, bytes)
  | (_, .directory) => throw .isDirectory

def bytesAt (t : FileTree) (place : List String) : Bytes :=
  match t.nodeAt place with
  | some (.file bytes) => bytes
  | _ => .zeros 0

def setBytes (t : FileTree) (place : List String) (bytes : Bytes) : FileTree :=
  ⟨t.nodes.map fun (other, node) => (other, if other == place then .file bytes else node)⟩

def readText (t : FileTree) (path : String) : Except IoError String := do
  match ← t.find path with
  | .directory => throw .isDirectory
  | .file bytes =>
    match String.fromUTF8? ⟨bytes.toList.toArray⟩ with
    | some text => return text
    | none => throw .notText

end FileTree
end SdBridge
