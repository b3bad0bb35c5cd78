import SdBridge.AddressSpace
import SdBridge.FileTree
import SdBridge.Log
import SdBridge.Mapping
import SdBridge.Register.Window
import SdBridge.Text.Blank
import SdBridge.Text.Quoted

/-!
The device file through which the SD block is reached. It has numbered regions, each mapped at its
own page, and a directory tells the size of each in a text file.
-/
namespace SdBridge

inductive Device.Region where
  | buffer
  | control
  /-- The bank of the reset and kick lines. -/
  | lines
  deriving DecidableEq

def Device.Region.index : Device.Region → UInt64
  | .buffer => 0
  | .control => 1
  | .lines => 2

inductive Device.Error where
  | opening (path : String) (source : IoError)
  | readingSize (index : UInt64) (path : String) (source : IoError)
  | badSize (index : UInt64) (text : String)
  | empty (index : UInt64)
  | mapping (index size : UInt64) (source : IoError)
  deriving DecidableEq

namespace Device.Error

def message : Error → String
  | .opening path source => s!"failed to open {path}: {source.message}"
  | .readingSize index path source =>
    s!"failed to read size of map{index} from {path}: {source.message}"
  | .badSize index text => s!"malformed size {Text.quoted text} for map{index}"
  | .empty index => s!"map{index} has zero size"
  | .mapping index size source =>
    s!"mmap of map{index} ({Text.hex size.toNat} bytes) failed: {source.message}"

def source? : Error → Option IoError
  | .opening _ source | .readingSize _ _ source | .mapping _ _ source => some source
  | _ => none

end Device.Error

structure Device where
  /-- The place of the file, whose bytes are the memory of the device. -/
  place : List String
  directory : String

namespace Device

def defaultPath : String := "/dev/uio0"

def classRoot : String := "/sys/class/uio"

def fileName (path : String) : String :=
  ((FileTree.steps path).filter fun name => name ≠ "" ∧ name ≠ ".").getLast?.getD ""

/-- The value of hexadecimal digits behind those that gave `high`. -/
def hexValue? : (high : Nat) → List Char → Option Nat
  | high, [] => some high
  | high, c :: rest =>
    match Text.hexDigit? c with
    | some digit => hexValue? (16 * high + digit) rest
    | none => none

/-- The number behind the `0x` of a size: digits, which a plus sign may precede. -/
def unsigned? (digits : List Char) : Option UInt64 :=
  let digits := match digits with
    | '+' :: rest => rest
    | _ => digits
  if digits = [] then none
  else match hexValue? 0 digits with
    | some n => if n < UInt64.size then some n.toUInt64 else none
    | none => none

def size? (text : String) : Option UInt64 :=
  match Text.trimmed text.toList with
  | '0' :: 'x' :: digits | '0' :: 'X' :: digits => unsigned? digits
  | _ => none

def ofPath (tree : FileTree) (path : String) (classes : String := classRoot) :
    Except Error Device := do
  let (place, _) ← (tree.openForUpdate path).mapError (.opening path)
  return { place, directory := s!"{classes}/{fileName path}" }

def sizePath (d : Device) (index : UInt64) : String := s!"{d.directory}/maps/map{index}/size"

/-- The size of a region, which is not zero. -/
def regionSize (d : Device) (tree : FileTree) (index : UInt64) : Except Error UInt64 := do
  let path := d.sizePath index
  let text ← (tree.readText path).mapError (.readingSize index path)
  match size? text with
  | none => throw (.badSize index (String.ofList (Text.trimmed text.toList)))
  | some size => if size = 0 then throw (.empty index) else return size

def mappedEntry (index size : UInt64) : Log.Entry :=
  ⟨.debug, "mapped uio region", [("index", .number index), ("len", .number size)]⟩

structure Mapped where
  window : Window
  addresses : AddressRange

/-- Map a region into free addresses: the mapping, what is logged about it, and the addresses that
are left. -/
def map (d : Device) (tree : FileTree) (space : AddressSpace) (index : UInt64) :
    Except (Failure Error) (Mapped × Log.Entry × AddressSpace) := do
  let size ← (d.regionSize tree index).mapError .error
  let start ← (checkedMul index Mapping.pageSize.toUInt64).mapError .fault
  let refused (source : IoError) := throw (.error (.mapping index size source))
  match Mapping.refusal? space.widest start.toNat size.toNat with
  | some source => refused source
  | none =>
    match space.take? (Mapping.paged size.toNat) with
    | some (addresses, space) =>
      return (⟨⟨start.toNat, size⟩, addresses⟩, mappedEntry index size, space)
    | none => refused .outOfMemory

end Device
end SdBridge
