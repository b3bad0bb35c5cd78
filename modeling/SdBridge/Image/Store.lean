import SdBridge.Bytes
import SdBridge.IoError

/-!
Images: stores of 512-byte sectors that a card presents. A store reads into a buffer, and a read
that fails may leave the buffer partly overwritten.
-/
namespace SdBridge.Image

abbrev sectorSize : Nat := 512

abbrev Sector := Vector UInt8 sectorSize

inductive Error where
  | opening (path : String) (source : IoError)
  | empty
  | unaligned (size : UInt64)
  | outOfRange (lba sectors : UInt64)
  | readOnly
  | io (lba : UInt64) (source : IoError)
  deriving DecidableEq

namespace Error

def message : Error → String
  | .opening path _ => "failed to open " ++ path
  | .empty => "image is empty"
  | .unaligned size => s!"image size {size} is not a multiple of 512-byte sectors"
  | .outOfRange lba sectors => s!"sector {lba} out of range (image has {sectors} sectors)"
  | .readOnly => "image is read-only"
  | .io lba _ => s!"I/O error at sector {lba}"

def source? : Error → Option IoError
  | .opening _ source => some source
  | .io _ source => some source
  | _ => none

end Error

/-- What a read gives: whether it worked, the buffer and the store after it. -/
structure Read (β : Type) where
  result : Except (Failure Error) Unit
  buffer : Sector
  store : β

class Store (β : Type) where
  sectorCount : β → UInt64
  read : (lba : UInt64) → (buffer : Sector) → β → Read β
  write : (lba : UInt64) → (contents : Sector) → β → Except (Failure Error) Unit × β

instance [Store β] [Store γ] : Store (β ⊕ γ) where
  sectorCount
    | .inl b => Store.sectorCount b
    | .inr c => Store.sectorCount c
  read lba buffer
    | .inl b => let r := Store.read lba buffer b; ⟨r.result, r.buffer, .inl r.store⟩
    | .inr c => let r := Store.read lba buffer c; ⟨r.result, r.buffer, .inr r.store⟩
  write lba contents
    | .inl b => (Store.write lba contents b).map id .inl
    | .inr c => (Store.write lba contents c).map id .inr

def sizeInBytes [Store β] (b : β) : Except Fault UInt64 :=
  checkedMul (Store.sectorCount b) sectorSize.toUInt64

/-- The sectors of an image of a given size, which must be a positive whole number of them. -/
def sectorsOfSize (size : UInt64) : Except Error UInt64 :=
  if size = 0 then .error .empty
  else if size % sectorSize.toUInt64 ≠ 0 then .error (.unaligned size)
  else .ok (size / sectorSize.toUInt64)

def sectorStart (lba sectors : UInt64) : Except (Failure Error) UInt64 :=
  if sectors ≤ lba then .error (.error (.outOfRange lba sectors))
  else (checkedMul lba sectorSize.toUInt64).mapError .fault

def sectorAt (bytes : Bytes) (start : Nat) : Sector :=
  Vector.ofFn fun i => bytes.byte (start + i.val)

end SdBridge.Image
