import SdBridge.Image.Store

/-! An image held in memory. -/
namespace SdBridge.Image

structure Memory where
  bytes : Bytes

namespace Memory

/-- A zeroed image; it may have no sectors at all. -/
def blank (sectors : UInt64) : Except Fault Memory := do
  let size ← checkedMul sectors sectorSize.toUInt64
  return ⟨← Bytes.allocate size.toNat⟩

def ofBytes (bytes : Bytes) : Except Error Memory :=
  (sectorsOfSize bytes.size.toUInt64).map fun _ => ⟨bytes⟩

def sectorCount (m : Memory) : UInt64 := (m.bytes.size / sectorSize).toUInt64

def start (m : Memory) (lba : UInt64) : Except (Failure Error) Nat := do
  let start ← sectorStart lba m.sectorCount
  if start.toNat + sectorSize ≤ m.bytes.size then .ok start.toNat
  else .error (.fault (.index m.bytes.size (start.toNat + sectorSize)))

instance : Store Memory where
  sectorCount := sectorCount
  read lba buffer m :=
    match m.start lba with
    | .ok start => ⟨.ok (), sectorAt m.bytes start, m⟩
    | .error e => ⟨.error e, buffer, m⟩
  write lba contents m :=
    match m.start lba with
    | .ok start => (.ok (), ⟨m.bytes.splice start contents.toArray⟩)
    | .error e => (.error e, m)

end Memory
end SdBridge.Image
