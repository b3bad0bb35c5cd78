import SdBridge.FileTree
import SdBridge.Image.Store

/-!
An image in a file. The number of sectors is fixed when the file is opened; should the file change
its length later, reads past its end fail and writes past its end make it grow.
-/
namespace SdBridge.Image

structure OpenFile where
  bytes : Bytes
  forWriting : Bool

structure File where
  file : OpenFile
  sectors : UInt64
  writable : Bool

namespace File

def ofFile (file : OpenFile) (writable : Bool) : Except Error File :=
  (sectorsOfSize file.bytes.size.toUInt64).map fun sectors => { file, sectors, writable }

/-- Open an image by its path. A directory can be opened for reading, but has no length. -/
def ofPath (tree : FileTree) (path : String) (writable : Bool := false) : Except Error File := do
  match ← (tree.find path).mapError (.opening path) with
  | .file bytes => ofFile ⟨bytes, writable⟩ writable
  | .directory => throw (if writable then .opening path .isDirectory else .io 0 .invalidArgument)

/-- Read into a buffer; a file that ends too early fills the start of it only. -/
def readAt (file : OpenFile) (start : Nat) (buffer : Sector) : Except IoError Unit × Sector :=
  if start + sectorSize ≤ file.bytes.size then (.ok (), sectorAt file.bytes start)
  else
    (.error .unexpectedEnd,
      Vector.ofFn fun i =>
        if start + i.val < file.bytes.size then file.bytes.byte (start + i.val) else buffer[i])

def writeAt (file : OpenFile) (start : Nat) (contents : Sector) : Except IoError OpenFile :=
  if file.forWriting then .ok { file with bytes := file.bytes.splice start contents.toArray }
  else .error .badDescriptor

instance : Store File where
  sectorCount f := f.sectors
  read lba buffer f :=
    match sectorStart lba f.sectors with
    | .error e => ⟨.error e, buffer, f⟩
    | .ok start =>
      match readAt f.file start.toNat buffer with
      | (.ok (), buffer) => ⟨.ok (), buffer, f⟩
      | (.error source, buffer) => ⟨.error (.error (.io lba source)), buffer, f⟩
  write lba contents f :=
    if f.writable then
      match sectorStart lba f.sectors with
      | .error e => (.error e, f)
      | .ok start =>
        match writeAt f.file start.toNat contents with
        | .ok file => (.ok (), { f with file })
        | .error source => (.error (.error (.io lba source)), f)
    else (.error (.error .readOnly), f)

end File
end SdBridge.Image
