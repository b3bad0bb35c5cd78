import SdBridge.Bytes

/-!
A window onto mapped memory: 32-bit accesses at aligned offsets that lie inside the window. The
window knows its length only; the memory it shows belongs to a file or device, which other
windows may show as well.
-/
namespace SdBridge

structure Window where
  start : Nat
  size : UInt64

namespace Window

def isEmpty (w : Window) : Bool := w.size == 0

/-- The place of a word in what is mapped, unless it is unaligned, outside of the window or past the
largest offset. -/
def locate (w : Window) (offset : UInt64) : Except Fault Nat :=
  if offset % 4 != 0 then .error (.unalignedWindow offset.toNat)
  else match checkedAdd offset 4 with
    | .error fault => .error fault
    | .ok past =>
      if past ≤ w.size then .ok (w.start + offset.toNat)
      else .error (.outsideWindow offset.toNat w.size.toNat)

def read (w : Window) (m : Bytes) (offset : UInt64) : Except Fault UInt32 :=
  (w.locate offset).map m.word

def write (w : Window) (m : Bytes) (offset : UInt64) (value : UInt32) : Except Fault Bytes :=
  (w.locate offset).map fun place => m.setWord place value

end Window
end SdBridge
