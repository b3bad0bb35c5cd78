import SdBridge.Fault

/-!
What a file or a block of memory holds. It may be very long, and most of it was never written, so
that it is a function on positions: what there was at first, changed by what was stored since.
-/
namespace SdBridge

structure Bytes where
  size : Nat
  /-- The byte at a position. There are bytes past the end too: a mapped file shows them behind its
  end, in its last page. -/
  byte : Nat → UInt8

namespace Bytes

def zeros (size : Nat) : Bytes := ⟨size, fun _ => 0⟩

def ofArray (a : Array UInt8) : Bytes := ⟨a.size, fun i => a[i]?.getD 0⟩

def ofByteArray (a : ByteArray) : Bytes := ⟨a.size, fun i => if h : i < a.size then a[i] else 0⟩

def allocate (size : Nat) : Except Fault Bytes :=
  if size ≤ largestObject then .ok (zeros size) else .error .capacity

def slice (b : Bytes) (start count : Nat) : List UInt8 :=
  (List.range count).map fun i => b.byte (start + i)

def toList (b : Bytes) : List UInt8 := b.slice 0 b.size

def store (b : Bytes) (start : Nat) (run : Array UInt8) : Bytes :=
  { b with byte := fun i =>
      if i < start then b.byte i
      else if h : i - start < run.size then run[i - start] else b.byte i }

def resize (b : Bytes) (size : Nat) : Bytes :=
  ⟨size, fun i => if i < b.size ∧ i < size then b.byte i else 0⟩

/-- Replace a run of bytes, which may lie past the end; the size grows as needed. -/
def splice (b : Bytes) (start : Nat) (run : Array UInt8) : Bytes :=
  (if start + run.size ≤ b.size then b else b.resize (start + run.size)).store start run

/-- The little-endian word at a position. -/
def word (b : Bytes) (start : Nat) : UInt32 :=
  (b.byte start).toUInt32 ||| ((b.byte (start + 1)).toUInt32 <<< 8) |||
    ((b.byte (start + 2)).toUInt32 <<< 16) ||| ((b.byte (start + 3)).toUInt32 <<< 24)

def setWord (b : Bytes) (start : Nat) (value : UInt32) : Bytes :=
  b.store start
    #[value.toUInt8, (value >>> 8).toUInt8, (value >>> 16).toUInt8, (value >>> 24).toUInt8]

@[simp] theorem length_slice (b : Bytes) (start count : Nat) :
    (b.slice start count).length = count := by
  simp [slice]

@[simp] theorem size_store (b : Bytes) (start : Nat) (run : Array UInt8) :
    (b.store start run).size = b.size := rfl

theorem byte_store_of_lt (b : Bytes) (start : Nat) (run : Array UInt8) (i : Nat) (h : i < start) :
    (b.store start run).byte i = b.byte i := by
  simp [store, h]

theorem byte_store_add (b : Bytes) (start : Nat) (run : Array UInt8) (k : Nat) (h : k < run.size) :
    (b.store start run).byte (start + k) = run[k] := by
  have : ¬start + k < start := by omega
  simp [store, this, h]

theorem byte_store_of_le (b : Bytes) (start : Nat) (run : Array UInt8) (i : Nat)
    (h : start + run.size ≤ i) : (b.store start run).byte i = b.byte i := by
  have : ¬i - start < run.size := by omega
  simp [store, this]

theorem size_splice (b : Bytes) (start : Nat) (run : Array UInt8) :
    (b.splice start run).size = max b.size (start + run.size) := by
  unfold splice
  split
  · simp only [size_store]
    omega
  · simp only [size_store, resize]
    omega

end Bytes
end SdBridge
