import SdBridge.Fault
import SdBridge.Register.Word

/-!
A register file held in memory, with a log of the writes that arrive over the bus and a count of
the reads. Status registers can be write-one-to-clear: a one clears its bit, a zero leaves it.
The hardware side sets and gets words without leaving a trace in the log.
-/
namespace SdBridge

structure RegisterWrite where
  offset : Nat
  value : UInt32
  deriving DecidableEq

/-- The bytes of writes, the first of a word in its top bits: runs of neighbouring words in the
order of writing, each with the offset of its first word. -/
def RegisterWrite.runs : List RegisterWrite → List (Nat × List UInt8)
  | [] => []
  | w :: rest =>
    match runs rest with
    | (offset, bytes) :: more =>
      if offset = w.offset + 4 then (w.offset, bytesOfWord w.value ++ bytes) :: more
      else (w.offset, bytesOfWord w.value) :: (offset, bytes) :: more
    | [] => [(w.offset, bytesOfWord w.value)]

structure RegisterFile where
  words : Array UInt32
  /-- The offsets of the write-one-to-clear registers. -/
  clearOnOne : List Nat := []
  log : Array RegisterWrite := #[]
  reads : UInt32 := 0

namespace RegisterFile

def ofSize (bytes : Nat) (clearOnOne : List Nat := []) : Except Fault RegisterFile :=
  if bytes % 4 = 0 then (zeroed 0 4 (bytes / 4)).map fun words => { words, clearOnOne }
  else .error .fileLength

private def outside (f : RegisterFile) (offset : Nat) : Fault := .index f.words.size (offset / 4)

/-- The word an offset lies in, seen from the hardware. -/
def get (f : RegisterFile) (offset : Nat) : Except Fault UInt32 :=
  match f.words[offset / 4]? with
  | some word => .ok word
  | none => .error (f.outside offset)

def set (f : RegisterFile) (offset : Nat) (value : UInt32) : Except Fault Unit × RegisterFile :=
  if offset / 4 < f.words.size then
    (.ok (), { f with words := f.words.setIfInBounds (offset / 4) value })
  else (.error (f.outside offset), f)

/-- A bus read. It is counted even if it misses the file. -/
def read (f : RegisterFile) (offset : Nat) : Except Fault UInt32 × RegisterFile :=
  if offset % 4 = 0 then
    let f := { f with reads := f.reads + 1 }
    (f.get offset, f)
  else (.error (.unalignedRead offset), f)

def stored (f : RegisterFile) (offset : Nat) (old value : UInt32) : UInt32 :=
  if offset ∈ f.clearOnOne then old &&& ~~~value else value

def write (f : RegisterFile) (offset : Nat) (value : UInt32) :
    Except Fault Unit × RegisterFile :=
  if offset % 4 = 0 then
    let f := { f with log := f.log.push ⟨offset, value⟩ }
    match f.words[offset / 4]? with
    | some old =>
      (.ok (), { f with words := f.words.setIfInBounds (offset / 4) (f.stored offset old value) })
    | none => (.error (f.outside offset), f)
  else (.error (.unalignedWrite offset), f)

def writesTo (f : RegisterFile) (offset : Nat) : List UInt32 :=
  (f.log.toList.filter (·.offset == offset)).map (·.value)

def clearLog (f : RegisterFile) : RegisterFile := { f with log := #[] }

@[simp] theorem read_words (f : RegisterFile) (offset : Nat) :
    (f.read offset).2.words = f.words := by
  unfold read; split <;> rfl

@[simp] theorem read_log (f : RegisterFile) (offset : Nat) :
    (f.read offset).2.log = f.log := by
  unfold read; split <;> rfl

/-- A read changes nothing but the count of reads. -/
theorem read_eq (f : RegisterFile) (offset : Nat) (h : offset % 4 = 0) :
    f.read offset = (f.get offset, { f with reads := f.reads + 1 }) := by
  simp only [read, h, if_true]
  rfl

theorem write_size (f : RegisterFile) (offset : Nat) (value : UInt32) :
    (f.write offset value).2.words.size = f.words.size := by
  simp only [write]
  split
  · split <;> simp
  · rfl

end RegisterFile
end SdBridge
