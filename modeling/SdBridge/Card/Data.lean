import SdBridge.Card.Registers
import SdBridge.Card.Ticket
import SdBridge.Image.Store
import SdBridge.Protocol

/-!
The data half of the card. It follows the ticket that the command half posted, stages the blocks
of its job one after the other and hands out their bytes. When a job has ended it says so by the
one word that the command half reads back.
-/
namespace SdBridge.Card

structure Data (β : Type) where
  store : β
  ticket : Ticket := .idle
  /-- What is left of the ticket's job beyond the staged block. -/
  job : Job := .idle
  block : Image.Sector := Vector.replicate Image.sectorSize 0
  size : Nat := 0
  position : Nat := 0
  /-- The ticket finished last: the word that the command half reads. -/
  finished : Ticket := .idle
  size_le : size ≤ Image.sectorSize := by decide

namespace Data

variable {β : Type}

/-- Drop whatever is staged when another ticket was posted. -/
def follow (posted : Ticket) (d : Data β) : Data β :=
  if posted = d.ticket then d
  else { d with ticket := posted, job := posted.job, size := 0, position := 0,
                size_le := Nat.zero_le _ }

def finish (d : Data β) : Data β := { d with job := .idle, finished := d.ticket }

/-- Put a short block at the start of the buffer, as the last of the job. -/
def stage (bytes : Vector UInt8 n) (fits : n ≤ Image.sectorSize) (d : Data β) : Data β :=
  { d with block := overlay bytes.toArray d.block, size := n, position := 0, job := .idle,
           size_le := fits }

def remaining (job : Job) (lba sectors : UInt64) : Except Fault Job :=
  match job with
  | .readBlocks _ => do
    let next ← checkedAdd lba 1
    return if next < sectors then .readBlocks next else .idle
  | _ => .ok .idle

def staged (lba : UInt64) : Log.Entry := ⟨.trace, "sector staged", [("lba", .number lba)]⟩

def readFailed (lba : UInt64) (error : Image.Error) : Log.Entry :=
  ⟨.warn, "sector read failed", [("lba", .number lba), ("error", .text error.message)]⟩

/-- Stage a sector, or end the job if it cannot be read. -/
def loadSector [Image.Store β] (lba : UInt64) (d : Data β) : Served Bool (Data β) :=
  let read := Image.Store.read lba d.block d.store
  let d := { d with store := read.store, block := read.buffer }
  match read.result with
  | .error (.fault fault) => ⟨.error fault, d, []⟩
  | .error (.error error) => ⟨.ok false, d.finish, [readFailed lba error]⟩
  | .ok () =>
    let d := { d with size := Image.sectorSize, position := 0, size_le := Nat.le_refl _ }
    match remaining d.job lba (Image.Store.sectorCount d.store) with
    | .error fault => ⟨.error fault, d, [staged lba]⟩
    | .ok job => ⟨.ok true, { d with job }, [staged lba]⟩

/-- Stage the next block of the job; `false` if there is none. -/
def load [Image.Store β] (d : Data β) : Served Bool (Data β) :=
  match d.job with
  | .idle => ⟨.ok false, d, []⟩
  | .readBlock lba | .readBlocks lba => d.loadSector lba
  | .sdStatus wideBus => ⟨.ok true, d.stage (sdStatus wideBus) (by decide), []⟩
  | .scr => ⟨.ok true, d.stage scr (by decide), []⟩

/-- Whether a byte of the ticket at hand can be taken, staging a block for it if need be. -/
def prepare [Image.Store β] (d : Data β) : Served Bool (Data β) :=
  if d.position < d.size then ⟨.ok true, d, []⟩ else d.load

/-- Whether a byte can be taken, given the ticket posted last. -/
def ready [Image.Store β] (posted : Ticket) (d : Data β) : Served Bool (Data β) :=
  (d.follow posted).prepare

/-- Hand out the next staged byte; zero if there is none. The last byte of a job ends it. -/
def next (d : Data β) : UInt8 × Data β :=
  if h : d.position < d.size then
    let byte := d.block.get ⟨d.position, Nat.lt_of_lt_of_le h d.size_le⟩
    let moved := { d with position := d.position + 1 }
    (byte, if moved.position = d.size ∧ d.job = .idle then moved.finish else moved)
  else (0, d)

end Data
end SdBridge.Card
