import SdBridge.Fault

/-!
Tickets: how the command half of a card hands jobs to its data half. A job is packed with a
generation into one word, so that posting is a single store and two equal jobs in a row are
still told apart. Generation zero belongs to the ticket that nobody posted.
-/
namespace SdBridge.Card

inductive Job where
  | idle
  | readBlock (lba : UInt64)
  /-- A sector and all after it. -/
  | readBlocks (lba : UInt64)
  | sdStatus (wideBus : Bool)
  | scr
  deriving DecidableEq

namespace Job

def kind : Job → UInt64
  | .idle => 0
  | .readBlock _ => 1
  | .readBlocks _ => 2
  | .sdStatus _ => 3
  | .scr => 4

def payload : Job → UInt64
  | .readBlock lba => lba
  | .readBlocks lba => lba
  | .sdStatus wideBus => if wideBus then 1 else 0
  | _ => 0

/-- The job of a kind and a payload. A code that is no kind is an idle job. -/
def decode (kind payload : UInt64) : Job :=
  if kind = 1 then .readBlock payload
  else if kind = 2 then .readBlocks payload
  else if kind = 3 then .sdStatus (payload ≠ 0)
  else if kind = 4 then .scr
  else .idle

theorem decode_kind_payload (job : Job) : decode job.kind job.payload = job := by
  cases job with
  | sdStatus wideBus => cases wideBus <;> rfl
  | _ => rfl

end Job

/-- A posted job: 28 bits of generation, four of kind and 32 of payload. -/
structure Ticket where
  word : UInt64
  deriving DecidableEq

namespace Ticket

def generationMask : UInt32 := 0x0fffffff

def payloadMask : UInt64 := 0xffffffff

def idle : Ticket := ⟨0⟩

def pack (generation : UInt32) (job : Job) : Ticket :=
  ⟨((generation &&& generationMask).toUInt64 <<< 36) ||| (job.kind <<< 32) |||
    (job.payload &&& payloadMask)⟩

/-- The ticket of a job, whose payload must fit its field. -/
def issue (generation : UInt32) (job : Job) : Except Fault Ticket :=
  if job.payload ≤ payloadMask then .ok (pack generation job) else .error .ticketPayload

def job (t : Ticket) : Job := .decode ((t.word >>> 32) &&& 0xf) (t.word &&& payloadMask)

def generation (t : Ticket) : UInt32 := (t.word >>> 36).toUInt32

end Ticket

/-- The generation after another. Zero is left out when the count wraps. -/
def nextGeneration (generation : UInt32) : UInt32 :=
  let next := (generation + 1) &&& Ticket.generationMask
  if next = 0 then 1 else next

theorem nextGeneration_ne_zero (generation : UInt32) : nextGeneration generation ≠ 0 := by
  simp only [nextGeneration]
  split
  · decide
  · assumption

end SdBridge.Card
