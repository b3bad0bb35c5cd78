import SdBridge.Proofs.Card.Read
import SdBridge.Proofs.Image.Fallible

/-!
The data half over a store that may fail. The bytes that can still be handed out are those of the
sectors that can be read in a row, whatever stands in the staging buffer meanwhile: staging moves
bytes, and a sector that fails ends them.
-/
namespace SdBridge.Card

section Obtainable

variable {β : Type} [Image.Store β]

/-- The bytes that a job can still give, up to the first sector that cannot be read. -/
def Job.obtainable (sectors : UInt64) (buffer : Image.Sector) (b : β) : Job → List UInt8
  | .idle => []
  | .readBlock lba => (Image.readable 1 lba buffer b).flatMap Vector.toList
  | .readBlocks lba =>
    (Image.readable (sectors.toNat - lba.toNat) lba buffer b).flatMap Vector.toList
  | .sdStatus wideBus => (Card.sdStatus wideBus).toList
  | .scr => Card.scr.toList

variable {sectors lba : UInt64} {job : Job} {buffer : Image.Sector} {b : β}

/-- The next sector comes first, and the rest of the job after it. -/
theorem Job.obtainable_of_ok (starts : job.sector? = some lba) (inRange : job.InRange sectors)
    (ok : (Image.Store.read lba buffer b).result = .ok ()) :
    job.obtainable sectors buffer b = (Image.Store.read lba buffer b).buffer.toList ++
      (job.next sectors).obtainable sectors (Image.Store.read lba buffer b).buffer
        (Image.Store.read lba buffer b).store := by
  cases job <;> cases starts
  · simp only [obtainable, Image.readable_of_ok ok, next, List.flatMap_cons]
    rfl
  · have inside := UInt64.lt_iff_toNat_lt.1 (show lba < sectors from inRange)
    have limit := sectors.toNat_lt
    have after : (lba + 1).toNat = lba.toNat + 1 := by
      rw [UInt64.toNat_add, UInt64.toNat_one]
      omega
    obtain ⟨more, count⟩ : ∃ more, sectors.toNat - lba.toNat = more + 1 :=
      ⟨sectors.toNat - lba.toNat - 1, by omega⟩
    simp only [obtainable, count, Image.readable_of_ok ok, next, List.flatMap_cons]
    by_cases another : lba + 1 < sectors
    · have left : sectors.toNat - (lba + 1).toNat = more := by omega
      simp only [another, if_true, left]
    · have none : more = 0 := by
        have := mt UInt64.lt_iff_toNat_lt.2 another
        omega
      simp only [another, if_false, none]
      rfl

theorem Job.obtainable_of_error (starts : job.sector? = some lba) {failure : Failure Image.Error}
    (failed : (Image.Store.read lba buffer b).result = .error failure) :
    job.obtainable sectors buffer b = [] := by
  cases job <;> cases starts <;>
    simp only [obtainable, Image.readable_of_error failed, List.flatMap_nil]

theorem Job.obtainable_readJob (request : Request) :
    (Commands.readJob request).obtainable sectors buffer b =
      (Image.readable (Commands.blockCount sectors request) request.argument.toUInt64 buffer
        b).flatMap Vector.toList := by
  rw [Commands.readJob, Commands.blockCount]
  split <;> rfl

end Obtainable

namespace Data

variable {β : Type}

/-- A full block is the whole buffer. -/
theorem unread_of_full {d : Data β} (full : d.unread.length = Image.sectorSize) :
    d.unread = d.block.toList := by
  have fits := d.size_le
  rw [length_unread] at full
  have positive : 0 < Image.sectorSize := by decide
  have size : d.size = Image.sectorSize := by omega
  have position : d.position = 0 := by omega
  rw [unread, size, position, List.drop_zero, List.take_of_length_le (by simp)]

@[simp] theorem follow_block (posted : Ticket) (d : Data β) : (d.follow posted).block = d.block := by
  simp only [follow]
  split <;> rfl

@[simp] theorem next_block (d : Data β) : d.next.2.block = d.block := by
  simp only [next]
  split
  · dsimp only
    split <;> rfl
  · rfl

variable [Image.Store β]

/-- The bytes of the ticket at hand that can still be handed out. -/
def toCome (sectors : UInt64) (d : Data β) : List UInt8 :=
  d.unread ++ d.job.obtainable sectors d.block d.store

variable {sectors : UInt64} {d : Data β}

theorem unread_of_toCome (none : d.toCome sectors = []) : d.unread = [] :=
  (List.append_eq_nil_iff.1 none).1

theorem toCome_of_spent (none : d.unread = []) (job : d.job = .idle) : d.toCome sectors = [] := by
  simp [toCome, none, job, Job.obtainable]

/-- What asking for a byte does over a store that may fail. If there is none, the job is over. -/
structure Readied (sectors : UInt64) (d : Data β) (served : Served Bool (Data β)) : Prop where
  answer : served.answer = .ok (decide (d.toCome sectors ≠ []))
  toCome : served.state.toCome sectors = d.toCome sectors
  front : d.toCome sectors ≠ [] → served.state.unread ≠ []
  idle : d.toCome sectors = [] → served.state.job = .idle
  ticket : served.state.ticket = d.ticket
  finished : served.state.finished =
    if d.toCome sectors = [] ∧ d.job ≠ .idle then d.ticket else d.finished
  fallible : Image.Fallible sectors served.state.store
  inRange : served.state.job.InRange sectors
  failed : ∀ lba error, readFailed lba error ∈ served.log → d.toCome sectors = []

theorem readied_prepare (fallible : Image.Fallible sectors d.store)
    (inRange : d.job.InRange sectors) : Readied sectors d d.prepare := by
  have prepared := prepared_prepare inRange
  generalize d.prepare = served at prepared
  cases prepared with
  | waiting some =>
    have front : d.unread ≠ [] := by
      rw [Ne, unread_eq_nil_iff]
      omega
    have left : d.toCome sectors ≠ [] := by simp [toCome, front]
    exact ⟨by simp [left], rfl, fun _ => front, fun none => absurd none left, rfl, by simp [left],
      fallible, inRange, by simp⟩
  | spent none job =>
    have dry : d.toCome sectors = [] := toCome_of_spent none job
    exact ⟨by simp [dry], rfl, fun some => absurd dry some, fun _ => job, rfl, by simp [job],
      fallible, inRange, by simp⟩
  | short none starts after job bytes some ticket finished store =>
    have given : after.unread = d.job.obtainable sectors d.block d.store := by
      rw [bytes ⟨sectors, fun _ => d.block⟩]
      cases same : d.job with
      | readBlock lba | readBlocks lba => simp [same, Job.sector?] at starts
      | _ => rfl
    have kept : after.toCome sectors = d.toCome sectors := by
      simp [toCome, none, given, job, Job.obtainable]
    have left : d.toCome sectors ≠ [] := by
      rw [← kept]
      simp [toCome, some]
    exact ⟨by simp [left], kept, fun _ => some, fun _ => job, ticket, by simp [left, finished],
      store ▸ fallible, by rw [job]; trivial, by simp⟩
  | sector none lba starts after read bytes store job ticket finished =>
    have still := fallible.read (Job.lt_of_inRange starts inRange) d.block
    rw [← store] at still
    rw [still.sectorCount] at job
    -- The buffer is read again under the next sector, so that its contents matter here.
    have block : after.block = (Image.Store.read lba d.block d.store).buffer := by
      rw [← Vector.toList_inj, ← bytes, unread_of_full (by rw [bytes, Vector.length_toList])]
    have front : after.unread ≠ [] := by simp [bytes]
    have kept : after.toCome sectors = d.toCome sectors := by
      simp only [toCome, none, bytes, block, store, job, Job.obtainable_of_ok starts inRange read,
        List.nil_append]
    have left : d.toCome sectors ≠ [] := by
      rw [← kept]
      simp [toCome, front]
    exact ⟨by simp [left], kept, fun _ => front, fun none => absurd none left, ticket,
      by simp [left, finished], still, job ▸ Job.inRange_next starts _,
      by simp [staged, readFailed]⟩
  | failed none lba starts after error read store job unread ticket finished =>
    have dry : d.toCome sectors = [] := by
      rw [toCome, none, Job.obtainable_of_error starts read, List.append_nil]
    have busy : d.job ≠ .idle := fun idle => by simp [idle, Job.sector?] at starts
    have still := fallible.read (Job.lt_of_inRange starts inRange) d.block
    have spent : after.toCome sectors = [] := toCome_of_spent unread job
    exact ⟨by simp [dry], spent.trans dry.symm,
      fun some => absurd dry some, fun _ => job, ticket, by simp [dry, busy, finished],
      store ▸ still, by rw [job]; trivial, fun _ _ _ => dry⟩
  | faulted none lba starts after fault read =>
    exact absurd read (fallible.answers (Job.lt_of_inRange starts inRange) d.block fault)

/-- A data half that has yet to see a ticket can give all that its job can give. -/
theorem toCome_follow_of_behind {posted : Ticket} (behind : posted ≠ d.ticket) :
    (d.follow posted).toCome sectors = posted.job.obtainable sectors d.block d.store := by
  obtain ⟨unread, job⟩ := follow_new behind
  rw [toCome, unread, job, follow_block, follow_store, List.nil_append]

end Data

def followed {β : Type} (card : Card β) : Data β := card.data.follow card.commands.posted

theorem followed_of_ticket {β : Type} {card : Card β} (now : card.data.ticket = card.commands.posted) :
    card.followed = card.data := by
  rw [followed, ← now, Data.follow_self]

end SdBridge.Card
