import SdBridge.Proofs.Bridge.Reading
import SdBridge.Proofs.Bridge.Watch

/-!
Where the bytes of a block come from that the data loop hands to the hardware, when commands may be
answered between any two of its accesses. The loop looks once whether a command is being dispatched,
at the start of a pass, and the card looks at the posted ticket before each byte.
-/
namespace SdBridge.Bridge

open Card

variable {β : Type} {s : TransferSettings} {posted : Ticket} {d d' : Data β} {n n' : Notes}
  {k k' : Taking}

def Mixed (payload : List (Staged × UInt8)) : Prop :=
  ∃ x ∈ payload, ∃ y ∈ payload, x.1.ticket ≠ y.1.ticket

theorem Mixed.append {payload : List (Staged × UInt8)} (mixed : Mixed payload)
    (more : List (Staged × UInt8)) : Mixed (payload ++ more) := by
  obtain ⟨x, first, y, second, differ⟩ := mixed
  exact ⟨x, List.mem_append_left more first, y, List.mem_append_left more second, differ⟩

/-- The bytes of a pass belong to one job until another is picked up. -/
structure Ticketed (d : Data β) (n : Notes) (k : Taking) : Prop where
  held : d.unread ≠ [] → n.block.ticket = d.ticket
  single : n.switched = false → ∃ ticket, (∀ x ∈ n.payload, x.1.ticket = ticket) ∧
    (n.payload ≠ [] → 0 < k.left → d.ticket = ticket)
  /-- The first byte of the other job is on offer, or it was taken. -/
  mixed : n.switched = true → Mixed n.payload ∨
    k.granted = true ∧ ∃ x ∈ n.payload, x.1.ticket ≠ d.ticket
  sent : ∀ t ∈ n.sent, Mixed t.payload ↔ t.switched = true

theorem Ticketed.mixed_of_calm (ticketed : Ticketed d n k) (calm : k.granted = false)
    (switched : n.switched = true) : Mixed n.payload :=
  (ticketed.mixed switched).resolve_right fun offered => by simp [calm] at offered

theorem Ticketed.loaded (ticketed : Ticketed d n k) (calm : k.granted = false) (more : 0 < k.left)
    (none : (d.follow posted).unread = []) (loaded : Data.Loaded (d.follow posted) d') :
    Ticketed d' (n.offered posted d d') { k with granted := true } := by
  have ticket : d'.ticket = posted := by rw [loaded.ticket, Data.follow_ticket]
  have ⟨_, single, _, sent⟩ := ticketed
  rw [Notes.offered_of_spent none]
  by_cases now : posted = d.ticket
  · rw [Notes.heed, if_pos now]
    refine ⟨fun _ => ticket.symm, fun still => ?_, ?_, sent⟩
    · obtain ⟨t, same, own⟩ := single still
      exact ⟨t, same, fun some more => ticket.trans (now.trans (own some more))⟩
    · exact fun switched => .inl (ticketed.mixed_of_calm calm switched)
  rw [Notes.heed, if_neg now]
  by_cases first : n.payload = []
  · refine ⟨fun _ => ticket.symm, fun _ => ⟨posted, ?_, fun _ _ => ticket⟩, fun switched => ?_, sent⟩
    · simp [first]
    · have before : n.switched = true := by simpa [first] using switched
      obtain ⟨x, listed, -⟩ := ticketed.mixed_of_calm calm before
      simp [first] at listed
  · refine ⟨fun _ => ticket.symm, fun still => ?_, fun _ => ?_, sent⟩
    · simp [first] at still
    by_cases switched : n.switched = true
    · exact .inl (ticketed.mixed_of_calm calm switched)
    -- The bytes taken so far are of the ticket that the data half has just given up.
    · obtain ⟨t, same, own⟩ := single (by simpa using switched)
      obtain ⟨x, rest, payload⟩ := List.exists_cons_of_ne_nil first
      have listed : x ∈ n.payload := by simp [payload]
      refine .inr ⟨rfl, x, listed, ?_⟩
      rw [same x listed, ← own first more, ticket]
      exact Ne.symm now

theorem Ticketed.advance [Image.Store β] (ticketed : Ticketed d n k) (paced : Paced s d n k)
    (advance : Advance s posted d n k d' n' k') : Ticketed d' n' k' := by
  have ⟨held, single, mixed, sent⟩ := ticketed
  cases advance with
  | silent buffer => exact ⟨held, single, mixed, sent⟩
  | waiting calm more now some =>
    exact ⟨held, single, fun switched => .inl (ticketed.mixed_of_calm calm switched), sent⟩
  | loaded calm more none loaded => exact ticketed.loaded calm more none loaded
  | dry calm more none unread job ticket =>
    refine ⟨absurd unread, fun still => ?_, ?_, sent⟩
    · obtain ⟨ticket, same, -⟩ := single still
      exact ⟨ticket, same, fun _ none => absurd none (Nat.lt_irrefl 0)⟩
    · exact fun switched => .inl (ticketed.mixed_of_calm calm switched)
  | @took _ byte granted unread job ticket =>
    have some : d.unread ≠ [] := by simp [unread]
    have own := held some
    refine ⟨fun _ => own.trans ticket.symm, fun still => ?_, fun switched => .inl ?_, sent⟩
    · obtain ⟨t, same, now⟩ := single still
      by_cases first : n.payload = []
      · refine ⟨d.ticket, fun x listed => ?_, fun _ _ => ticket⟩
        simp only [Notes.took, first, List.nil_append, List.mem_singleton] at listed
        rw [listed, own]
      · have now := now first (paced.granted granted).2
        refine ⟨t, fun x listed => ?_, fun _ _ => ticket.trans now⟩
        simp only [Notes.took, List.mem_append, List.mem_singleton] at listed
        rcases listed with before | rfl
        · exact same x before
        · exact own.trans now
    · rcases mixed switched with before | ⟨-, x, listed, other⟩
      · exact before.append _
      · have last : (n.block, byte) ∈ n.payload ++ [(n.block, byte)] := by simp
        exact ⟨x, List.mem_append_left _ listed, _, last, own ▸ other⟩
  | ended transfer calm handed =>
    refine ⟨held, fun _ => ⟨d.ticket, by simp [Notes.ended], fun _ _ => rfl⟩, ?_, fun t listed => ?_⟩
    · simp [Notes.ended]
    rcases Notes.mem_sent_ended listed with before | ⟨some, rfl⟩
    · exact sent t before
    constructor
    · rintro ⟨x, first, y, second, differ⟩
      by_contra still
      obtain ⟨t, same, -⟩ := single (by simpa using still)
      exact differ ((same x first).trans (same y second).symm)
    · exact ticketed.mixed_of_calm calm

def Staged.front (block : Staged) (count : Nat) : List (Staged × UInt8) :=
  (block.bytes.take count).map fun byte => (block, byte)

/-- The next byte of a block and those after it. -/
theorem next_of_drop {bytes rest : List UInt8} {byte : UInt8} {count : Nat}
    (next : byte :: rest = bytes.drop count) :
    bytes[count]? = some byte ∧ rest = bytes.drop (count + 1) := by
  constructor
  · rw [← List.head?_drop, ← next, List.head?_cons]
  · rw [← List.tail_drop, ← next, List.tail_cons]

theorem Staged.front_succ {block : Staged} {count : Nat} {byte : UInt8}
    (head : block.bytes[count]? = some byte) :
    block.front (count + 1) = block.front count ++ [(block, byte)] := by
  rw [front, front, List.take_add_one, head, List.map_append]
  rfl

/-- All bytes of one block, from its first on. -/
def FromOne (payload : List (Staged × UInt8)) : Prop :=
  ∃ block : Staged, payload = block.front payload.length

/-- Passes that may take a whole sector leave nothing of a block behind, unless the job was picked
up too late for that. -/
structure Aligned (d : Data β) (n : Notes) (k : Taking) : Prop where
  short : n.block.bytes.length ≤ Image.sectorSize
  start : n.late = false → n.payload = n.block.front n.payload.length ∧
    (d.unread = [] ∧ (n.payload = [] ∨ k.left = 0) ∨
      d.unread = n.block.bytes.drop n.payload.length ∧ (n.payload ≠ [] ∨ k.granted = true) ∧
        (n.block.bytes.length = Image.sectorSize ∨ d.job = .idle))
  sent : ∀ t ∈ n.sent, t.late = false → FromOne t.payload

section Aligned

variable (aligned : Aligned d n k) (paced : Paced s d n k) (whole : s.maxBytes = Image.sectorSize)

include aligned paced whole

/-- A pass is at its end when the block is. -/
theorem Aligned.not_loaded (more : 0 < k.left) (intime : n.late = false) (some : n.payload ≠ [])
    (spent : d.unread = []) (busy : d.job ≠ .idle) : False := by
  have count := paced.length.resolve_right fun told => absurd told.1 (Nat.ne_of_gt more)
  rcases aligned.start intime with ⟨-, ⟨-, none | full⟩ | ⟨rest, -, sector | last⟩⟩
  · exact some none
  · omega
  · have used := List.drop_eq_nil_iff.1 (rest.symm.trans spent)
    omega
  · exact busy last

theorem Aligned.loaded (more : 0 < k.left) (none : (d.follow posted).unread = [])
    (loaded : Data.Loaded (d.follow posted) d') :
    Aligned d' (n.offered posted d d') { k with granted := true } := by
  have short := Data.length_unread_le d'
  rw [Notes.offered_of_spent none]
  by_cases first : n.payload = []
  · refine ⟨short, fun _ => ⟨by simp [first, Staged.front], .inr ⟨?_, .inr rfl, ?_⟩⟩, ?_⟩
    · simp [first]
    · exact loaded.whole_or_last
    · simpa using aligned.sent
  by_cases now : posted = d.ticket
  · rw [Notes.heed, if_pos now]
    refine ⟨short, fun intime => ?_, aligned.sent⟩
    rw [now, Data.follow_self] at none loaded
    exact (aligned.not_loaded paced whole more intime first none loaded.busy).elim
  · rw [Notes.heed, if_neg now]
    exact ⟨short, fun intime => by simp [first] at intime, aligned.sent⟩

theorem Aligned.ended {transfer : Transfer} (calm : k.granted = false)
    (handed : Transfer.Handed s k transfer) : Aligned d (n.ended transfer k.buffer)
      { left := s.maxBytes, buffer := k.buffer } := by
  refine ⟨aligned.short, fun intime => ⟨rfl, .inl ⟨?_, .inl rfl⟩⟩, fun t listed intime => ?_⟩
  · rcases aligned.start intime with ⟨front, ⟨spent, -⟩ | ⟨rest, some | granted, -⟩⟩
    · exact spent
    · rcases paced.full handed some with full | ⟨spent, -⟩
      · rw [rest, List.drop_eq_nil_iff, full, whole]
        exact aligned.short
      · exact spent
    · simp [calm] at granted
  · rcases Notes.mem_sent_ended listed with before | ⟨-, rfl⟩
    · exact aligned.sent t before intime
    · exact ⟨n.block, (aligned.start intime).1⟩

theorem Aligned.advance [Image.Store β] (advance : Advance s posted d n k d' n' k') : Aligned d' n' k' := by
  have ⟨short, start, sent⟩ := aligned
  cases advance with
  | silent buffer => exact ⟨short, start, sent⟩
  | waiting calm more now some =>
    refine ⟨short, fun intime => ?_, sent⟩
    rcases start intime with ⟨front, ⟨spent, -⟩ | ⟨rest, -, last⟩⟩
    · exact absurd spent some
    · exact ⟨front, .inr ⟨rest, .inr rfl, last⟩⟩
  | loaded calm more none loaded => exact aligned.loaded paced whole more none loaded
  | dry calm more none unread job ticket =>
    exact ⟨short, fun intime => ⟨(start intime).1, .inl ⟨unread, .inr rfl⟩⟩, sent⟩
  | took granted unread job ticket =>
    refine ⟨short, fun intime => ?_, sent⟩
    rcases start intime with ⟨front, ⟨spent, -⟩ | ⟨rest, -, last⟩⟩
    · simp [unread] at spent
    · obtain ⟨head, left⟩ := next_of_drop (unread.symm.trans rest)
      simp only [Notes.took, List.length_append, List.length_singleton]
      refine ⟨?_, .inr ⟨left, .inl (by simp), job ▸ last⟩⟩
      rw [Staged.front_succ head, ← front]
  | ended transfer calm handed => exact aligned.ended paced whole calm handed

end Aligned

namespace Watch

variable [Image.Store β]

/-- A block sent has bytes of two jobs just when a job was picked up after bytes had been taken in
the same pass. -/
theorem origin_of_sent {image : β} {identity : Identity} {b : Bridge (Card β)}
    {settings : TransferSettings} (fresh : b.engine = Card.ofImage image identity)
    (roomy : Roomy b.buffer) (whole : settings.maxBytes = Image.sectorSize) (moves : List Move) :
    ∀ t ∈ ((ofBridge b settings).run moves).notes.sent, t.Faithful settings ∧
      (t.late = false → FromOne t.payload) ∧ (Mixed t.payload ↔ t.switched = true) := by
  have small := Nat.le_of_eq whole
  have none : b.engine.data.unread = [] := by rw [fresh]; rfl
  have start : (ofBridge b settings).Working fun d n k => Ticketed d n k ∧ Aligned d n k := by
    refine working_start roomy small ⟨⟨absurd none, fun _ => ?_, nofun, nofun⟩, ?_⟩
    · exact ⟨b.engine.data.ticket, nofun, fun _ _ => rfl⟩
    · exact ⟨Nat.zero_le _, fun _ => ⟨rfl, .inl ⟨none, .inl rfl⟩⟩, nofun⟩
  have working : ((ofBridge b settings).run moves).Working
      fun d n k => Ticketed d n k ∧ Aligned d n k := by
    refine start.run (fun _ => True) small trivial (fun _ _ _ _ _ => trivial) ?_
    intro _ _ _ _ _ _ _ _ paced before advance
    exact ⟨before.1.advance paced advance, before.2.advance paced whole advance⟩
  obtain ⟨_, _, ⟨ticketed, aligned⟩, _⟩ := working
  intro t listed
  exact ⟨faithful_run roomy small moves t listed, aligned.sent t listed, ticketed.sent t listed⟩

def watched : Watch Image.Made := ofBridge Loops.smallest.bridge {}

/-- Commands answered one after the other, each with the flag up during its dispatch. -/
def answering (commands : List (UInt32 × UInt32)) : List Move :=
  commands.flatMap fun (index, argument) =>
    [.other (.setInFlight true),
      .other (.dispatch ⟨index.toUInt8, argument, 0⟩ (Vector.replicate 16 0)),
      .other (.setInFlight false)]

def askedForScr : List Move := answering (Loops.selection ++ [(55, 0x45670000), (51, 0)])

theorem origin_of_sent_scr :
    ∃ t ∈ (watched.run (askedForScr ++ List.replicate 25 .data)).notes.sent,
      t.late = false ∧ FromOne t.payload := by
  have fresh : Loops.smallest.bridge.engine =
      Card.ofImage (⟨4, Loops.fourSectors.sector, []⟩ : Image.Made) {} := rfl
  have roomy : Roomy Loops.smallest.bridge.buffer := ⟨Nat.le_of_eq Array.size_replicate.symm, rfl⟩
  have whole : ({} : TransferSettings).maxBytes = Image.sectorSize := rfl
  have origin := origin_of_sent fresh roomy whole
  obtain ⟨t, listed, intime⟩ : ∃ t ∈ (watched.run
      (askedForScr ++ List.replicate 25 .data)).notes.sent, t.late = false := by decide +kernel
  rw [watched] at listed ⊢
  exact ⟨t, listed, intime, (origin _ t listed).2.1 intime⟩

/-- The host stops the read when four bytes are taken, and reads once more, all in one pass of the
data loop. -/
def interruptedRead : List Move :=
  askedForScr ++ List.replicate 11 .data ++ answering [(12, 0), (55, 0x45670000), (51, 0)] ++
    List.replicate 23 .data

theorem mixed_interruptedRead :
    ∃ t ∈ (watched.run interruptedRead).notes.sent, Mixed t.payload ∧ t.payload.length = 12 := by
  unfold Mixed
  decide +kernel

end Watch
end SdBridge.Bridge
