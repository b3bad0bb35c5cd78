import SdBridge.Proofs.Bridge.History
import SdBridge.Proofs.Bridge.Taking
import SdBridge.Proofs.Card.Asking

/-!
The data loop access by access, with whatever else may happen to the bridge in between: accesses of
the command loop and changes that the hardware makes to registers. Every byte on its way to the
hardware is noted with the block of the card that it comes from.
-/
namespace SdBridge.Bridge

open Card

/-- A block as the data half staged it. The number tells two blocks of the same bytes apart. -/
structure Staged where
  number : Nat := 0
  ticket : Ticket := .idle
  /-- The sector that it is, unless it is a register of the card. -/
  sector? : Option UInt64 := none
  bytes : List UInt8 := []

structure Sent where
  transfer : Transfer
  /-- The bytes taken from the card, each with the block that it comes from. -/
  payload : List (Staged × UInt8)
  buffer : RegisterFile
  /-- A job was picked up after bytes had been taken in the same pass. -/
  switched : Bool
  /-- The job that the last bytes belong to was picked up so, in this pass or an earlier one. -/
  late : Bool

structure Notes where
  block : Staged := {}
  payload : List (Staged × UInt8) := []
  switched : Bool := false
  late : Bool := false
  sent : List Sent := []

namespace Notes

variable {β : Type}

/-- The data half has bytes to offer for the posted ticket. -/
def heed (posted : Ticket) (d : Data β) (n : Notes) : Notes :=
  if posted = d.ticket then n
  else { n with switched := n.switched || !n.payload.isEmpty, late := !n.payload.isEmpty }

/-- The data half went from one state to another and offers a byte. -/
def offered (posted : Ticket) (d after : Data β) (n : Notes) : Notes :=
  let n := n.heed posted d
  if (d.follow posted).size ≤ (d.follow posted).position then
    { n with block := ⟨n.block.number + 1, posted, (d.follow posted).job.sector?, after.unread⟩ }
  else n

def took (byte : UInt8) (n : Notes) : Notes := { n with payload := n.payload ++ [(n.block, byte)] }

def ended (transfer : Transfer) (buffer : RegisterFile) (n : Notes) : Notes :=
  { n with
    payload := [], switched := false
    sent := if transfer.isEmpty then n.sent
      else n.sent ++ [⟨transfer, n.payload, buffer, n.switched, n.late⟩] }

def add (b after : Bridge (Card β)) : (access : Access) → Access.Answer access → Notes → Notes
  | .dataReady, true, n => n.offered b.engine.commands.posted b.engine.data after.engine.data
  | .nextByte, byte, n => n.took byte
  | _, _, n => n

end Notes

/-- What happens to a bridge, one access at a time. -/
inductive Move where
  | data
  | other (access : Access)
  | hardware (offset : Nat) (value : UInt32)

def Access.ofData : Access → Bool
  | .dataReady | .nextByte | .writeBuffer _ _ => true
  | _ => false

structure Watch (β : Type) where
  bridge : Bridge (Card β)
  settings : TransferSettings
  pass : Loop Transfer := Transfer.pump settings
  notes : Notes := {}

namespace Watch

variable {β : Type} [Image.Store β]

omit [Image.Store β] in
def ofBridge (bridge : Bridge (Card β)) (settings : TransferSettings) : Watch β :=
  { bridge, settings }

/-- One pass of the data loop follows on another. A fault ends the loop. -/
def move : Move → Watch β → Watch β
  | .data, s =>
    match s.pass with
    | .done transfer =>
      { s with
        pass := Transfer.pump s.settings
        notes := s.notes.ended transfer s.bridge.buffer }
    | .fail _ => s
    | .call access next =>
      match perform access s.bridge with
      | (.ok answer, bridge) =>
        { s with bridge, pass := next answer, notes := s.notes.add s.bridge bridge access answer }
      | (.error fault, bridge) => { s with bridge, pass := .fail fault }
  | .other access, s =>
    if access.ofData then s else { s with bridge := (perform access s.bridge).2 }
  | .hardware offset value, s =>
    { s with bridge := { s.bridge with registers := s.bridge.registers.force offset value } }

def run (moves : List Move) (s : Watch β) : Watch β := moves.foldl (fun s m => s.move m) s

end Watch

variable {β : Type}

/-- What the bytes of a pass are, and how many it may still take. -/
structure Paced (s : TransferSettings) (d : Data β) (n : Notes) (k : Taking) : Prop where
  bytes : k.bytes = n.payload.map Prod.snd
  granted : k.granted = true → d.unread ≠ [] ∧ 0 < k.left
  limit : k.left + n.payload.length ≤ s.maxBytes
  /-- A pass that is done before its limit was told that the job is over. -/
  length : k.left + n.payload.length = s.maxBytes ∨ k.left = 0 ∧ d.unread = [] ∧ d.job = .idle

/-- What an access of the data loop does to the data half, to the notes and to the pass, while a
ticket is posted. -/
inductive Advance [Image.Store β] (s : TransferSettings) (posted : Ticket) (d : Data β) (n : Notes)
    (k : Taking) : Data β → Notes → Taking → Prop where
  | silent (buffer : RegisterFile) : Advance s posted d n k d n { k with buffer }
  | waiting (calm : k.granted = false) (more : 0 < k.left) (now : posted = d.ticket)
      (some : d.unread ≠ []) : Advance s posted d n k d n { k with granted := true }
  | loaded {after : Data β} (calm : k.granted = false) (more : 0 < k.left)
      (none : (d.follow posted).unread = []) (loaded : Data.Loaded (d.follow posted) after)
      (asked : after = (d.follow posted).prepare.state) :
      Advance s posted d n k after (n.offered posted d after) { k with granted := true }
  | dry {after : Data β} (calm : k.granted = false) (more : 0 < k.left)
      (none : (d.follow posted).unread = []) (unread : after.unread = []) (job : after.job = .idle)
      (ticket : after.ticket = posted) (asked : after = (d.follow posted).prepare.state) :
      Advance s posted d n k after n { k with left := 0 }
  | took {after : Data β} {byte : UInt8} (granted : k.granted = true)
      (unread : d.unread = byte :: after.unread) (job : after.job = d.job)
      (ticket : after.ticket = d.ticket) (next : after = d.next.2) :
      Advance s posted d n k after (n.took byte)
        { k with bytes := k.bytes ++ [byte], left := k.left - 1, granted := false }
  | ended (transfer : Transfer) (calm : k.granted = false)
      (handed : Transfer.Handed s k transfer) : Advance s posted d n k d
        (n.ended transfer k.buffer) { left := s.maxBytes, buffer := k.buffer }

section Advance

variable {s : TransferSettings} {posted : Ticket} {d d' : Data β} {n n' : Notes} {k k' : Taking}

namespace Notes

@[simp] theorem payload_heed : (n.heed posted d).payload = n.payload := by
  simp only [heed]
  split <;> rfl

@[simp] theorem sent_heed : (n.heed posted d).sent = n.sent := by
  simp only [heed]
  split <;> rfl

@[simp] theorem payload_offered : (n.offered posted d d').payload = n.payload := by
  simp only [offered]
  split <;> exact payload_heed

@[simp] theorem sent_offered : (n.offered posted d d').sent = n.sent := by
  simp only [offered]
  split <;> exact sent_heed

theorem offered_of_waiting (now : posted = d.ticket) (some : d.unread ≠ []) :
    n.offered posted d d' = n := by
  simp only [offered, heed, now, Data.follow_self, if_true, ← Data.unread_eq_nil_iff, some, if_false]

theorem offered_of_spent (none : (d.follow posted).unread = []) :
    n.offered posted d d' = { n.heed posted d with
      block := ⟨(n.heed posted d).block.number + 1, posted, (d.follow posted).job.sector?,
        d'.unread⟩ } := by
  simp only [offered, ← Data.unread_eq_nil_iff, none, if_true]

theorem mem_sent_ended {transfer : Transfer} {buffer : RegisterFile} {t : Sent}
    (listed : t ∈ (n.ended transfer buffer).sent) : t ∈ n.sent ∨
      transfer.isEmpty = false ∧ t = ⟨transfer, n.payload, buffer, n.switched, n.late⟩ := by
  simp only [ended] at listed
  split at listed
  · exact .inl listed
  · rename_i some
    rw [List.mem_append, List.mem_singleton] at listed
    exact listed.imp_right fun last => ⟨by simpa using some, last⟩

end Notes

/-- A pass that took bytes ends at its limit or with the job. -/
theorem Paced.full (paced : Paced s d n k) {transfer : Transfer}
    (handed : Transfer.Handed s k transfer) (some : n.payload ≠ []) :
    n.payload.length = s.maxBytes ∨ d.unread = [] ∧ d.job = .idle := by
  have left : k.left = 0 := handed.full.resolve_right (by simp [paced.bytes, some])
  refine paced.length.imp (fun count => ?_) And.right
  rwa [left, Nat.zero_add] at count

theorem Advance.paced [Image.Store β] (advance : Advance s posted d n k d' n' k') (paced : Paced s d n k) :
    Paced s d' n' k' := by
  obtain ⟨bytes, granted, limit, length⟩ := paced
  cases advance with
  | silent buffer => exact ⟨bytes, granted, limit, length⟩
  | waiting calm more now some => exact ⟨bytes, fun _ => ⟨some, more⟩, limit, length⟩
  | loaded calm more none loaded =>
    refine ⟨by simpa using bytes, fun _ => ⟨loaded.some, more⟩, by simpa using limit, ?_⟩
    rw [Notes.payload_offered]
    exact .inl (length.resolve_right fun told => absurd told.1 (Nat.ne_of_gt more))
  | dry calm more none unread job ticket =>
    refine ⟨bytes, fun granted => absurd granted (by simp [calm]), ?_, .inr ⟨rfl, unread, job⟩⟩
    exact (Nat.add_le_add_right (Nat.zero_le _) _).trans limit
  | took offered unread job ticket =>
    -- A byte is only taken on a grant, so this pass was not told that the job is over.
    have more := (granted offered).2
    have count := length.resolve_right fun told => absurd told.1 (Nat.ne_of_gt more)
    have same : k.left - 1 + (n.payload.length + 1) = s.maxBytes := by omega
    refine ⟨by simp [Notes.took, bytes], nofun, ?_, .inl ?_⟩
    · simpa [Notes.took] using Nat.le_of_eq same
    · simpa [Notes.took] using same
  | ended transfer calm handed => exact ⟨rfl, nofun, Nat.le_refl _, .inl (Nat.add_zero _)⟩

/-- What left the bridge is what the pass had taken, with its CRC16 where software computes it. -/
structure Sent.Faithful (s : TransferSettings) (t : Sent) : Prop where
  some : t.payload ≠ []
  limit : t.payload.length ≤ s.maxBytes
  bytes : t.transfer.bytes = (t.payload.map Prod.snd ++
    Transfer.trailer s (Crc.crc16 (t.payload.map Prod.snd))).length
  buffer : t.buffer.bytes.take t.transfer.bytes = t.payload.map Prod.snd ++
    Transfer.trailer s (Crc.crc16 (t.payload.map Prod.snd))

theorem faithful_advance [Image.Store β] (faithful : ∀ t ∈ n.sent, t.Faithful s) (paced : Paced s d n k)
    (advance : Advance s posted d n k d' n' k') : ∀ t ∈ n'.sent, t.Faithful s := by
  cases advance with
  | ended transfer calm handed =>
    intro t listed
    rcases Notes.mem_sent_ended listed with before | ⟨some, rfl⟩
    · exact faithful t before
    · have taken : k.bytes ≠ [] := by
        rw [Ne, ← handed.isEmpty_iff]
        simp [some]
      have bytes := handed.bytes
      have buffer := handed.buffer taken
      rw [if_neg taken] at bytes
      rw [paced.bytes] at taken bytes buffer
      exact ⟨by simpa using taken, (Nat.le_add_left ..).trans paced.limit, bytes, buffer⟩
  | loaded => simpa using faithful
  | _ => exact faithful

end Advance

variable [Image.Store β]

/-- Nobody else touches the data half or the data buffer. -/
theorem perform_of_other (access : Access) (b : Bridge (Card β)) (other : access.ofData = false) :
    (perform access b).2.engine.data = b.engine.data ∧ (perform access b).2.buffer = b.buffer := by
  cases access with
  | dataReady | nextByte | writeBuffer offset value => cases other
  | dispatch request response =>
    have state : (perform (.dispatch request response) b).2 =
        { b with engine := (b.engine.dispatch request response).state } := dispatched_state b _
    rw [state, Card.dispatch_state]
    exact ⟨rfl, rfl⟩
  | _ => exact ⟨rfl, rfl⟩

namespace Watch

structure Kept (s : Watch β) (k : Taking) : Prop where
  orderly : Orderly (Transfer.Handed s.settings) s.pass k
  buffer : k.buffer = s.bridge.buffer
  paced : Paced s.settings s.bridge.engine.data s.notes k

variable {s : Watch β} {k : Taking}

def Stopped (s : Watch β) : Prop := ∃ fault, s.pass = .fail fault

def Goes (s : Watch β) (k : Taking) (s' : Watch β) : Prop :=
  s'.Stopped ∧ s'.notes = s.notes ∨
    ∃ k', s'.Kept k' ∧ Advance s.settings s.bridge.engine.commands.posted s.bridge.engine.data
      s.notes k s'.bridge.engine.data s'.notes k'

theorem goes_of_advance {s' : Watch β} {k' : Taking}
    (paced : Paced s.settings s.bridge.engine.data s.notes k) (settings : s'.settings = s.settings)
    (orderly : Orderly (Transfer.Handed s.settings) s'.pass k')
    (buffer : k'.buffer = s'.bridge.buffer)
    (advance : Advance s.settings s.bridge.engine.commands.posted s.bridge.engine.data s.notes k
      s'.bridge.engine.data s'.notes k') : s.Goes k s' :=
  .inr ⟨k', ⟨settings ▸ orderly, buffer, settings ▸ advance.paced paced⟩, advance⟩

section Access

variable (kept : s.Kept k)

include kept

theorem Kept.goes_dataReady {next : Bool → Loop Transfer} (pass : s.pass = .call .dataReady next) :
    s.Goes k (s.move .data) := by
  obtain ⟨orderly, buffer, paced⟩ := kept
  rw [pass] at orderly
  obtain ⟨⟨calm, more⟩, offered, none⟩ := orderly
  have performed : perform .dataReady s.bridge =
      s.bridge.served (Card.dataReady s.bridge.engine) := rfl
  -- Where the data half ends up depends on the image, so only what was asked is kept of it.
  have asked := Data.asked_prepare (s.bridge.engine.data.follow s.bridge.engine.commands.posted)
  simp only [Card.dataReady, Data.ready, served] at performed
  generalize same : Data.prepare (s.bridge.engine.data.follow s.bridge.engine.commands.posted) =
    result at performed asked
  obtain ⟨answer, after, log⟩ := result
  dsimp only at performed asked
  have went := (congrArg Served.state same).symm
  simp only [move, pass, performed]
  cases asked with
  | waiting some =>
    obtain ⟨now, same⟩ := Data.follow_of_waiting some
    rw [same] at some ⊢
    refine goes_of_advance paced rfl offered buffer ?_
    simp only [Notes.add, Notes.offered_of_waiting now some]
    exact .waiting calm more now some
  | loaded spent loaded =>
    exact goes_of_advance paced rfl offered buffer (.loaded calm more spent loaded went)
  | dry spent unread job ticket =>
    exact goes_of_advance paced rfl none buffer
      (.dry calm more spent unread job (by simpa using ticket) went)
  | faulted fault => exact .inl ⟨⟨fault, rfl⟩, rfl⟩

theorem Kept.goes_nextByte {next : UInt8 → Loop Transfer} (pass : s.pass = .call .nextByte next) :
    s.Goes k (s.move .data) := by
  obtain ⟨orderly, buffer, paced⟩ := kept
  rw [pass] at orderly
  obtain ⟨granted, rest⟩ := orderly
  have performed : perform .nextByte s.bridge =
      s.bridge.served (Card.nextByte s.bridge.engine) := rfl
  obtain ⟨byte, more, unread⟩ := List.exists_cons_of_ne_nil (paced.granted granted).1
  obtain ⟨after, taken, left, job, ticket, -⟩ := Data.next_of_unread unread
  simp only [Card.nextByte, taken, served] at performed
  simp only [move, pass, performed]
  exact goes_of_advance paced rfl (rest byte) buffer
    (.took granted (left ▸ unread) job ticket (congrArg Prod.snd taken).symm)

theorem Kept.goes_writeBuffer {offset : Nat} {value : UInt32} {next : Unit → Loop Transfer}
    (pass : s.pass = .call (.writeBuffer offset value) next) : s.Goes k (s.move .data) := by
  obtain ⟨orderly, buffer, paced⟩ := kept
  rw [pass] at orderly
  obtain ⟨calm, rest⟩ := orderly
  have performed : perform (.writeBuffer offset value) s.bridge =
      ((s.bridge.buffer.write offset value).1,
        { s.bridge with buffer := (s.bridge.buffer.write offset value).2 }) := rfl
  generalize (s.bridge.buffer.write offset value).1 = answer at performed
  simp only [move, pass, performed]
  cases answer with
  | ok answer => exact goes_of_advance paced rfl rest (by rw [buffer]) (.silent _)
  | error fault => exact .inl ⟨⟨fault, rfl⟩, rfl⟩

theorem Kept.goes_other {access : Access} {next : Access.Answer access → Loop Transfer}
    (pass : s.pass = .call access next) (other : access.ofData = false) :
    s.Goes k (s.move .data) := by
  obtain ⟨orderly, buffer, paced⟩ := kept
  rw [pass] at orderly
  have rest : ∀ answer, Orderly (Transfer.Handed s.settings) (next answer) k := by
    cases access with
    | dataReady | nextByte | writeBuffer => cases other
    | _ => exact orderly.2
  obtain ⟨data, still⟩ := perform_of_other access s.bridge other
  have added (after : Bridge (Card β)) (answer : Access.Answer access) :
      s.notes.add s.bridge after access answer = s.notes := by
    cases access with
    | dataReady | nextByte | writeBuffer => cases other
    | _ => rfl
  generalize performed : perform access s.bridge = result at data still
  rcases result with ⟨answer | answer, after⟩
  · simp only [move, pass, performed]
    exact .inl ⟨⟨_, rfl⟩, rfl⟩
  · simp only [move, pass, performed, added]
    refine goes_of_advance paced rfl (rest answer) (buffer.trans still.symm) ?_
    dsimp only at data ⊢
    rw [data]
    exact .silent k.buffer

theorem Kept.goes (small : s.settings.maxBytes ≤ 512) : s.Goes k (s.move .data) := by
  cases pass : s.pass with
  | done transfer =>
    obtain ⟨orderly, buffer, paced⟩ := kept
    rw [pass] at orderly
    obtain ⟨calm, handed⟩ := orderly
    have again := Transfer.orderly_pump (k := { left := s.settings.maxBytes, buffer := k.buffer })
      s.bridge small handed.roomy rfl rfl rfl
    simp only [move, pass, ← buffer]
    exact goes_of_advance paced rfl again buffer (.ended transfer calm handed)
  | fail fault =>
    simp only [move, pass]
    exact .inl ⟨⟨fault, pass⟩, rfl⟩
  | call access next =>
    cases access with
    | dataReady => exact kept.goes_dataReady pass
    | nextByte => exact kept.goes_nextByte pass
    | writeBuffer offset value => exact kept.goes_writeBuffer pass
    | _ => exact kept.goes_other pass rfl

end Access

/-- The data loop posts nothing. -/
theorem Kept.posted (kept : s.Kept k) :
    (s.move .data).bridge.engine.commands.posted = s.bridge.engine.commands.posted := by
  cases pass : s.pass with
  | done transfer | fail fault => simp only [move, pass]
  | call access next =>
    have orderly := kept.orderly
    rw [pass] at orderly
    have same := posted_perform access s.bridge (plain_of_quiet _ (quiet_of_orderly orderly)) rfl
    simp only [move, pass]
    split
    · rename_i performed
      rwa [performed] at same
    · rename_i performed
      rwa [performed] at same

theorem apart_of_other {m : Move} (other : m ≠ .data) :
    (s.move m).pass = s.pass ∧ (s.move m).notes = s.notes ∧ (s.move m).settings = s.settings ∧
      (s.move m).bridge.engine.data = s.bridge.engine.data ∧
      (s.move m).bridge.buffer = s.bridge.buffer := by
  cases m with
  | data => exact absurd rfl other
  | other access =>
    simp only [move]
    split
    · exact ⟨rfl, rfl, rfl, rfl, rfl⟩
    · rename_i foreign
      obtain ⟨data, buffer⟩ := perform_of_other access s.bridge (by simpa using foreign)
      exact ⟨rfl, rfl, rfl, data, buffer⟩
  | hardware offset value => exact ⟨rfl, rfl, rfl, rfl, rfl⟩

theorem settings_move (m : Move) (s : Watch β) : (s.move m).settings = s.settings := by
  cases m with
  | data =>
    simp only [move]
    split
    · rfl
    · rfl
    · split <;> rfl
  | other access =>
    simp only [move]
    split <;> rfl
  | hardware offset value => rfl

/-- An invariant of the data loop and its source. -/
def Working (inv : Data β → Notes → Taking → Prop) (s : Watch β) : Prop :=
  -- Nothing is noted once the loop has stopped, so the last `d` and `k` stand for all later ones.
  ∃ d k, inv d s.notes k ∧ (d = s.bridge.engine.data ∧ s.Kept k ∨ s.Stopped)

variable {inv : Data β → Notes → Taking → Prop}

theorem Working.posted (working : s.Working inv) :
    (s.move .data).bridge.engine.commands.posted = s.bridge.engine.commands.posted := by
  rcases working with ⟨_, _, _, ⟨-, kept⟩ | ⟨fault, pass⟩⟩
  · exact kept.posted
  · simp only [Watch.move, pass]

theorem Working.move (working : s.Working inv) (small : s.settings.maxBytes ≤ 512)
    (each : ∀ {d d' : Data β} {n n' : Notes} {k k' : Taking}, Paced s.settings d n k → inv d n k →
      Advance s.settings s.bridge.engine.commands.posted d n k d' n' k' → inv d' n' k')
    (m : Move) : (s.move m).Working inv := by
  obtain ⟨d, k, holds, place⟩ := working
  by_cases other : m = .data
  · subst other
    rcases place with ⟨rfl, kept⟩ | ⟨fault, pass⟩
    · rcases kept.goes small with ⟨stopped, same⟩ | ⟨k', kept', advance⟩
      · exact ⟨_, k, same ▸ holds, .inr stopped⟩
      · exact ⟨_, k', each kept.paced holds advance, .inl ⟨rfl, kept'⟩⟩
    · have still : s.move .data = s := by simp only [Watch.move, pass]
      exact ⟨d, k, still.symm ▸ holds, .inr ⟨fault, still.symm ▸ pass⟩⟩
  · -- What the loop has got to say about is all left alone, and so its witnesses stay.
    obtain ⟨pass, notes, settings, data, buffer⟩ := apart_of_other (s := s) other
    refine ⟨d, k, notes ▸ holds, ?_⟩
    rcases place with ⟨rfl, kept⟩ | ⟨fault, stopped⟩
    · refine .inl ⟨data.symm, ⟨?_, kept.buffer.trans buffer.symm, ?_⟩⟩
      · rw [settings, pass]
        exact kept.orderly
      · rw [settings, notes, data]
        exact kept.paced
    · exact .inr ⟨fault, pass.trans stopped⟩

/-- What every access of the data loop keeps, with the tickets that are posted meanwhile. -/
theorem Working.run (working : s.Working inv) (posts : Ticket → Prop) {moves : List Move}
    (small : s.settings.maxBytes ≤ 512) (posted : posts s.bridge.engine.commands.posted)
    (stay : ∀ m ∈ moves, m ≠ .data → ∀ s : Watch β, posts s.bridge.engine.commands.posted →
      posts (s.move m).bridge.engine.commands.posted)
    (each : ∀ {posted : Ticket} {d d' : Data β} {n n' : Notes} {k k' : Taking}, posts posted →
      Paced s.settings d n k → inv d n k → Advance s.settings posted d n k d' n' k' →
      inv d' n' k') : (s.run moves).Working inv := by
  induction moves generalizing s with
  | nil => exact working
  | cons m moves ih =>
    have settings := settings_move m s
    refine ih (working.move small (each posted) m) (settings ▸ small) ?_
      (fun m' later => stay m' (List.mem_cons_of_mem m later)) ?_
    · by_cases other : m = .data
      · rwa [other, working.posted]
      · exact stay m List.mem_cons_self other s posted
    · rw [settings]
      exact each

/-- Before its first pass, a data loop has taken nothing. -/
theorem working_start {b : Bridge (Card β)} {settings : TransferSettings} (roomy : Roomy b.buffer)
    (small : settings.maxBytes ≤ 512)
    (holds : inv b.engine.data {} { left := settings.maxBytes, buffer := b.buffer }) :
    (ofBridge b settings).Working inv :=
  ⟨_, _, holds, .inl ⟨rfl, Transfer.orderly_pump b small roomy rfl rfl rfl, rfl,
    rfl, nofun, Nat.le_refl _, .inl (Nat.add_zero _)⟩⟩

/-- Whatever others do between the accesses of the data loop, the data buffer holds what a pass has
taken when the pass is over. -/
theorem faithful_run {b : Bridge (Card β)} {settings : TransferSettings} (roomy : Roomy b.buffer)
    (small : settings.maxBytes ≤ 512) (moves : List Move) :
    ∀ t ∈ ((ofBridge b settings).run moves).notes.sent, t.Faithful settings := by
  have start : (ofBridge b settings).Working fun _ n _ => ∀ t ∈ n.sent, t.Faithful settings :=
    working_start roomy small nofun
  have working : ((ofBridge b settings).run moves).Working
      fun _ n _ => ∀ t ∈ n.sent, t.Faithful settings :=
    start.run (fun _ => True) small trivial (fun _ _ _ _ _ => trivial)
      fun _ paced before advance => faithful_advance before paced advance
  obtain ⟨-, -, faithful, -⟩ := working
  exact faithful

end Watch
end SdBridge.Bridge
