import SdBridge.Proofs.Bridge.Carrying
import SdBridge.Proofs.Bridge.Origin

/-!
How the sectors of a read that goes on to the end of the image are spread over the blocks sent. A
pass ends at its limit and not at the end of a sector, so that its bytes lie in one sector only if
sectors are a multiple of the limit.
-/
namespace SdBridge.Bridge

open Card

variable {β : Type} {s : TransferSettings} {posted : Ticket} {lba : UInt64} {d d' : Data β}
  {n n' : Notes} {k k' : Taking}

theorem of_getElem?_concat {α : Type} {l : List α} {a b : α} {i : Nat}
    (listed : (l ++ [a])[i]? = some b) : l[i]? = some b ∨ i = l.length ∧ b = a := by
  have inside := (List.getElem?_eq_some_iff.1 listed).1
  rw [List.length_append, List.length_singleton] at inside
  by_cases last : i = l.length
  · rw [last, List.getElem?_concat_length] at listed
    exact .inr ⟨last, (Option.some.inj listed).symm⟩
  · rw [List.getElem?_append_left (by omega)] at listed
    exact .inl listed

/-- The byte of that number of a read that starts at a sector. -/
structure Placed (lba : UInt64) (number : Nat) (x : Staged × UInt8) : Prop where
  sector : x.1.sector? = some (lba + (number / Image.sectorSize).toUInt64)
  byte : x.1.bytes[number % Image.sectorSize]? = some x.2

def sectorOf (lba : UInt64) (count : Nat) : UInt64 := lba + count.toUInt64

theorem sectorOf_succ (lba : UInt64) (count : Nat) :
    sectorOf lba count + 1 = sectorOf lba (count + 1) := by
  simp only [sectorOf, UInt64.add_assoc]
  congr 1
  exact (UInt64.ofNat_add count 1).symm

/-- How far the data half got with a read: after so many sectors it handed out so many bytes of the
next one. -/
inductive Stage (s : TransferSettings) (posted : Ticket) (lba : UInt64) (d : Data β) (n : Notes) :
    Prop where
  | behind (new : posted ≠ d.ticket) (sent : n.sent = []) (empty : n.payload = [])
  | within (seen : posted = d.ticket) (full : ∀ t ∈ n.sent, t.payload.length = s.maxBytes)
      (sectors used : Nat) (place : s.maxBytes * n.sent.length + n.payload.length =
        Image.sectorSize * sectors + used) (inside : used ≤ Image.sectorSize)
      (sector : n.block.sector? = some (sectorOf lba sectors))
      (size : n.block.bytes.length = Image.sectorSize)
      (rest : d.unread = n.block.bytes.drop used)
      (job : d.job = .idle ∨ d.job = .readBlocks (sectorOf lba (sectors + 1)))
  | spent (seen : posted = d.ticket) (none : d.unread = []) (job : d.job = .idle)
      (empty : n.payload = []) (full : ∀ i t, n.sent[i]? = some t → i + 1 < n.sent.length →
        t.payload.length = s.maxBytes)

/-- The next sector of the read was staged. -/
theorem stage_of_loaded {sectors : Nat} (none : (d.follow posted).unread = [])
    (loaded : Data.Loaded (d.follow posted) d')
    (job : (d.follow posted).job = .readBlocks (sectorOf lba sectors))
    (full : ∀ t ∈ n.sent, t.payload.length = s.maxBytes)
    (place : s.maxBytes * n.sent.length + n.payload.length = Image.sectorSize * sectors) :
    Stage s posted lba d' (n.offered posted d d') := by
  have seen : posted = d'.ticket := by rw [loaded.ticket, Data.follow_ticket]
  rw [Notes.offered_of_spent none]
  refine .within seen ?_ sectors 0 ?_ (Nat.zero_le _) ?_ (loaded.whole _ (by rw [job]; rfl)) rfl ?_
  · simpa using full
  · simpa using place
  · simp [job, Job.sector?]
  · rcases loaded.next with last | ⟨lba', now, next⟩
    · exact .inl last
    · rw [job] at now
      cases now
      rw [← sectorOf_succ]
      exact .inr next

section Stage

variable (stage : Stage s posted lba d n)

include stage

theorem Stage.loaded (reads : posted.job = .readBlocks lba)
    (none : (d.follow posted).unread = []) (loaded : Data.Loaded (d.follow posted) d') :
    Stage s posted lba d' (n.offered posted d d') := by
  cases stage with
  | behind new sent empty =>
    have start : sectorOf lba 0 = lba := UInt64.add_zero lba
    have job := (Data.follow_new new).2.trans reads
    rw [← start] at job
    exact stage_of_loaded none loaded job (by simp [sent]) (by simp [sent, empty])
  | within seen full sectors used place inside sector size rest job =>
    have same : d.follow posted = d := by rw [seen, Data.follow_self]
    rw [same] at none loaded
    have job := job.resolve_left loaded.busy
    have all := List.drop_eq_nil_iff.1 (rest.symm.trans none)
    refine stage_of_loaded (same.symm ▸ none) (same.symm ▸ loaded) (same.symm ▸ job) full ?_
    rw [Nat.mul_succ]
    omega
  | spent seen none job empty full =>
    rw [seen, Data.follow_self] at loaded
    exact absurd job loaded.busy

theorem Stage.dry (none : (d.follow posted).unread = []) (unread : d'.unread = [])
    (job : d'.job = .idle) (ticket : d'.ticket = posted) : Stage s posted lba d' n := by
  cases stage with
  | behind new sent empty =>
    exact .spent ticket.symm unread job empty fun i t listed => by simp [sent] at listed
  | within seen full sectors used place inside sector size rest job' =>
    rw [seen, Data.follow_self] at none
    refine .within ticket.symm full sectors used place inside sector size ?_ (.inl job)
    rw [unread, ← none, rest]
  | spent seen none job' empty full => exact .spent ticket.symm unread job empty full

theorem Stage.took {byte : UInt8} (seen : posted = d.ticket) (unread : d.unread = byte :: d'.unread)
    (job : d'.job = d.job) (ticket : d'.ticket = d.ticket) :
    Stage s posted lba d' (n.took byte) ∧
      Placed lba (s.maxBytes * n.sent.length + n.payload.length) (n.block, byte) := by
  cases stage with
  | behind new sent empty => exact absurd seen new
  | within seen full sectors used place inside sector size rest job' =>
    obtain ⟨head, left⟩ := next_of_drop (unread.symm.trans rest)
    have more : used < Image.sectorSize := size ▸ (List.getElem?_eq_some_iff.1 head).1
    refine ⟨.within (seen.trans ticket.symm) full sectors (used + 1) ?_ more sector size left
      (job ▸ job'), ?_⟩
    · simp only [Notes.took, List.length_append, List.length_singleton]
      omega
    · rw [place]
      constructor
      · rw [Nat.mul_add_div (by decide), Nat.div_eq_of_lt more]
        exact sector
      · rw [Nat.mul_add_mod, Nat.mod_eq_of_lt more]
        exact head
  | spent seen none job' empty full => simp [unread] at none

theorem Stage.full {i : Nat} {t : Sent} (listed : n.sent[i]? = some t)
    (earlier : i + 1 < n.sent.length) : t.payload.length = s.maxBytes := by
  cases stage with
  | behind new sent empty => simp [sent] at listed
  | within seen full => exact full t (List.mem_of_getElem? listed)
  | spent seen none job empty full => exact full i t listed earlier

theorem Stage.ended (paced : Paced s d n k) {transfer : Transfer}
    (handed : Transfer.Handed s k transfer) : Stage s posted lba d (n.ended transfer k.buffer) := by
  by_cases first : n.payload = []
  · have sent := Notes.sent_ended_of_none k.buffer paced handed first
    cases stage with
    | behind new none empty => exact .behind new (sent.trans none) rfl
    | within seen full sectors used place inside sector size rest job =>
      refine .within seen (sent.symm ▸ full) sectors used ?_ inside sector size rest job
      rw [sent, ← place, first]
      rfl
    | spent seen none job empty full => exact .spent seen none job rfl (sent.symm ▸ full)
  · have sent := Notes.sent_ended_of_some k.buffer paced handed first
    cases stage with
    | behind new none empty => exact absurd empty first
    | within seen full sectors used place inside sector size rest job =>
      by_cases limit : n.payload.length = s.maxBytes
      · refine .within seen ?_ sectors used ?_ inside sector size rest job
        · intro t listed
          rcases Notes.mem_sent_ended listed with before | ⟨-, rfl⟩
          · exact full t before
          · exact limit
        · rw [sent, ← place, limit, List.length_append, List.length_singleton, Nat.mul_succ]
          rfl
      -- The job ended within the pass, so that this block is the last one.
      · obtain ⟨spent, last⟩ := (paced.full handed first).resolve_left limit
        refine .spent seen spent last rfl fun i t listed earlier => ?_
        rw [sent, List.length_append, List.length_singleton] at earlier
        rw [sent, List.getElem?_append_left (by omega)] at listed
        exact full t (List.mem_of_getElem? listed)
    | spent seen none job empty full => exact absurd empty first

end Stage

structure Streamed (s : TransferSettings) (posted : Ticket) (lba : UInt64) (d : Data β) (n : Notes)
    (k : Taking) : Prop where
  stage : Stage s posted lba d n
  seen : k.granted = true → posted = d.ticket
  sent : ∀ i t, n.sent[i]? = some t → ∀ j x, t.payload[j]? = some x →
    Placed lba (s.maxBytes * i + j) x
  pass : ∀ j x, n.payload[j]? = some x → Placed lba (s.maxBytes * n.sent.length + j) x

theorem Streamed.advance [Image.Store β] (streamed : Streamed s posted lba d n k)
    (reads : posted.job = .readBlocks lba) (paced : Paced s d n k)
    (advance : Advance s posted d n k d' n' k') : Streamed s posted lba d' n' k' := by
  obtain ⟨stage, seen, sent, pass⟩ := streamed
  cases advance with
  | silent buffer => exact ⟨stage, seen, sent, pass⟩
  | waiting calm more now some => exact ⟨stage, fun _ => now, sent, pass⟩
  | loaded calm more none loaded =>
    refine ⟨stage.loaded reads none loaded, fun _ => ?_, by simpa using sent, by simpa using pass⟩
    rw [loaded.ticket, Data.follow_ticket]
  | dry calm more none unread job ticket =>
    exact ⟨stage.dry none unread job ticket, fun _ => ticket.symm, sent, pass⟩
  | took granted unread job ticket =>
    obtain ⟨stage, placed⟩ := stage.took (seen granted) unread job ticket
    refine ⟨stage, nofun, sent, fun j x listed => ?_⟩
    rcases of_getElem?_concat listed with before | ⟨rfl, rfl⟩
    · exact pass j x before
    · exact placed
  | ended transfer calm handed =>
    refine ⟨stage.ended paced handed, nofun, fun i t listed => ?_, nofun⟩
    by_cases first : n.payload = []
    · rw [Notes.sent_ended_of_none _ paced handed first] at listed
      exact sent i t listed
    · rw [Notes.sent_ended_of_some _ paced handed first] at listed
      rcases of_getElem?_concat listed with before | ⟨rfl, rfl⟩
      · exact sent i t before
      · exact pass

def OneSector (payload : List (Staged × UInt8)) : Prop :=
  ∀ x ∈ payload, ∀ y ∈ payload, x.1.sector? = y.1.sector?

/-- A block lies in one sector if it ends before the sector that it starts in does. -/
theorem oneSector_iff {payload : List (Staged × UInt8)} {start : Nat}
    (placed : ∀ j x, payload[j]? = some x → Placed lba (start + j) x) :
    OneSector payload ↔ start % Image.sectorSize + payload.length ≤ Image.sectorSize := by
  have parts := Nat.div_add_mod start Image.sectorSize
  have used : start % Image.sectorSize < Image.sectorSize := Nat.mod_lt _ (by decide)
  constructor
  · intro one
    by_contra long
    have rest : Image.sectorSize - start % Image.sectorSize < payload.length := by omega
    have inside : 0 < payload.length := by omega
    have first := (placed 0 _ (List.getElem?_eq_getElem inside)).sector
    have last := (placed _ _ (List.getElem?_eq_getElem rest)).sector
    have end' : start + (Image.sectorSize - start % Image.sectorSize) =
        Image.sectorSize * (start / Image.sectorSize + 1) := by
      rw [Nat.mul_succ]
      omega
    rw [end', Nat.mul_div_cancel_left _ (by decide)] at last
    have same := one _ (List.getElem_mem inside) _ (List.getElem_mem rest)
    rw [first, last, Option.some.injEq, UInt64.add_right_inj] at same
    have next : (start / Image.sectorSize + 1).toUInt64 = (start / Image.sectorSize).toUInt64 + 1 :=
      UInt64.ofNat_add ..
    simp [next] at same
  · intro short
    have sector : ∀ x ∈ payload, x.1.sector? = some (lba + (start / Image.sectorSize).toUInt64) := by
      intro x listed
      obtain ⟨j, inside, rfl⟩ := List.getElem_of_mem listed
      have place : start + j =
          Image.sectorSize * (start / Image.sectorSize) + (start % Image.sectorSize + j) := by omega
      have within : (start % Image.sectorSize + j) / Image.sectorSize = 0 :=
        Nat.div_eq_of_lt (by omega)
      rw [(placed j _ (List.getElem?_eq_getElem inside)).sector, place,
        Nat.mul_add_div (by decide), within, Nat.add_zero]
    intro x first y second
    rw [sector x first, sector y second]

/-- Blocks whose limit divides the size of a sector end before a sector does. -/
theorem fits_of_dvd {limit : Nat} (whole : limit ∣ Image.sectorSize) (i : Nat) {length : Nat}
    (short : length ≤ limit) : limit * i % Image.sectorSize + length ≤ Image.sectorSize := by
  obtain ⟨count, size⟩ := whole
  have some : 0 < count := by
    by_contra none
    simp [Nat.le_zero.1 (Nat.not_lt.1 none)] at size
  have before : i % count + 1 ≤ count := Nat.mod_lt i some
  have room := Nat.mul_le_mul_left limit before
  rw [size, Nat.mul_mod_mul_left]
  rw [Nat.mul_succ] at room
  omega

/-- Others do anything but dispatch a command. -/
def Move.Silent : Move → Prop
  | .other (.dispatch _ _) => False
  | _ => True

namespace Watch

variable [Image.Store β]

theorem posted_of_silent {m : Move} (silent : m.Silent) (other : m ≠ .data) (s : Watch β) :
    (s.move m).bridge.engine.commands.posted = s.bridge.engine.commands.posted := by
  cases m with
  | data => exact absurd rfl other
  | hardware offset value => rfl
  | other access =>
    have plain : Plain access := by
      cases access with
      | dispatch request response => exact silent.elim
      | _ => trivial
    simp only [move]
    split
    · rfl
    · exact posted_perform access s.bridge plain rfl

/-- The blocks carry these bytes in order, each block but the last as many as the limit allows. -/
def Spread (limit : Nat) (sent : List Sent) (bytes : List UInt8) : Prop :=
  ∀ i t j x, sent[i]? = some t → t.payload[j]? = some x → bytes[limit * i + j]? = some x.2

section Read

variable {b : Bridge (Card β)} {s : TransferSettings} {lba : UInt64} {moves : List Move}

/-- What each access keeps under the posted ticket holds after moves that post nothing. -/
theorem working_of_silent {inv : Data β → Notes → Taking → Prop} (small : s.maxBytes ≤ 512)
    (start : (ofBridge b s).Working inv) (silent : ∀ m ∈ moves, m.Silent)
    (each : ∀ {d d' : Data β} {n n' : Notes} {k k' : Taking}, Paced s d n k → inv d n k →
      Advance s b.engine.commands.posted d n k d' n' k' → inv d' n' k') :
    ((ofBridge b s).run moves).Working inv := by
  refine start.run (· = b.engine.commands.posted) small rfl ?_ ?_
  · exact fun m listed other s same => (posted_of_silent (silent m listed) other s).trans same
  · rintro _ _ _ _ _ _ _ rfl paced before advance
    exact each paced before advance

theorem streamed_run (small : s.maxBytes ≤ 512) (roomy : Roomy b.buffer)
    (reads : b.engine.commands.posted.job = .readBlocks lba)
    (new : b.engine.commands.posted ≠ b.engine.data.ticket) (silent : ∀ m ∈ moves, m.Silent) :
    ((ofBridge b s).run moves).Working (Streamed s b.engine.commands.posted lba) :=
  working_of_silent small (working_start roomy small ⟨.behind new rfl rfl, nofun, nofun, nofun⟩)
    silent fun paced before advance => before.advance reads paced advance

/-- The sectors that can be read in a row are what the blocks carry. -/
theorem spread_of_fallible (small : s.maxBytes ≤ 512) (roomy : Roomy b.buffer)
    (reads : b.engine.commands.posted.job = .readBlocks lba)
    (new : b.engine.commands.posted ≠ b.engine.data.ticket) (silent : ∀ m ∈ moves, m.Silent)
    {sectors : UInt64} (fallible : Image.Fallible sectors b.engine.data.store)
    (inside : lba < sectors) :
    Spread s.maxBytes ((ofBridge b s).run moves).notes.sent
      ((Image.readable (sectors.toNat - lba.toNat) lba b.engine.data.block
        b.engine.data.store).flatMap Vector.toList) := by
  obtain ⟨_, _, streamed, -⟩ := streamed_run small roomy reads new silent
  have whole : (b.engine.data.follow b.engine.commands.posted).toCome sectors =
      (Image.readable (sectors.toNat - lba.toNat) lba b.engine.data.block
        b.engine.data.store).flatMap Vector.toList := by
    rw [Data.toCome_follow_of_behind new, reads]
    rfl
  have inRange : (b.engine.data.follow b.engine.commands.posted).job.InRange sectors := by
    rw [(Data.follow_new new).2, reads]
    exact inside
  have start : (ofBridge b s).Working (Carried sectors b.engine.commands.posted
      ((b.engine.data.follow b.engine.commands.posted).toCome sectors)) :=
    working_start roomy small ⟨fallible, inRange, nofun, rfl⟩
  have working := working_of_silent small start silent fun paced before advance =>
    before.advance paced advance
  obtain ⟨_, _, carried, -⟩ := working
  intro i t j x listed found
  have placed := getElem?_flatMap_of_length (f := Sent.payload) (fun k a earlier before =>
    streamed.stage.full earlier (Nat.lt_of_le_of_lt before
      (List.getElem?_eq_some_iff.1 listed).1)) listed found
  obtain ⟨rest, same⟩ := carried.sent_prefix
  rw [← whole, ← same, List.getElem?_append_left, List.getElem?_map, placed]
  · rfl
  · rw [List.length_map]
    exact (List.getElem?_eq_some_iff.1 placed).1

end Read

/-- A read that goes on to the end of the image is cut at the limit, wherever its sectors end. -/
theorem sectors_of_sent {b : Bridge (Card β)} {settings : Settings} {lba : UInt64}
    (valid : settings.validate = .ok ()) (roomy : Roomy b.buffer)
    (reads : b.engine.commands.posted.job = .readBlocks lba)
    (new : b.engine.commands.posted ≠ b.engine.data.ticket) (moves : List Move)
    (silent : ∀ m ∈ moves, m.Silent) :
    let limit := settings.transfer.maxBytes
    let sent := ((ofBridge b settings.transfer).run moves).notes.sent
    (∀ i t, sent[i]? = some t → t.Faithful settings.transfer ∧
      (i + 1 < sent.length → t.payload.length = limit) ∧
      (∀ j x, t.payload[j]? = some x → Placed lba (limit * i + j) x) ∧
      (OneSector t.payload ↔
        limit * i % Image.sectorSize + t.payload.length ≤ Image.sectorSize)) ∧
    (limit ∣ Image.sectorSize → ∀ t ∈ sent, OneSector t.payload) ∧
    -- The bytes are those of the image: of all its sectors, or of those that can be read in a row.
    (∀ contents : Image.Contents, contents.ShownBy b.engine.data.store → lba < contents.sectors →
      Spread limit sent (contents.onwards lba)) ∧
    ∀ sectors, Image.Fallible sectors b.engine.data.store → lba < sectors →
      Spread limit sent ((Image.readable (sectors.toNat - lba.toNat) lba b.engine.data.block
        b.engine.data.store).flatMap Vector.toList) := by
  have small := limit_of_valid valid
  obtain ⟨_, _, streamed, -⟩ := streamed_run small roomy reads new silent
  have faithful := faithful_run roomy small moves
  have each : ∀ i t, ((ofBridge b settings.transfer).run moves).notes.sent[i]? = some t →
      (OneSector t.payload ↔ settings.transfer.maxBytes * i % Image.sectorSize + t.payload.length ≤
        Image.sectorSize) := fun i t listed => oneSector_iff (streamed.sent i t listed)
  refine ⟨fun i t listed => ⟨faithful t (List.mem_of_getElem? listed), ?_, ?_, ?_⟩, ?_, ?_, ?_⟩
  · exact streamed.stage.full listed
  · exact streamed.sent i t listed
  · exact each i t listed
  · intro whole t listed
    obtain ⟨i, found⟩ := List.getElem?_of_mem listed
    exact (each i t found).2 (fits_of_dvd whole i (faithful t listed).limit)
  · intro contents shown inside
    rw [← shown.flatMap_readable inside b.engine.data.block]
    exact spread_of_fallible small roomy reads new silent shown.fallible inside
  · exact fun sectors => spread_of_fallible small roomy reads new silent

def openRead : Bridge (Card Image.Made) :=
  (watched.run (answering (Loops.selection ++ [(18, 1)]))).bridge

/-- Passes of so many accesses each. The host takes each block before the next pass. -/
def passes (count accesses : Nat) : List Move :=
  (List.replicate count
    (List.replicate accesses Move.data ++ [.hardware Offset.dataControl 0])).flatten

theorem silent_passes (count accesses : Nat) : ∀ m ∈ passes count accesses, m.Silent := by
  intro m listed
  simp only [passes, List.mem_flatten, List.mem_replicate] at listed
  obtain ⟨pass, ⟨-, rfl⟩, listed⟩ := listed
  simp only [List.mem_append, List.mem_replicate, List.mem_singleton] at listed
  rcases listed with ⟨-, rfl⟩ | rfl
  · trivial
  · trivial

theorem sectors_of_sent_openRead :
    let sent := ((ofBridge openRead { maxBytes := 8 }).run (passes 2 24)).notes.sent
    sent.length = 2 ∧ (∀ t ∈ sent, OneSector t.payload) ∧
      Spread 8 sent (Loops.fourSectors.onwards 1) := by
  have valid : Settings.validate { transfer := { maxBytes := 8 } } = .ok () := by decide
  have roomy : Roomy openRead.buffer := ⟨by decide +kernel, by decide +kernel⟩
  have reads : openRead.engine.commands.posted.job = .readBlocks 1 := by decide +kernel
  have new : openRead.engine.commands.posted ≠ openRead.engine.data.ticket := by decide +kernel
  have store : openRead.engine.data.store = ⟨4, Loops.fourSectors.sector, []⟩ := rfl
  have shown : Loops.fourSectors.ShownBy openRead.engine.data.store :=
    store ▸ Image.Contents.shownBy_made Loops.fourSectors
  obtain ⟨-, one, spread, -⟩ :=
    sectors_of_sent valid roomy reads new (passes 2 24) (silent_passes 2 24)
  dsimp only at one spread ⊢
  exact ⟨by decide +kernel, one (by decide), spread Loops.fourSectors shown (by decide)⟩

/-- With a limit of 172 bytes, the third block begins with the last bytes of a sector. -/
theorem straddling_thirds : Settings.validate { transfer := { maxBytes := 172 } } = .ok () ∧
    (∀ m ∈ passes 3 393, m.Silent) ∧
    ∃ t ∈ ((ofBridge openRead { maxBytes := 172 }).run (passes 3 393)).notes.sent,
      t.payload.map Prod.snd = (Loops.fourSectors.sector 1).toList.drop 344 ++
        (Loops.fourSectors.sector 2).toList.take 4 ∧ ¬OneSector t.payload := by
  refine ⟨by decide, silent_passes 3 393, ?_⟩
  have third : (((ofBridge openRead { maxBytes := 172 }).run (passes 3 393)).notes.sent[2]?.map
      fun t => (t.payload.map Prod.snd, t.payload[0]?.map (·.1.sector?),
        t.payload[171]?.map (·.1.sector?))) =
      some ((Loops.fourSectors.sector 1).toList.drop 344 ++
        (Loops.fourSectors.sector 2).toList.take 4, some (some 1), some (some 2)) := by
    decide +kernel
  obtain ⟨t, listed, same⟩ := Option.map_eq_some_iff.1 third
  rw [Prod.mk.injEq, Prod.mk.injEq] at same
  obtain ⟨bytes, first, last⟩ := same
  obtain ⟨x, begins, sector⟩ := Option.map_eq_some_iff.1 first
  obtain ⟨y, ends, next⟩ := Option.map_eq_some_iff.1 last
  refine ⟨t, List.mem_of_getElem? listed, bytes, fun one => ?_⟩
  have same := one x (List.mem_of_getElem? begins) y (List.mem_of_getElem? ends)
  rw [sector, next] at same
  cases same

end Watch
end SdBridge.Bridge
