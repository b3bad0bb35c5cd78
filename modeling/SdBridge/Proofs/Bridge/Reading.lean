import SdBridge.Proofs.Bridge.Answering
import SdBridge.Proofs.Bridge.Sending

/-!
Reads of sectors through the registers. The host latches a command to read, the command loop
answers it, and from then on the data loop sends the sectors one by one, whatever the card was
doing before.
-/
namespace SdBridge.Bridge

variable {β : Type} [Image.Store β] {contents : Image.Contents} {posts : Nat}
  {b b' : Bridge (Card β)}

/-- Acts by which the host latches no further command. -/
def Act.Silent : Act → Prop
  | .hardware offset value => offset / 4 = Offset.status / 4 → value &&& Status.newCommand = 0
  | .poll | .pump => True

/-- A pass of the command loop with no command latched keeps what accesses aside keep. -/
theorem poll_of_unlatched {keeps : Bridge (Card β) → Prop}
    (each : ∀ access b, Aside access → keeps b → keeps (perform access b).2)
    (unlatched : Unlatched b) (steady : Steady contents posts b) (c : Commander)
    (before : keeps b) : keeps (c.poll.run perform b).2 := by
  rw [Commander.poll_eq]
  have aligned : Offset.status % 4 = 0 := by decide
  have read := Program.Ends.keeps (ends_readRegister steady aligned (by decide)) each
    (Program.within_access trivial) before
  refine Program.Ends.run_bind read ?_
  rintro word b₁ ⟨⟨rfl, -⟩, kept⟩
  have clear : StatusWord.has ⟨b.registers.word Offset.status⟩ Status.newCommand = false := by
    simp [StatusWord.has, unlatched.clear]
  rw [clear, if_neg Bool.false_ne_true]
  exact Program.run_keeps each (Commander.aside_idle ..) kept

omit [Image.Store β] in
theorem Unlatched.force (unlatched : Unlatched b) {offset : Nat} {value : UInt32}
    (silent : (Act.hardware offset value).Silent) :
    Unlatched { b with registers := b.registers.force offset value } := by
  refine ⟨(RegisterFile.clearOnOne_force ..).trans unlatched.status, ?_⟩
  change (b.registers.force offset value).word Offset.status &&& Status.newCommand = 0
  rw [RegisterFile.word_force]
  split
  · rename_i hit
    exact silent hit.2.symm
  · exact unlatched.clear

namespace Loops

variable {s : Loops β} {job : Card.Job} {count : Nat}

/-- The middle of a read: so many blocks of the job were sent, and the card owes the others. -/
structure Reads (contents : Image.Contents) (posts : Nat) (job : Card.Job) (count : Nat)
    (s : Loops β) : Prop where
  steady : Steady contents posts s.bridge
  inFlight : s.bridge.inFlight = false
  unlatched : Unlatched s.bridge
  whole : s.settings.maxBytes = 512
  length : (job.bytes contents).length = 512 * count
  owed : s.bridge.engine.owed contents = (job.bytes contents).drop (512 * s.blocks.length)
  among : s.blocks.length ≤ count
  blocks : ∀ i transfer bridge, s.blocks[i]? = some (transfer, bridge) →
    Transfer.Block s.settings (((job.bytes contents).drop (512 * i)).take 512) transfer bridge

theorem Reads.owed_eq_nil_iff (reads : Reads contents posts job count s) :
    s.bridge.engine.owed contents = [] ↔ s.blocks.length = count := by
  have among := reads.among
  rw [reads.owed, List.drop_eq_nil_iff, reads.length]
  omega

/-- A pass of the data loop in the middle of a read. -/
theorem Reads.ends_pump (reads : Reads contents posts job count s) :
    Program.Ends perform (Transfer.pump s.settings) s.bridge fun transfer _ =>
      Reads contents posts job count (s.act .pump) ∧
        (transfer.isEmpty = true ↔
          s.bridge.registers.word Offset.dataControl &&& DataControl.send ≠ 0 ∨
            s.blocks.length = count) := by
  have quiet := Transfer.quiet_pump s.settings
  obtain ⟨transfer, bridge, ran, ⟨sent, empty⟩, unlatched⟩ :=
    Program.Ends.keeps (Transfer.ends_pump reads.whole reads.steady reads.inFlight)
      unlatched_perform quiet reads.unlatched
  have steady := steady_of_run ran (Program.within_mono plain_of_quiet quiet) reads.steady
  have inFlight := Program.run_keeps inFlight_perform quiet reads.inFlight
  rw [ran] at inFlight
  refine ⟨transfer, bridge, ran, ?_, by rw [empty, reads.owed_eq_nil_iff]⟩
  simp only [act, ran]
  rcases sent with ⟨nothing, owed⟩ | ⟨some, block, owed⟩
  · rw [if_pos nothing]
    exact ⟨steady, inFlight, unlatched, reads.whole, reads.length, owed.trans reads.owed,
      reads.among, reads.blocks⟩
  · rw [if_neg (by simp [some])]
    have more : s.blocks.length ≠ count := by
      intro last
      rw [empty.2 (.inr (reads.owed_eq_nil_iff.2 last))] at some
      cases some
    have among := reads.among
    refine ⟨steady, inFlight, unlatched, reads.whole, reads.length, ?_, ?_, ?_⟩
    · rw [owed, reads.owed, List.drop_drop, List.length_append, List.length_singleton,
        Nat.mul_succ]
    · rw [List.length_append, List.length_singleton]
      omega
    · intro i t b listed
      rw [List.getElem?_append] at listed
      split at listed
      · exact reads.blocks i t b listed
      · rename_i past
        have last : i = s.blocks.length := by
          have inside := (List.getElem?_eq_some_iff.1 listed).1
          rw [List.length_singleton] at inside
          omega
        subst last
        rw [Nat.sub_self] at listed
        cases listed
        exact reads.owed ▸ block

theorem Reads.act {a : Act} (reads : Reads contents posts job count s) (silent : a.Silent) :
    Reads contents posts job count (s.act a) := by
  cases a with
  | hardware offset value =>
    have steady : Steady contents posts (s.act (.hardware offset value)).bridge :=
      reads.steady.withRegisters (by simp) (by simp)
    exact ⟨steady, reads.inFlight, reads.unlatched.force silent, reads.whole, reads.length,
      reads.owed, reads.among, reads.blocks⟩
  | poll =>
    have passed {keeps : Bridge (Card β) → Prop}
        (each : ∀ access b, Quiet access → keeps b → keeps (perform access b).2)
        (before : keeps s.bridge) : keeps (s.commander.poll.run perform s.bridge).2 :=
      poll_of_unlatched (fun access b aside => each access b (quiet_of_aside access aside))
        reads.unlatched reads.steady s.commander before
    have steady := passed (fun access b quiet => steady_perform access b
      (plain_of_quiet access quiet)) reads.steady
    have inFlight := passed inFlight_perform reads.inFlight
    have unlatched := passed unlatched_perform reads.unlatched
    have owed := poll_of_unlatched owed_perform reads.unlatched reads.steady s.commander reads.owed
    simp only [Loops.act]
    split
    · exact ⟨steady, inFlight, unlatched, reads.whole, reads.length, owed, reads.among,
        reads.blocks⟩
    · exact ⟨steady, inFlight, unlatched, reads.whole, reads.length, owed, reads.among,
        reads.blocks⟩
  | pump =>
    obtain ⟨_, _, _, after, _⟩ := reads.ends_pump
    exact after

theorem Reads.run {acts : List Act} (reads : Reads contents posts job count s)
    (silent : ∀ a ∈ acts, a.Silent) : Reads contents posts job count (s.run acts) := by
  induction acts generalizing s with
  | nil => exact reads
  | cons a acts ih =>
    exact ih (reads.act (silent a List.mem_cons_self)) fun b later =>
      silent b (List.mem_cons_of_mem a later)

theorem settings_run (acts : List Act) (s : Loops β) : (s.run acts).settings = s.settings := by
  induction acts generalizing s with
  | nil => rfl
  | cons a acts ih => exact (ih (s.act a)).trans (settings_act a s)

def forget (s : Loops β) : Loops β := { s with blocks := [] }

/-- The host has latched a command to read sectors that exist, and the card is in the transfer
state. Whether the card expects an application command does not matter. -/
structure ReadLatched (contents : Image.Contents) (request : Request) (b : Bridge (Card β)) :
    Prop where
  latched : StatusWord.has ⟨b.registers.word Offset.status⟩ Status.newCommand = true
  shows : readRequest ⟨b.registers.word Offset.status⟩ b = request
  index : request.command.toNat ∈ [17, 18]
  inside : request.argument.toUInt64 < contents.sectors
  willing : Willing b

theorem reads_of_taken {request : Request}
    (taken : Taken contents posts (Card.Commands.readJob request) b (s.act .poll).bridge)
    (whole : s.settings.maxBytes = 512) :
    Reads contents (posts + 1) (Card.Commands.readJob request)
      (Card.Commands.blockCount contents.sectors request) (s.act .poll).forget := by
  have answered := taken.answered
  refine ⟨answered.steady, answered.inFlight, taken.unlatched, ?_, ?_, ?_, ?_, ?_⟩
  · exact (congrArg TransferSettings.maxBytes (settings_act .poll s)).trans whole
  · exact Card.Commands.length_bytes_readJob contents request
  · rw [forget, List.length_nil, Nat.mul_zero, List.drop_zero]
    exact answered.owed
  · exact Nat.zero_le _
  · intro i transfer bridge listed
    cases listed

/-- A latched command to read is answered by a status word, and from then on the blocks sent are the
sectors, one after the other. -/
theorem blocks_read {image : β} {start : Loops β} {history : List Act} {request : Request}
    (shown : contents.ShownBy image) (fresh : start.Fresh image)
    (whole : start.settings.maxBytes = 512)
    (few : (start.run history).posts + 1 ≤ 2 ^ 28 - 1)
    (read : ReadLatched contents request (start.run history).bridge) :
    let before := (start.run history).bridge
    let s := (start.run history).act .poll
    let response := s.bridge.registers.word Offset.argument
    (s.bridge.registers.word Offset.status &&& Status.newCommand = 0 ∧
      response = Card.Status.word before.engine.commands.status 0 .transfer ∧
      response &&& Card.Status.outOfRange = 0 ∧
      s.bridge.registers.word Offset.dataControl = before.registers.word Offset.dataControl) ∧
    ∀ acts : List Act, (∀ a ∈ acts, a.Silent) →
      let later := s.forget.run acts
      later.blocks.length ≤ Card.Commands.blockCount contents.sectors request ∧
      (∀ (i : Nat) transfer bridge, later.blocks[i]? = some (transfer, bridge) →
        Transfer.Block start.settings
          (contents.sector (request.argument.toUInt64 + i.toUInt64)).toList transfer bridge) ∧
      Program.Ends perform (Transfer.pump start.settings) later.bridge fun transfer _ =>
        transfer.isEmpty = true ↔
          later.bridge.registers.word Offset.dataControl &&& DataControl.send ≠ 0 ∨
            later.blocks.length = Card.Commands.blockCount contents.sectors request := by
  have steady := fresh.steady_run shown history (by omega)
  have settings := settings_run history start
  obtain ⟨latched, shows, index, inside, willing⟩ := read
  subst shows
  have taken := poll_answers (c := (start.run history).commander) steady (by omega) rfl
    latched index inside willing
  rw [← bridge_poll] at taken
  have answered := taken.answered
  refine ⟨⟨taken.unlatched.clear, answered.argument, ?_, answered.control⟩, fun acts silent => ?_⟩
  · rw [answered.argument]
    rcases steady.calm with none | illegal
    · rw [none]
      decide
    · rw [illegal]
      decide
  have reads := (reads_of_taken taken (settings ▸ whole)).run silent
  have same : (((start.run history).act .poll).forget.run acts).settings = start.settings :=
    (settings_run acts _).trans ((settings_act .poll _).trans settings)
  refine ⟨reads.among, fun i transfer bridge listed => ?_, ?_⟩
  · have among : i < _ := Nat.lt_of_lt_of_le (List.getElem?_eq_some_iff.1 listed).1 reads.among
    rw [← Card.Commands.block_readJob among, ← same]
    exact reads.blocks i transfer bridge listed
  · rw [← same]
    exact Program.ends_mono reads.ends_pump fun _ _ ends => ends.2

def fourSectors : Image.Contents := ⟨4, fun lba => Vector.replicate _ lba.toUInt8⟩

def smallest : Loops Image.Made where
  bridge := {
    registers := { words := Array.replicate 8 0, clearOnOne := [Offset.status] }
    buffer := { words := Array.replicate 129 0 }
    engine := Card.ofImage ⟨4, fourSectors.sector, []⟩
    ring := { shared := { slots := Array.replicate 2 .empty } } }
  commander := { slowCompletion := 50 }
  settings := {}

def latching (index argument : UInt32) : List Act :=
  [.hardware Offset.argument argument,
    .hardware Offset.status (Status.newCommand ||| (index <<< 16))]

def selection : List (UInt32 × UInt32) :=
  [(55, 0), (41, Card.ocrVoltageWindow), (2, 0), (3, 0), (7, 0x45670000)]

/-- The card is selected, and a read of all sectors from the second on is latched. -/
def latchedRead : List Act :=
  selection.flatMap (fun (index, argument) => latching index argument ++ [Act.poll]) ++
    latching 18 1

theorem blocks_read_latchedRead :
    Card.Commands.blockCount 4 ⟨18, 1, 0⟩ = 3 ∧
      ∀ acts : List Act, (∀ a ∈ acts, a.Silent) → ∀ (i : Nat) transfer bridge,
        (((smallest.run latchedRead).act .poll).forget.run acts).blocks[i]? =
          some (transfer, bridge) →
        Transfer.Block {} (fourSectors.sector (1 + i.toUInt64)).toList transfer bridge := by
  have fresh : smallest.Fresh (⟨4, fourSectors.sector, []⟩ : Image.Made) :=
    ⟨by decide, rfl, ⟨Nat.le_of_eq Array.size_replicate.symm, rfl⟩, ⟨{}, rfl⟩, rfl⟩
  have read : ReadLatched fourSectors ⟨18, 1, 0⟩ (smallest.run latchedRead).bridge :=
    ⟨by decide +kernel, by decide +kernel, by decide, by decide, by unfold Willing; decide +kernel⟩
  have few : (smallest.run latchedRead).posts + 1 ≤ 2 ^ 28 - 1 := by decide +kernel
  have sent := (blocks_read fourSectors.shownBy_made fresh rfl few read).2
  exact ⟨by decide, fun acts silent => (sent acts silent).2.1⟩

end Loops
end SdBridge.Bridge
