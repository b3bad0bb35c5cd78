import SdBridge.Proofs.Bridge.Settling
import SdBridge.Proofs.Register.Bits

/-!
A block in flight. From the moment a pass of the data loop starts a block until the hardware has sent
it, the data buffer and POINTER hold that block: the data loop waits, and the command loop has nothing
to do with either.
-/
namespace SdBridge.Bridge

variable {π : Type} {s : TransferSettings} {calm : Prop} {b : Bridge π} {k : Pumped}

/-- Between two passes nothing changes. -/
theorem Settled.again (settled : Settled s calm b k) : Settled s calm b k.again where
  plainPointer := settled.plainPointer
  plainControl := settled.plainControl
  plainBuffer := settled.plainBuffer
  stage := .fresh rfl rfl rfl
  idle preparing := absurd rfl preparing.read
  words := List.nil_prefix
  pointer _ listed := by cases listed
  queued := settled.queued
  known := settled.known

def Traffic.Turn.KeepsBlock : Traffic.Turn → Prop
  | .hardware (.raise offset bits) | .hardware (.set offset bits) =>
    offset / 4 ≠ Offset.pointer / 4 ∧
      (offset / 4 = Offset.dataControl / 4 → bits &&& DataControl.send = 0)
  | .hardware (.lower offset _) => offset / 4 ≠ Offset.pointer / 4
  | _ => True

open Traffic

instance : DecidablePred Turn.KeepsBlock
  | .command | .data => inferInstanceAs (Decidable True)
  | .hardware (.raise offset bits) | .hardware (.set offset bits) =>
    inferInstanceAs (Decidable (offset / 4 ≠ Offset.pointer / 4 ∧
      (offset / 4 = Offset.dataControl / 4 → bits &&& DataControl.send = 0)))
  | .hardware (.lower offset _) => inferInstanceAs (Decidable (offset / 4 ≠ Offset.pointer / 4))

theorem pointer_signal {signal : Signal} (keeps : (Turn.hardware signal).KeepsBlock)
    (f : RegisterFile) : (signal.apply f).word Offset.pointer = f.word Offset.pointer := by
  cases signal with
  | raise offset bits | set offset bits =>
    exact (RegisterFile.word_force ..).trans (if_neg fun hit => keeps.1 hit.2.symm)
  | lower offset bits =>
    exact (RegisterFile.word_force ..).trans (if_neg fun hit => keeps hit.2.symm)

/-- The hardware lowers SEND at most. -/
theorem send_signal {signal : Signal} (keeps : (Turn.hardware signal).KeepsBlock) {f : RegisterFile}
    (sending : (signal.apply f).word Offset.dataControl &&& DataControl.send ≠ 0) :
    f.word Offset.dataControl &&& DataControl.send ≠ 0 := by
  rw [and_flag_ne_zero_iff isFlag_send] at sending ⊢
  cases signal with
  | raise offset bits =>
    simp only [Signal.apply, RegisterFile.word_force] at sending
    split at sending
    · rename_i hit
      have clear := mt (and_flag_ne_zero_iff isFlag_send bits).2 (not_not.2 (keeps.2 hit.2.symm))
      have own : f.word offset = f.word Offset.dataControl := RegisterFile.word_congr hit.2.symm
      rw [own, bit_or, eq_false_of_ne_true clear, Bool.or_false] at sending
      exact sending
    · exact sending
  | lower offset bits =>
    simp only [Signal.apply, RegisterFile.word_force] at sending
    split at sending
    · rename_i hit
      have own : f.word offset = f.word Offset.dataControl := RegisterFile.word_congr hit.2.symm
      rw [own, bit_and] at sending
      exact (Bool.and_eq_true_iff.1 sending).1
    · exact sending
  | set offset bits =>
    simp only [Signal.apply, RegisterFile.word_force] at sending
    split at sending
    · rename_i hit
      exact absurd (keeps.2 hit.2.symm) ((and_flag_ne_zero_iff isFlag_send bits).2 sending)
    · exact sending

namespace Traffic

/-- What holds between any two accesses. `calm` says that no block was going out at the start. -/
structure Undisturbed (calm : Prop) (t : Traffic π) : Prop where
  polling : t.polling.Within OfCommands
  pumping : t.pumping.Conducts Pumped.note (Pumped.Order t.settings) (Pumped.Told t.settings) t.pumped
  settled : Settled t.settings calm t.bridge t.pumped
  pumps : ∀ pump ∈ t.pumps,
    pump.account.Stage t.settings ∧ pump.account.Told t.settings pump.transfer

variable {t : Traffic π}

theorem undisturbed_hardware {signal : Signal} (keeps : (Turn.hardware signal).KeepsBlock)
    (undisturbed : t.Undisturbed calm) :
    (t.hardware signal).Undisturbed calm ∧ SameBlock t.bridge (t.hardware signal).bridge := by
  obtain ⟨polling, pumping, settled, pumps⟩ := undisturbed
  have pointer := pointer_signal keeps t.bridge.registers
  have clears : (signal.apply t.bridge.registers).clearOnOne = t.bridge.registers.clearOnOne := by
    cases signal <;> exact RegisterFile.clearOnOne_force ..
  exact ⟨⟨polling, pumping, settled.congr pointer (send_signal keeps) clears rfl rfl, pumps⟩, rfl,
    pointer⟩

variable [Responder π] [ByteSource π]

theorem undisturbed_command (undisturbed : t.Undisturbed calm) :
    t.command.Undisturbed calm ∧ SameBlock t.bridge t.command.bridge := by
  obtain ⟨polling, pumping, settled, pumps⟩ := undisturbed
  simp only [command]
  split
  · exact ⟨⟨Commander.ofCommands_poll _, pumping, settled, pumps⟩, rfl, rfl⟩
  · obtain ⟨rest, still | ⟨access, of, after⟩⟩ :=
      polling.step perform Polled.note t.bridge t.polled
    · rw [still]
      exact ⟨⟨rest, pumping, settled, pumps⟩, rfl, rfl⟩
    · rw [after]
      obtain ⟨settled, same⟩ := settled_of_commands settled of
      exact ⟨⟨rest, pumping, settled, pumps⟩, same⟩

theorem undisturbed_data (undisturbed : t.Undisturbed calm) :
    t.data.Undisturbed calm ∧ (Sending t.bridge → SameBlock t.bridge t.data.bridge) := by
  obtain ⟨polling, pumping, settled, pumps⟩ := undisturbed
  simp only [data]
  split
  · rename_i transfer ended
    rw [Program.eq_done_of_result? ended] at pumping
    refine ⟨⟨polling, Transfer.conducts_pump t.settings rfl rfl rfl, settled.again, ?_⟩,
      fun _ => ⟨rfl, rfl⟩⟩
    intro pump listed
    rcases List.mem_append.1 listed with before | last
    · exact pumps pump before
    · rw [List.mem_singleton.1 last]
      exact ⟨settled.stage, pumping⟩
  · obtain ⟨rest, stepped⟩ := pumping.step perform t.bridge
    obtain ⟨settled, same⟩ := settled_of_stepped settled stepped
    exact ⟨⟨polling, rest, settled, pumps⟩, same⟩

theorem undisturbed_turn {turn : Turn} (keeps : turn.KeepsBlock) (undisturbed : t.Undisturbed calm) :
    (t.turn turn).Undisturbed calm ∧
      (Sending t.bridge → SameBlock t.bridge (t.turn turn).bridge) := by
  cases turn with
  | command =>
    obtain ⟨kept, same⟩ := undisturbed_command undisturbed
    exact ⟨kept, fun _ => same⟩
  | data => exact undisturbed_data undisturbed
  | hardware signal =>
    obtain ⟨kept, same⟩ := undisturbed_hardware keeps undisturbed
    exact ⟨kept, fun _ => same⟩

theorem undisturbed_run {turns : List Turn} (keeps : ∀ turn ∈ turns, turn.KeepsBlock)
    (undisturbed : t.Undisturbed calm) : (run turns t).Undisturbed calm := by
  induction turns using List.reverseRecOn with
  | nil => exact undisturbed
  | append_singleton turns turn before =>
    rw [run_append]
    have before := before fun turn listed => keeps turn (List.mem_append_left _ listed)
    exact (undisturbed_turn (keeps turn (by simp)) before).1

omit [Responder π] [ByteSource π] in
theorem undisturbed_start (pointer : Offset.pointer ∉ b.registers.clearOnOne)
    (control : Offset.dataControl ∉ b.registers.clearOnOne) (plain : b.buffer.clearOnOne = [])
    (s : TransferSettings) (c : Commander) : (start b s c).Undisturbed (¬Sending b) where
  polling := Commander.ofCommands_poll c
  pumping := Transfer.conducts_pump s rfl rfl rfl
  settled := {
    plainPointer := pointer
    plainControl := control
    plainBuffer := plain
    stage := .fresh rfl rfl rfl
    idle := fun preparing => absurd rfl preparing.read
    words := List.nil_prefix
    pointer := nofun
    queued := nofun
    known := fun calm sending => absurd sending calm }
  pumps := nofun

end Traffic

/-- A block is at most 512 bytes with two bytes of CRC16. -/
theorem length_outgoing {settings : Settings} (valid : settings.validate = .ok ())
    {taken : List UInt8} (limit : taken.length ≤ settings.transfer.maxBytes) :
    (outgoing settings.transfer taken).length ≤ 514 := by
  have most := limit_of_valid valid
  have trailer : (Transfer.trailer settings.transfer (Crc.crc16 taken)).length ≤ 2 := by
    unfold Transfer.trailer
    split
    · exact Nat.zero_le 2
    · exact Nat.le_refl 2
  rw [outgoing, List.length_append]
  omega

theorem send_starting (s : TransferSettings) :
    DataControl.word (Transfer.flags s) .none &&& DataControl.send ≠ 0 := by
  have start : bit DataControl.send 1 = true := by decide
  rw [and_flag_ne_zero_iff isFlag_send, DataControl.word, Transfer.flags]
  simp [start]

namespace Traffic

variable [Responder π] [ByteSource π]

/-- A block that goes out is left alone, and so is everything while a command is dispatched. -/
theorem block_kept (pointer : Offset.pointer ∉ b.registers.clearOnOne)
    (control : Offset.dataControl ∉ b.registers.clearOnOne) (plain : b.buffer.clearOnOne = [])
    {settings : Settings} (valid : settings.validate = .ok ()) (c : Commander) (turns : List Turn)
    (keeps : ∀ turn ∈ turns, turn.KeepsBlock) :
    let s := settings.transfer
    let t := run turns (start b s c)
    (∀ account ∈ t.pumped :: t.pumps.map (·.account),
      account.Halted → account.taken = [] ∧ account.writes = []) ∧
      (t.pumped.Stage s ∧ ∀ pump ∈ t.pumps, pump.account.Told s pump.transfer) ∧
      DataControl.word (Transfer.flags s) .none &&& DataControl.send ≠ 0 ∧
      (Sending t.bridge →
        (¬Sending b → ∃ taken, t.pumped.queued = some taken) ∧
          (∀ taken, t.pumped.queued = some taken →
            Holds s taken t.bridge ∧ (outgoing s taken).length ≤ 514) ∧
          ∀ turn : Turn, turn.KeepsBlock → SameBlock t.bridge (t.turn turn).bridge) := by
  intro s t
  have undisturbed : t.Undisturbed (¬Sending b) :=
    undisturbed_run keeps (undisturbed_start pointer control plain s c)
  have same : t.settings = s := settings_run turns (start b s c)
  have frame {turn : Turn} (keeps : turn.KeepsBlock) := (undisturbed_turn keeps undisturbed).2
  obtain ⟨-, -, settled, pumps⟩ := undisturbed
  rw [same] at settled pumps
  refine ⟨?_, ⟨settled.stage, fun pump listed => (pumps pump listed).2⟩, send_starting s, ?_⟩
  · intro account listed halted
    rcases List.mem_cons.1 listed with rfl | ended
    · exact settled.stage.idle halted
    · obtain ⟨pump, before, rfl⟩ := List.mem_map.1 ended
      exact (pumps pump before).1.idle halted
  · intro sending
    refine ⟨fun calm => ?_, fun taken found => ?_, fun turn keeps => frame keeps sending⟩
    · exact Option.ne_none_iff_exists'.1 (settled.known calm sending)
    · have holds := settled.queued sending taken found
      exact ⟨holds, length_outgoing valid holds.limit⟩

/-- A block is started. While it goes out, a pass of the data loop finds a command being dispatched,
and the next one finds SEND still set. -/
def crossing : List Turn :=
  List.replicate 25 .data ++
    [.hardware (.raise Offset.status (Status.newCommand ||| 0xd0000))] ++
    List.replicate 4 .command ++ List.replicate 2 .data ++ List.replicate 10 .command ++
    List.replicate 3 .data

theorem block_kept_crossing :
    let t := run crossing rehearsal
    t.pumps.map (fun pump => (pump.account.busy, pump.account.taken)) =
        [(false, [1, 2, 3, 4, 5, 6, 7, 8]), (true, []), (false, [])] ∧
      t.polls.length = 1 ∧ Sending t.bridge ∧ Holds {} [1, 2, 3, 4, 5, 6, 7, 8] t.bridge := by
  intro t
  have keeps : ∀ turn ∈ crossing, turn.KeepsBlock := by decide
  have sending : Sending t.bridge := by
    unfold Sending
    decide +kernel
  have valid : ({} : Settings).validate = .ok () := by decide
  obtain ⟨-, -, -, held⟩ := block_kept (b := rehearsal.bridge) (by decide +kernel)
    (by decide +kernel) rfl valid { slowCompletion := 50 } crossing keeps
  have begun : run crossing (start rehearsal.bridge ({} : Settings).transfer
      { slowCompletion := 50 }) = t := rfl
  rw [begun] at held
  have queued : t.pumped.queued = some [1, 2, 3, 4, 5, 6, 7, 8] := by decide +kernel
  refine ⟨by decide +kernel, by decide +kernel, sending, ((held sending).2.1 _ queued).1⟩

end Traffic
end SdBridge.Bridge
