import SdBridge.Proofs.Bridge.Traffic
import SdBridge.Proofs.Register.Bits

/-!
What a pass of the command loop writes to STATUS, whatever it is answered. It writes at most once, and
what it writes are events that it has read: the completion, and the new command if the engine has
answered it. Its outcome tells which.
-/
namespace SdBridge.Bridge

def events : UInt32 := Status.newCommand ||| Status.complete

def Legal (length : Nat) : Prop := length = 0 ∨ length = shortResponse ∨ length = longResponse

namespace Polled

/-- A pass writes STATUS at most once. It clears events that it has seen, and a new command only if
the engine answered it. -/
structure Sound (k : Polled) : Prop where
  once : k.written.length ≤ 1
  nonzero : ∀ value ∈ k.written, value ≠ 0
  seen : ∀ value ∈ k.written, ∃ word, k.word = some word ∧ BitsIn value (word &&& events)
  answered : ∀ value ∈ k.written, value &&& Status.newCommand ≠ 0 →
    ∃ length, k.result = some (.ok length) ∧ Legal length

def cleared (k : Polled) (flag : UInt32) : Bool := k.written.any fun value => value &&& flag != 0

def Order (access : Access) (k : Polled) : Prop := OfCommands access ∧ k.Sound

structure Told (k : Polled) (outcome : Outcome) : Prop where
  word : k.word = some outcome.status.raw
  completed : k.cleared Status.complete = outcome.completed
  answered : k.cleared Status.newCommand = true ↔
    ∃ command length, outcome.exchange = some (.answered command length)

variable {k : Polled}

theorem sound_of_unwritten (unwritten : k.written = []) : k.Sound := by
  constructor <;> simp [unwritten]

theorem conducts_beside {α : Type} {p : Loop α} (beside : p.Within Beside) (sound : k.Sound) :
    p.Conducts note Order (fun k' _ => k' = k) k := by
  refine Program.conducts_of_within beside fun access of => ⟨⟨?_, sound⟩, fun answer => ?_⟩
  · exact ofCommands_of_beside access of
  · cases access with
    | readRegister offset | writeRegister offset value => exact if_neg of.2
    | dispatch request response => exact of.elim
    | _ => rfl

end Polled

namespace Commander

open Loop

def Concluded (result : Except ProtocolError Nat) (done : Exchange) (answered : UInt32) : Prop :=
  (∃ command length, result = .ok length ∧ Legal length ∧ done = .answered command length ∧
      answered = Status.newCommand) ∨
    ∃ command why, done = .rejected command why ∧ answered = 0

variable {k : Polled}

theorem conducts_conclude (command : UInt8) (result : Except ProtocolError Nat) (c : Commander)
    (sound : k.Sound) : (c.conclude command result).Conducts Polled.note Polled.Order
      (fun k' out => k' = k ∧ Concluded result out.1 out.2.1) k := by
  unfold conclude
  split
  · rename_i length legal
    refine Program.conducts_bind (Polled.conducts_beside (beside_respond ..) sound) ?_
    rintro _ _ rfl
    refine Program.conducts_pure ⟨rfl, .inl ⟨command, length, ?_, ?_, rfl, rfl⟩⟩
    all_goals
      unfold legalLength at legal
      split at legal
      · split at legal <;> cases legal
        first | rfl | assumption
      · cases legal
  · rename_i why _
    exact Program.conducts_pure ⟨rfl, .inr ⟨command, why, rfl, rfl⟩⟩

theorem conducts_exchange (status : StatusWord) (c : Commander) (unwritten : k.written = []) :
    (c.exchange status).Conducts Polled.note Polled.Order
      (fun k' out => ∃ result, k' = { k with result := some result } ∧
        Concluded result out.1 out.2.1) k := by
  have sound := Polled.sound_of_unwritten unwritten
  have own : Offset.argument ∈ commandRegisters := by decide
  rw [exchange_eq]
  refine Program.conducts_access_bind fun argument => ⟨⟨own, sound⟩, ?_⟩
  refine Program.conducts_access_bind fun _ => ⟨⟨trivial, sound⟩, ?_⟩
  refine Program.conducts_access_bind fun (result, response) => ?_
  have answered : ({ k with result := some result } : Polled).Sound :=
    Polled.sound_of_unwritten unwritten
  refine ⟨⟨trivial, answered⟩, ?_⟩
  refine Program.conducts_access_bind fun _ => ⟨⟨trivial, answered⟩, ?_⟩
  refine Program.conducts_mono (conducts_conclude _ _ _ answered) ?_
  rintro k' out ⟨same, concluded⟩
  exact ⟨result, same, concluded⟩

theorem conducts_acknowledge {bits : UInt32} (unwritten : k.written = [])
    (sound : bits ≠ 0 → ({ k with written := [bits] } : Polled).Sound) :
    (acknowledge bits).Conducts Polled.note Polled.Order
      (fun k' _ => k' = { k with written := if bits = 0 then [] else [bits] } ∧ k'.Sound) k := by
  unfold acknowledge
  by_cases none : bits = 0
  · rw [if_neg (not_not.2 none)]
    refine Program.conducts_pure ⟨?_, Polled.sound_of_unwritten unwritten⟩
    rw [if_pos none, ← unwritten]
  · rw [if_pos none, if_neg none]
    have own : Offset.status ∈ commandRegisters := by decide
    have noted : Polled.note (.writeRegister Offset.status bits) () k =
        { k with written := [bits] } := by
      simp [Polled.note, unwritten]
    intro _
    rw [noted]
    exact ⟨⟨own, sound none⟩, rfl, sound none⟩

theorem bit_completion (word : UInt32) (i : Nat) :
    bit (completion ⟨word⟩) i = (bit word 1 && bit Status.complete i) := by
  have complete := and_flag_ne_zero_iff isFlag_complete word
  simp only [completion, StatusWord.has, bne_iff_ne]
  split
  · rename_i set
    rw [complete.1 set, Bool.true_and]
  · rename_i clear
    rw [bit_zero, eq_false_of_ne_true (mt complete.2 clear), Bool.false_and]

/-- The bits that a pass clears, whether or not it writes STATUS. -/
theorem cleared_written {flag bits : UInt32} {i : Nat} (single : IsFlag flag i) :
    ({ k with written := if bits = 0 then [] else [bits] } : Polled).cleared flag = bit bits i := by
  by_cases none : bits = 0
  · simp [none, Polled.cleared]
  · have set := and_flag_ne_zero_iff single bits
    rw [Bool.eq_iff_iff, ← set]
    simp [none, Polled.cleared]

/-- Clearing what was read of the events is sound, if a new command was answered. -/
theorem sound_written {word bits : UInt32} (read : k.word = some word)
    (seen : BitsIn bits (word &&& events)) (nonzero : bits ≠ 0)
    (legal : bit bits 0 = true → ∃ length, k.result = some (.ok length) ∧ Legal length) :
    ({ k with written := [bits] } : Polled).Sound := by
  have only (value : UInt32) (written : value ∈ [bits]) : value = bits := List.mem_singleton.1 written
  constructor
  · exact Nat.le_refl 1
  · exact fun value written => only value written ▸ nonzero
  · exact fun value written => ⟨word, read, only value written ▸ seen⟩
  · intro value written set
    rw [only value written, and_flag_ne_zero_iff isFlag_newCommand] at set
    exact legal set

/-- What a pass acknowledges of the word it read: the completion, and the new command if it was
answered. -/
structure Acknowledged (word answered : UInt32) : Prop where
  seen : BitsIn (answered ||| completion ⟨word⟩) (word &&& events)
  newCommand : bit (answered ||| completion ⟨word⟩) 0 = bit answered 0
  complete : bit (answered ||| completion ⟨word⟩) 1 = StatusWord.has ⟨word⟩ Status.complete

theorem acknowledged_of_word {word answered : UInt32}
    (new : answered = 0 ∨ answered = Status.newCommand ∧ bit word 0 = true) :
    Acknowledged word answered := by
  have has : StatusWord.has ⟨word⟩ Status.complete = bit word 1 := by
    rw [Bool.eq_iff_iff, ← and_flag_ne_zero_iff isFlag_complete, StatusWord.has, bne_iff_ne]
  have complete := isFlag_complete.2
  have newCommand := isFlag_newCommand.2
  have bits (i : Nat) (inside : i < 32) : bit events i = (decide (i = 0) || decide (i = 1)) := by
    rw [events, bit_or, newCommand i inside, complete i inside]
  have answered_ (i : Nat) (inside : i < 32) (set : bit answered i = true) :
      i = 0 ∧ bit word 0 = true := by
    rcases new with rfl | ⟨rfl, latched⟩
    · simp at set
    · exact ⟨by simpa [newCommand i inside] using set, latched⟩
  constructor
  · refine bitsIn_iff.2 fun i inside set => ?_
    rw [bit_or, bit_completion, complete i inside] at set
    rw [bit_and, bits i inside]
    rcases Bool.or_eq_true_iff.1 set with set | set
    · obtain ⟨rfl, latched⟩ := answered_ i inside set
      simp [latched]
    · simp only [Bool.and_eq_true, decide_eq_true_eq] at set
      simp [set.2, set.1]
  · rw [bit_or, bit_completion, complete 0 (by decide)]
    simp
  · rw [bit_or, bit_completion, complete 1 (by decide), has]
    cases set : bit answered 1 with
    | false => simp
    | true => exact absurd (answered_ 1 (by decide) set).1 (by decide)

/-- A pass acknowledges what it read, and its outcome tells so. -/
theorem told_of_written {word answered : UInt32} (read : k.word = some word)
    (acknowledged : Acknowledged word answered) (exchange : Option Exchange)
    (told : bit answered 0 = true ↔ ∃ command length, exchange = some (.answered command length)) :
    let bits := answered ||| completion ⟨word⟩
    ({ k with written := if bits = 0 then [] else [bits] } : Polled).Told
      ⟨⟨word⟩, StatusWord.has ⟨word⟩ Status.complete, exchange⟩ := by
  intro bits
  constructor
  · exact read
  · rw [cleared_written isFlag_complete]
    exact acknowledged.complete
  · rw [cleared_written isFlag_newCommand, acknowledged.newCommand]
    exact told

/-- Telling what happened leaves the account alone. -/
theorem conducts_telling_bind {α β : Type} {p : Loop α} {q : α → Loop β} {post : Polled → β → Prop}
    (telling : p.Within Telling) (sound : k.Sound)
    (rest : ∀ a, (q a).Conducts Polled.note Polled.Order post k) :
    (p >>= q).Conducts Polled.note Polled.Order post k := by
  have beside := Program.within_mono beside_of_telling telling
  refine Program.conducts_bind (Polled.conducts_beside beside sound) ?_
  rintro _ a rfl
  exact rest a

theorem conducts_idle (word : UInt32) (c : Commander) :
    (c.idle ⟨word⟩).Conducts Polled.note Polled.Order (fun k out => k.Told out.1)
      { word := some word } := by
  have acknowledged : Acknowledged word 0 := acknowledged_of_word (.inl rfl)
  have told := told_of_written (k := { word := some word }) rfl acknowledged none (by simp)
  have sound (nonzero : completion ⟨word⟩ ≠ 0) :
      ({ word := some word, written := [completion ⟨word⟩] } : Polled).Sound := by
    have seen := acknowledged.seen
    have newCommand := acknowledged.newCommand
    rw [UInt32.zero_or] at seen newCommand
    exact sound_written (k := { word := some word }) rfl seen nonzero (by simp [newCommand])
  simp only [UInt32.zero_or] at told
  refine Program.conducts_bind (conducts_acknowledge rfl sound) ?_
  rintro k - ⟨rfl, sound⟩
  dsimp only
  split
  · exact conducts_telling_bind (telling_reportCompletion ..) sound fun _ =>
      Program.conducts_pure told
  · exact Program.conducts_pure told

/-- A pass that found a command latched. -/
theorem conducts_latched {word : UInt32} (latched : bit word 0 = true) (seen : UInt64)
    (c : Commander) :
    (do
      let (done, answered, c) ← c.exchange ⟨word⟩
      acknowledge (answered ||| completion ⟨word⟩)
      c.report seen ⟨word⟩ done : Loop (Outcome × Commander)).Conducts Polled.note Polled.Order
        (fun k out => k.Told out.1) { word := some word } := by
  refine Program.conducts_bind (conducts_exchange ⟨word⟩ c rfl) ?_
  rintro k ⟨done, answered, c⟩ ⟨result, rfl, concluded⟩
  dsimp only at concluded ⊢
  -- Only an exchange that was answered adds the new command to what is cleared.
  have new : answered = 0 ∨ answered = Status.newCommand ∧ bit word 0 = true := by
    rcases concluded with ⟨_, _, _, _, _, answered⟩ | ⟨_, _, _, answered⟩
    · exact .inr ⟨answered, latched⟩
    · exact .inl answered
  have acknowledged := acknowledged_of_word new
  have sound (nonzero : answered ||| completion ⟨word⟩ ≠ 0) :
      ({ word := some word, result := some result,
         written := [answered ||| completion ⟨word⟩] } : Polled).Sound := by
    refine sound_written (k := { word := some word, result := some result }) rfl
      acknowledged.seen nonzero fun set => ?_
    rw [acknowledged.newCommand] at set
    rcases concluded with ⟨_, length, legal, bound, _, _⟩ | ⟨_, _, _, none⟩
    · exact ⟨length, congrArg some legal, bound⟩
    · simp [none] at set
  have answers : bit answered 0 = true ↔
      ∃ command length, some done = some (.answered command length) := by
    rcases concluded with ⟨command, length, _, _, done, answered⟩ | ⟨_, _, done, answered⟩
    · subst done answered
      exact iff_of_true (by decide) ⟨command, length, rfl⟩
    · subst done answered
      simp
  have told := told_of_written (k := { word := some word, result := some result }) rfl
    acknowledged (some done) answers
  refine Program.conducts_bind (conducts_acknowledge rfl sound) ?_
  rintro k - ⟨rfl, sound⟩
  refine conducts_telling_bind (telling_reportExchange ..) sound fun _ => ?_
  dsimp only
  split
  · exact conducts_telling_bind (telling_reportCompletion ..) sound fun _ =>
      Program.conducts_pure told
  · exact Program.conducts_pure told

/-- A pass of the command loop keeps its account in order, whatever it is answered. -/
theorem conducts_poll (c : Commander) :
    c.poll.Conducts Polled.note Polled.Order (fun k out => k.Told out.1) {} := by
  have own : Offset.status ∈ commandRegisters := by decide
  rw [poll_eq]
  intro word
  have unwritten : ({ word := some word } : Polled).Sound := Polled.sound_of_unwritten rfl
  refine ⟨⟨own, unwritten⟩, ?_⟩
  change Program.Conducts _ _ _ (if StatusWord.has ⟨word⟩ Status.newCommand then _ else _)
    ({ word := some word } : Polled)
  split
  · rename_i has
    have latched : bit word 0 = true := by
      rw [← and_flag_ne_zero_iff isFlag_newCommand]
      simpa [StatusWord.has] using has
    refine Program.conducts_access_bind fun seen => ⟨⟨trivial, unwritten⟩, ?_⟩
    exact conducts_latched latched seen c
  · exact conducts_idle word c

end Commander

end SdBridge.Bridge
