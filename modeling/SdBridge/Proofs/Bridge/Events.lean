import SdBridge.Proofs.Bridge.Acknowledging

/-!
Events of STATUS over whole runs. STATUS is write-one-to-clear, so that a pass of the command loop may
clear what it has seen while the hardware raises more. No event is lost between the two: a pass clears
only what it read, a new command only once it was answered, and every completion is counted by one
pass.
-/
namespace SdBridge.Bridge

namespace Polled

/-- Every bit of a word is still set in STATUS, or the pass has cleared it. -/
def Accounted (status : UInt32) (k : Polled) (word : UInt32) : Prop :=
  ∀ i < 32, bit word i = true → bit status i = true ∨ ∃ value ∈ k.written, bit value i = true

/-- What holds of STATUS while a pass is under way: of what went up since it began and of what it read,
nothing is lost. -/
structure Kept (status raised : UInt32) (k : Polled) : Prop where
  sound : k.Sound
  raised : k.Accounted status raised
  seen : ∀ word, k.word = some word → k.Accounted status word

inductive Acts (status : UInt32) (k : Polled) : UInt32 → Polled → Prop where
  | quiet {k' : Polled} (word : k'.word = k.word) (written : k'.written = k.written) :
      Acts status k status k'
  | read {k' : Polled} (word : k'.word = some status) (written : k'.written = k.written) :
      Acts status k status k'
  | clear {k' : Polled} (value : UInt32) (word : k'.word = k.word) (result : k'.result = k.result)
      (written : k'.written = k.written ++ [value]) : Acts status k (status &&& ~~~value) k'

variable {status status' raised : UInt32} {k k' : Polled}

/-- What a pass clears was all it was about to lose. -/
theorem accounted_acts (acts : Acts status k status' k') {word : UInt32}
    (accounted : k.Accounted status word) : k'.Accounted status' word := by
  cases acts with
  | quiet _ written | read _ written =>
    intro i inside set
    rw [written]
    exact accounted i inside set
  | clear value _ _ written =>
    intro i inside set
    rw [written, bit_and, bit_not value i inside]
    rcases accounted i inside set with still | ⟨earlier, listed, cleared⟩
    · cases now : bit value i with
      | false => exact .inl (by simp [still])
      | true => exact .inr ⟨value, by simp, now⟩
    · exact .inr ⟨earlier, List.mem_append_left _ listed, cleared⟩

theorem kept_acts (acts : Acts status k status' k') (kept : Kept status raised k)
    (sound : k'.Sound) : Kept status' raised k' := by
  refine ⟨sound, accounted_acts acts kept.raised, fun word read => ?_⟩
  cases acts with
  | quiet same written => exact accounted_acts (.quiet same written) (kept.seen word (same ▸ read))
  | read now written =>
    rw [now] at read
    cases read
    exact fun i _ set => .inl set
  | clear value same result written =>
    exact accounted_acts (.clear value same result written) (kept.seen word (same ▸ read))

/-- What a pass cleared it had read, so that what it had not read is still set. -/
theorem Kept.of_unread (kept : Kept status raised k) {word : UInt32} (read : k.word = some word) :
    BitsIn (raised &&& ~~~word) status := by
  refine bitsIn_iff.2 fun i inside set => ?_
  rw [bit_and, bit_not word i inside, Bool.and_eq_true, Bool.not_eq_true'] at set
  rcases kept.raised i inside set.1 with still | ⟨value, written, cleared⟩
  · exact still
  · obtain ⟨seen, at_, within⟩ := kept.sound.seen value written
    have own := bitsIn_iff.1 within i inside cleared
    rw [read] at at_
    cases at_
    rw [bit_and, set.2] at own
    cases own

/-- A bit that goes up is accounted for. -/
theorem kept_risen (up : BitsIn status status') (kept : Kept status raised k) :
    Kept status' (raised ||| (status' &&& ~~~status)) k := by
  rw [bitsIn_iff] at up
  have still {word : UInt32} (accounted : k.Accounted status word) : k.Accounted status' word :=
    fun i inside set => (accounted i inside set).imp_left (up i inside)
  refine ⟨kept.sound, fun i inside set => ?_, fun word read => still (kept.seen word read)⟩
  rw [bit_or, bit_and, Bool.or_eq_true, Bool.and_eq_true] at set
  rcases set with before | ⟨now, _⟩
  · exact still kept.raised i inside before
  · exact .inl now

def pending (status : UInt32) (k : Polled) : Nat :=
  (k.cleared Status.complete).toNat + (bit status 1).toNat

theorem cleared_of_eq (written : k'.written = k.written) (flag : UInt32) :
    k'.cleared flag = k.cleared flag := by
  rw [cleared, written, cleared]

theorem cleared_append {value flag : UInt32} {i : Nat} (single : IsFlag flag i)
    (written : k'.written = k.written ++ [value]) :
    k'.cleared flag = (k.cleared flag || bit value i) := by
  have set : (value &&& flag != 0) = bit value i := by
    rw [Bool.eq_iff_iff, ← and_flag_ne_zero_iff single, bne_iff_ne]
  simp [cleared, written, set]

/-- What a pass is about to clear is set: it was read, and nobody else clears. -/
theorem set_of_clear {value : UInt32} (kept : Kept status raised k) (sound : k'.Sound)
    (word : k'.word = k.word) (written : k'.written = k.written ++ [value]) :
    k.written = [] ∧ BitsIn value status := by
  have once := sound.once
  have listed : value ∈ k'.written := by simp [written]
  have first : k.written = [] := by
    rw [written, List.length_append, List.length_singleton] at once
    exact List.eq_nil_of_length_eq_zero (by omega)
  refine ⟨first, bitsIn_iff.2 fun i inside set => ?_⟩
  obtain ⟨read, at_, seen⟩ := sound.seen value listed
  have set := bitsIn_iff.1 seen i inside set
  rw [bit_and, Bool.and_eq_true] at set
  rcases kept.seen read (word ▸ at_) i inside set.1 with still | ⟨earlier, cleared, _⟩
  · exact still
  · rw [first] at cleared
    cases cleared

/-- An access of the command loop clears the completion bit only to count it. -/
theorem pending_acts (acts : Acts status k status' k') (kept : Kept status raised k)
    (sound : k'.Sound) : k'.pending status' = k.pending status := by
  cases acts with
  | quiet _ written | read _ written => rw [pending, cleared_of_eq written, pending]
  | clear value word result written =>
    obtain ⟨first, within⟩ := set_of_clear kept sound word written
    have none : k.cleared Status.complete = false := by simp [cleared, first]
    have set := bitsIn_iff.1 within 1 (by decide)
    rw [pending, pending, cleared_append isFlag_complete written, none, bit_and,
      bit_not value 1 (by decide)]
    cases now : bit value 1 with
    | false => simp
    | true => simp [set now]

/-- The completion bit goes up once for each time that it is clear before. -/
theorem pending_risen (up : BitsIn status status') : k.pending status' = k.pending status +
    if (status' &&& ~~~status) &&& Status.complete = 0 then 0 else 1 := by
  have still := bitsIn_iff.1 up 1 (by decide)
  have risen := and_flag_ne_zero_iff isFlag_complete (status' &&& ~~~status)
  rw [bit_and, bit_not status 1 (by decide)] at risen
  rw [pending, pending]
  split
  · rename_i none
    have same : bit status' 1 = bit status 1 := by
      have flat := mt risen.2 (not_not.2 none)
      cases before : bit status 1 with
      | false => simpa [before] using flat
      | true => exact still before
    rw [same, Nat.add_zero]
  · rename_i some
    have both := risen.1 some
    simp only [Bool.and_eq_true, Bool.not_eq_true'] at both
    simp [both.1, both.2]

variable {π : Type} [Responder π] [ByteSource π] {b b' : Bridge π}

theorem acts_of_answered {access : Access} {answer : Access.Answer access}
    (clears : Offset.status ∈ b.registers.clearOnOne)
    (performed : perform access b = (.ok answer, b')) (of : OfCommands access) :
    Acts (b.registers.word Offset.status) k (b'.registers.word Offset.status)
      (note access answer k) := by
  have after : b' = (perform access b).2 := by rw [performed]
  have still (other : ∀ value, access ≠ .writeRegister Offset.status value) :
      b'.registers.word Offset.status = b.registers.word Offset.status := by
    rw [after]
    apply word_perform
    rintro written value rfl same
    -- Of the registers of the command loop, only STATUS lies in its word.
    have apart : ∀ written ∈ commandRegisters, Offset.status / 4 = written / 4 →
        written = Offset.status := by decide
    exact other value (by rw [apart written of same])
  cases access with
  | readRegister offset =>
    rw [still (by rintro _ ⟨⟩)]
    by_cases own : offset = Offset.status
    · refine .read ?_ (by simp [note, own])
      have read : (b.registers.read offset).1 = .ok answer := congrArg Prod.fst performed
      have word := RegisterFile.word_of_read read
      rw [own] at word
      simp [note, own, word]
    · exact .quiet (by simp [note, own]) (by simp [note, own])
  | writeRegister offset value =>
    by_cases own : offset = Offset.status
    · subst own
      have cleared : b'.registers.word Offset.status =
          b.registers.word Offset.status &&& ~~~value := by
        rw [after]
        exact RegisterFile.word_write_clears clears (by decide) value
      rw [cleared]
      exact .clear value (by simp [note]) (by simp [note]) (by simp [note])
    · rw [still (by rintro _ ⟨⟩; exact own rfl)]
      exact .quiet (by simp [note, own]) (by simp [note, own])
  | dispatch request response =>
    rw [still (by rintro _ ⟨⟩)]
    exact .quiet rfl rfl
  | setInFlight raised | takeBlockRequest | clock | publish record =>
    rw [still (by rintro _ ⟨⟩)]
    exact .quiet rfl rfl
  | inFlight | writeBuffer offset value | dataReady | nextByte | log entry | stopRequested
  | sleep time => exact of.elim

/-- What one step of a pass does to STATUS and to the account. -/
theorem acts_of_stepped (clears : Offset.status ∈ b.registers.clearOnOne) (sound : k.Sound)
    (stepped : Program.Stepped perform note Order b k b' k') :
    Acts (b.registers.word Offset.status) k (b'.registers.word Offset.status) k' ∧ k'.Sound ∧
      b'.registers.clearOnOne = b.registers.clearOnOne := by
  cases stepped with
  | still => exact ⟨.quiet rfl rfl, sound, rfl⟩
  | answered performed ordered =>
    refine ⟨acts_of_answered clears performed ordered.1, ordered.2, ?_⟩
    rw [← clearOnOne_perform _ b, performed]
  | faulted performed =>
    rw [(words_of_fault performed).1]
    refine ⟨.quiet rfl rfl, sound, ?_⟩
    rw [← clearOnOne_perform _ b, performed]

end Polled

structure Poll.Faithful (p : Poll) : Prop where
  sound : p.account.Sound
  told : p.account.Told p.outcome
  kept : ∀ word, p.account.word = some word → BitsIn (p.raised &&& ~~~word) p.left

namespace Traffic

/-- The hardware clears no bit of STATUS. -/
def Turn.KeepsStatus : Turn → Prop
  | .hardware (.lower offset _) | .hardware (.set offset _) => offset / 4 ≠ Offset.status / 4
  | _ => True

instance : DecidablePred Turn.KeepsStatus
  | .command | .data | .hardware (.raise _ _) => inferInstanceAs (Decidable True)
  | .hardware (.lower offset _) | .hardware (.set offset _) =>
    inferInstanceAs (Decidable (offset / 4 ≠ Offset.status / 4))

structure Faithful {π : Type} (t : Traffic π) : Prop where
  clears : Offset.status ∈ t.bridge.registers.clearOnOne
  polling : t.polling.Conducts Polled.note Polled.Order (fun k out => k.Told out.1) t.polled
  pumping : t.pumping.Within OfData
  kept : Polled.Kept t.status t.raised t.polled
  polls : ∀ poll ∈ t.polls, poll.Faithful
  count : t.completions = t.polls.countP (·.outcome.completed) + t.polled.pending t.status

variable {π : Type} {t : Traffic π}

theorem status_hardware {signal : Signal} (keeps : (Turn.hardware signal).KeepsStatus)
    (t : Traffic π) : BitsIn t.status (t.hardware signal).status := by
  refine bitsIn_iff.2 fun i _ set => ?_
  cases signal with
  | raise offset bits =>
    have word : (t.hardware (.raise offset bits)).status = _ := RegisterFile.word_force ..
    rw [word]
    split
    · rename_i hit
      have own : t.bridge.registers.word offset = t.status := RegisterFile.word_congr hit.2.symm
      rw [own, bit_or]
      exact Bool.or_eq_true_iff.2 (.inl set)
    · exact set
  | lower offset value | set offset value =>
    refine (congrArg (bit · i) ?_).trans set
    exact (RegisterFile.word_force ..).trans (if_neg fun hit => keeps hit.2.symm)

theorem faithful_hardware {signal : Signal} (keeps : (Turn.hardware signal).KeepsStatus)
    (faithful : t.Faithful) : (t.hardware signal).Faithful := by
  have up := status_hardware keeps t
  refine ⟨?_, faithful.polling, faithful.pumping, Polled.kept_risen up faithful.kept,
    faithful.polls, ?_⟩
  · cases signal <;> exact (RegisterFile.clearOnOne_force ..).symm ▸ faithful.clears
  · have pending : t.polled.pending (t.hardware signal).status = _ := Polled.pending_risen up
    rw [completions_hardware, faithful.count]
    change _ = _ + t.polled.pending (t.hardware signal).status
    rw [pending, Nat.add_assoc]
    rfl

variable [Responder π] [ByteSource π]

/-- A pass that ended is counted if its outcome tells of a completion. -/
theorem countP_append (polls : List Poll) {p : Poll} (told : p.account.Told p.outcome) :
    (polls ++ [p]).countP (·.outcome.completed) =
      polls.countP (·.outcome.completed) + (p.account.cleared Status.complete).toNat := by
  rw [List.countP_append, told.completed]
  cases completed : p.outcome.completed <;> simp [completed]

theorem faithful_command (faithful : t.Faithful) : t.command.Faithful := by
  obtain ⟨clears, polling, pumping, kept, polls, count⟩ := faithful
  simp only [command]
  split
  · rename_i outcome c ended
    have done := Program.eq_done_of_result? ended
    rw [done] at polling
    have told : t.polled.Told outcome := polling
    refine ⟨clears, Commander.conducts_poll c, pumping, ?_, ?_, ?_⟩
    · exact ⟨Polled.sound_of_unwritten rfl, fun i _ set => by simp at set, by rintro _ ⟨⟩⟩
    · intro poll listed
      rcases List.mem_append.1 listed with before | last
      · exact polls poll before
      · rw [List.mem_singleton.1 last]
        exact ⟨kept.sound, told, fun word read => kept.of_unread read⟩
    · dsimp only
      rw [countP_append t.polls told, count, Polled.pending, Nat.add_assoc]
      exact congrArg _ (congrArg _ (Nat.zero_add _).symm)
  · obtain ⟨rest, stepped⟩ := polling.step perform t.bridge
    obtain ⟨acts, sound, same⟩ := Polled.acts_of_stepped clears kept.sound stepped
    refine ⟨same ▸ clears, rest, pumping, Polled.kept_acts acts kept sound, polls, ?_⟩
    rw [count]
    exact congrArg _ (Polled.pending_acts acts kept sound).symm

/-- The data loop has nothing to do with STATUS. -/
theorem status_data (pumping : t.pumping.Within OfData) :
    t.data.status = t.status ∧
      t.data.bridge.registers.clearOnOne = t.bridge.registers.clearOnOne ∧
      t.data.pumping.Within OfData := by
  simp only [data, status]
  split
  · exact ⟨rfl, rfl, Transfer.ofData_pump t.settings⟩
  · obtain ⟨rest, still | ⟨access, of, after⟩⟩ :=
      pumping.step perform Pumped.note t.bridge t.pumped
    · rw [still]
      exact ⟨rfl, rfl, rest⟩
    · rw [after]
      exact ⟨word_of_data of (by decide), clearOnOne_perform access t.bridge, rest⟩

theorem faithful_data (faithful : t.Faithful) : t.data.Faithful := by
  obtain ⟨clears, polling, pumping, kept, polls, count⟩ := faithful
  obtain ⟨status, same, rest⟩ := status_data pumping
  have own : t.data.polling = t.polling ∧ t.data.polled = t.polled ∧ t.data.raised = t.raised ∧
      t.data.polls = t.polls ∧ t.data.completions = t.completions := by
    simp only [data]
    split <;> exact ⟨rfl, rfl, rfl, rfl, rfl⟩
  obtain ⟨loop, account, raised, ended, completions⟩ := own
  refine ⟨same ▸ clears, ?_, rest, ?_, ?_, ?_⟩
  · rwa [loop, account]
  · rwa [status, raised, account]
  · rwa [ended]
  · rwa [completions, ended, account, status]

omit [Responder π] [ByteSource π] in
/-- A fresh bridge has seen nothing yet. -/
theorem faithful_start {b : Bridge π} (clears : Offset.status ∈ b.registers.clearOnOne)
    (clear : b.registers.word Offset.status &&& Status.complete = 0) (settings : TransferSettings)
    (c : Commander) : (start b settings c).Faithful := by
  refine ⟨clears, Commander.conducts_poll c, Transfer.ofData_pump settings, ?_, by rintro _ ⟨⟩, ?_⟩
  · exact ⟨Polled.sound_of_unwritten rfl, fun i _ set => by simp [start] at set, by rintro _ ⟨⟩⟩
  · have none := mt (and_flag_ne_zero_iff isFlag_complete _).2 (not_not.2 clear)
    simp [start, Polled.pending, Polled.cleared, status, none]

theorem faithful_run {turns : List Turn} (keeps : ∀ turn ∈ turns, turn.KeepsStatus)
    (faithful : t.Faithful) : (run turns t).Faithful := by
  induction turns using List.reverseRecOn with
  | nil => exact faithful
  | append_singleton turns turn before =>
    rw [run_append]
    have before := before fun turn listed => keeps turn (List.mem_append_left _ listed)
    cases turn with
    | command => exact faithful_command before
    | data => exact faithful_data before
    | hardware signal => exact faithful_hardware (keeps (.hardware signal) (by simp)) before

/-- The command loop changes STATUS by clearing what it then has in its account. -/
theorem status_command (faithful : t.Faithful) : t.command.status = t.status ∨
    ∃ value, t.command.status = t.status &&& ~~~value ∧
      t.command.polled.written = t.polled.written ++ [value] ∧
      t.command.polled.result = t.polled.result ∧ t.command.polled.Sound := by
  simp only [command]
  split
  · exact .inl rfl
  · obtain ⟨rest, stepped⟩ := faithful.polling.step perform t.bridge
    obtain ⟨acts, sound, -⟩ := Polled.acts_of_stepped faithful.clears faithful.kept.sound stepped
    generalize t.polling.step (Program.noting perform Polled.note) (t.bridge, t.polled) = next
      at acts sound
    simp only [status]
    generalize next.2.1.registers.word Offset.status = after at acts
    cases acts with
    | quiet | read => exact .inl rfl
    | clear value word result written => exact .inr ⟨value, rfl, written, result, sound⟩

/-- A new command is cleared by a pass that has answered it, and by nobody else. -/
theorem answered_of_cleared (faithful : t.Faithful) {turn : Turn} (keeps : turn.KeepsStatus)
    (set : t.status &&& Status.newCommand ≠ 0)
    (clear : (t.turn turn).status &&& Status.newCommand = 0) :
    turn = .command ∧ (t.turn turn).polled.cleared Status.newCommand = true ∧
      ∃ length, t.polled.result = some (.ok length) ∧ Legal length := by
  have single := isFlag_newCommand
  have before := (and_flag_ne_zero_iff single _).1 set
  cases turn with
  | hardware signal =>
    have after := bitsIn_iff.1 (status_hardware keeps t) 0 (by decide) before
    exact absurd clear ((and_flag_ne_zero_iff single _).2 after)
  | data =>
    have same : (t.turn .data).status = t.status := (status_data faithful.pumping).1
    exact absurd (same ▸ clear) set
  | command =>
    rcases status_command faithful with same | ⟨value, after, written, result, sound⟩
    · have same : (t.turn .command).status = t.status := same
      exact absurd (same ▸ clear) set
    · have lost := mt (and_flag_ne_zero_iff single _).2 (not_not.2 clear)
      change ¬bit t.command.status 0 = true at lost
      rw [after, bit_and, bit_not value 0 (by decide), before] at lost
      have own : bit value 0 = true := by simpa using lost
      have listed : value ∈ t.command.polled.written := by simp [written]
      refine ⟨rfl, ?_, ?_⟩
      · exact (Polled.cleared_append single written).trans (by simp [own])
      · rw [← result]
        exact sound.answered value listed ((and_flag_ne_zero_iff single _).2 own)

/-- Whatever the hardware raises between two accesses, no event is cleared unread, and every
completion is told by one pass. -/
theorem events_kept {b : Bridge π} (clears : Offset.status ∈ b.registers.clearOnOne)
    (clear : b.registers.word Offset.status &&& Status.complete = 0) (settings : TransferSettings)
    (c : Commander) (turns : List Turn) (keeps : ∀ turn ∈ turns, turn.KeepsStatus) :
    let t := run turns (start b settings c)
    (∀ poll ∈ t.polls, poll.Faithful) ∧
      (t.polled.Sound ∧
        ∀ word, t.polled.word = some word → BitsIn (t.raised &&& ~~~word) t.status) ∧
      (∀ turn : Turn, turn.KeepsStatus → t.status &&& Status.newCommand ≠ 0 →
        (t.turn turn).status &&& Status.newCommand = 0 →
          turn = .command ∧ (t.turn turn).polled.cleared Status.newCommand = true ∧
            ∃ length, t.polled.result = some (.ok length) ∧ Legal length) ∧
      t.completions = t.polls.countP (·.outcome.completed) +
        (if t.polled.cleared Status.complete then 1 else 0) +
        (if t.status &&& Status.complete = 0 then 0 else 1) := by
  intro t
  have faithful : t.Faithful := faithful_run keeps (faithful_start clears clear settings c)
  have count := faithful.count
  refine ⟨faithful.polls, ⟨faithful.kept.sound, fun word read => faithful.kept.of_unread read⟩,
    fun turn keeps => answered_of_cleared faithful keeps, ?_⟩
  have set := and_flag_ne_zero_iff isFlag_complete t.status
  rw [count, Polled.pending, ← Nat.add_assoc]
  congr 1
  · cases t.polled.cleared Status.complete <;> rfl
  · split
    · rename_i clear
      rw [eq_false_of_ne_true (mt set.2 (not_not.2 clear)), Bool.toNat_false]
    · rename_i still
      rw [set.1 still, Bool.toNat_true]

/-- A command arrives, and a response is reported as sent once the pass has read STATUS. -/
def overlapping : List Turn :=
  [.hardware (.raise Offset.status (Status.newCommand ||| 0xd0000)), .command,
    .hardware (.raise Offset.status Status.complete)] ++ List.replicate 18 .command

theorem events_kept_overlapping :
    let t := run overlapping rehearsal
    t.polls.map (fun poll => (poll.account.written, poll.outcome.completed)) =
        [([Status.newCommand], false), ([Status.complete], true)] ∧
      (∀ poll ∈ t.polls, poll.Faithful) ∧ t.completions = 1 := by
  intro t
  have keeps : ∀ turn ∈ overlapping, turn.KeepsStatus := by decide
  obtain ⟨polls, -, -, count⟩ := events_kept (b := rehearsal.bridge) (by decide +kernel)
    (by decide +kernel) rehearsal.settings { slowCompletion := 50 } overlapping keeps
  refine ⟨by decide +kernel, polls, count.trans (by decide +kernel)⟩

end Traffic
end SdBridge.Bridge
