import SdBridge.Proofs.Card.Dialogue

/-!
The way to the data of a card. The card is powered up, identified, given an address and selected,
in this order; a reset takes it back to the start. Only a selected card hands out data, and whether it
does so over the wide bus was said after the last reset.
-/
namespace SdBridge.Card

namespace Exchange

def carried (x : Exchange) : UInt16 := (x.request.argument >>> 16).toUInt16

def PowersUp (x : Exchange) : Prop :=
  x.isApp = true ∧ x.index = 41 ∧ x.request.argument &&& ocrVoltageWindow ≠ 0 ∧ x.Accepted

def Identifies (x : Exchange) : Prop := x.index = 2 ∧ x.Accepted

/-- The card answers with an address in the upper half of the response. -/
def Publishes (rca : UInt16) (x : Exchange) : Prop :=
  x.index = 3 ∧ ∃ word, x.result = .ok (.short word) ∧ (word >>> 16).toUInt16 = rca

def Selects (rca : UInt16) (x : Exchange) : Prop := x.index = 7 ∧ x.carried = rca ∧ x.Accepted

def Deselects (rca : UInt16) (x : Exchange) : Prop := x.index = 7 ∧ x.carried ≠ rca ∧ x.Accepted

def SetsWidth (wide : Bool) (x : Exchange) : Prop :=
  x.isApp = true ∧ x.index = 6 ∧ x.request.argument &&& 3 = (if wide then 2 else 0) ∧ x.Accepted

/-- The job posted, if one was. A post takes a generation. -/
def posted? (x : Exchange) : Option Job :=
  if x.after.generation = x.before.generation ∧ x.after.posted = x.before.posted then none
  else some x.after.posted.job

structure Stays (x : Exchange) : Prop where
  running : ¬x.Resets
  silent : x.index = 3 → ¬x.Accepted

theorem Publishes.accepted {x : Exchange} {rca : UInt16} (publishes : x.Publishes rca) :
    x.Accepted := by
  obtain ⟨-, word, result, -⟩ := publishes
  exact ⟨_, result⟩

end Exchange

section Past

variable (past : List Exchange)

def PoweredUp : Prop := Since (fun _ x => x.PowersUp) (fun y => ¬y.Resets) past

def Identified : Prop :=
  Since (fun before x => PoweredUp before ∧ x.Identifies) (fun y => ¬y.Resets) past

/-- The last address that the card published since the last reset is this one. -/
def Published (rca : UInt16) : Prop := Since (fun _ x => x.Publishes rca) Exchange.Stays past

/-- The card was identified, and the last address that it published since is this one. -/
def Addressed (rca : UInt16) : Prop :=
  Since (fun before x => Identified before ∧ x.Publishes rca) Exchange.Stays past

/-- The card published its last address, was selected by it and has not been deselected since. -/
def Selected (rca : UInt16) : Prop :=
  Since (fun before x => Addressed before rca ∧ x.Selects rca)
    (fun y => y.Stays ∧ ¬y.Deselects rca) past

/-- The width of the bus was last set to this since the last reset. -/
def Widened (wide : Bool) : Prop :=
  Since (fun _ x => x.SetsWidth wide) (fun y => ¬y.Resets ∧ ∀ other, ¬y.SetsWidth other) past

end Past

theorem Status.condensed_lt (word : UInt32) : (condensed word).toNat < 2 ^ 16 := by
  simp only [condensed, UInt32.toNat_or, UInt32.toNat_and]
  apply Nat.or_lt_two_pow
  · apply Nat.or_lt_two_pow
    · exact Nat.and_lt_two_pow _ (by decide)
    · exact Nat.and_lt_two_pow _ (by decide)
  · exact Nat.and_lt_two_pow _ (by decide)

/-- The address in a response that publishes it. -/
theorem upper_published (rca : UInt16) (word : UInt32) :
    (((rca.toUInt32 <<< 16) ||| Status.condensed word) >>> 16).toUInt16 = rca := by
  have low := Status.condensed_lt word
  have high := rca.toNat_lt
  have shift : (16 : UInt32).toNat % 32 = 16 := by decide
  apply UInt16.toNat_inj.1
  simp only [UInt32.toNat_toUInt16, UInt32.toNat_shiftRight, UInt32.toNat_or, UInt32.toNat_shiftLeft,
    UInt16.toNat_toUInt32, shift, Nat.shiftLeft_eq, Nat.shiftRight_eq_div_pow]
  rw [Nat.mod_eq_of_lt (a := _ * 2 ^ 16) (by omega), Nat.mul_comm,
    ← Nat.two_pow_add_eq_or_of_lt low]
  omega

namespace Commands

theorem nextRca_ne_zero (rca : UInt16) : nextRca rca ≠ 0 := by
  simp only [nextRca]
  split
  · decide
  · assumption

/-- The address changes whenever it is published, wrapped or not. -/
theorem nextRca_ne (rca : UInt16) : nextRca rca ≠ rca := by
  simp only [nextRca]
  split
  · rename_i wrapped
    rintro rfl
    revert wrapped
    decide
  · simp [rcaStep]

end Commands

inductive Exchange.Move (x : Exchange) : State → UInt16 → Bool → Prop where
  | reset (resets : x.Resets) : Move x .idle 0 false
  | powerUp (state : x.before.state = .idle ∨ x.before.state = .ready) (powers : x.PowersUp) :
    Move x .ready x.before.rca x.before.wideBus
  | identify (state : x.before.state = .ready) (identifies : x.Identifies) :
    Move x .ident x.before.rca x.before.wideBus
  | publish {rca : UInt16} (next : Commands.nextRca x.before.rca = rca)
      (state : x.before.state = .ident ∨ x.before.state = .standby) (publishes : x.Publishes rca) :
    Move x .standby rca x.before.wideBus
  | select (state : x.before.state = .standby) (selects : x.Selects x.before.rca) :
    Move x .transfer x.before.rca x.before.wideBus
  | deselect (state : x.before.state = .transfer ∨ x.before.state = .sendingData)
      (index : x.index = 7) : Move x .standby x.before.rca x.before.wideBus
  | width (state : x.before.state = .transfer) (wide : Bool) (sets : x.SetsWidth wide) :
    Move x x.before.state x.before.rca wide
  /-- Data begins or stops to be sent, or the state stays as it is. -/
  | stay {state : State} (same : state = x.before.state ∨
        (state = .transfer ∨ state = .sendingData) ∧
          (x.before.state = .transfer ∨ x.before.state = .sendingData))
      (stays : x.Stays) (width : ∀ wide, ¬x.SetsWidth wide)
      (selected : state = .transfer ∨ state = .sendingData → ¬x.Deselects x.before.rca) :
    Move x state x.before.rca x.before.wideBus

namespace Exchange

variable {x : Exchange} {reply : Reply} {after : Commands}

/-- A command that is not accepted changes none of the three. -/
theorem move_of_not_accepted (refused : ¬x.Accepted) :
    x.Move x.before.state x.before.rca x.before.wideBus := by
  have running : ¬x.Resets := fun resets => refused resets.accepted
  refine .stay (.inl rfl) ⟨running, fun _ => refused⟩ ?_ ?_
  · rintro wide ⟨-, -, -, accepted⟩
    exact refused accepted
  · rintro - ⟨-, -, accepted⟩
    exact refused accepted

/-- Most commands: neither a reset, nor one that publishes or selects. -/
theorem move_of_other (index : x.index ≠ 0 ∧ x.index ≠ 3 ∧ x.index ≠ 7)
    (width : ∀ wide, ¬x.SetsWidth wide) {state : State} (same : state = x.before.state ∨
      (state = .transfer ∨ state = .sendingData) ∧
        (x.before.state = .transfer ∨ x.before.state = .sendingData)) :
    x.Move state x.before.rca x.before.wideBus :=
  .stay same ⟨index.1, fun publishes => absurd publishes index.2.1⟩ width
    fun _ deselects => index.2.2 deselects.1

theorem move_of_accepts (accepts : Commands.Accepts x.request x.before.prepared reply after)
    (result : x.result = .ok reply) (width : ∀ wide, ¬x.SetsWidth wide) :
    x.Move after.state after.rca after.wideBus := by
  have of_index {n : Nat} (index : x.request.command.toNat = n) : x.index = n := index
  cases accepts with
  | reset index => exact .reset index
  | identify index state => exact .identify state ⟨index, _, result⟩
  | address index state =>
    -- Left open, the new address is computed whenever a field of the state is looked at.
    generalize next : Commands.nextRca x.before.prepared.rca = rca at result
    exact .publish next state ⟨index, _, result, upper_published rca _⟩
  | select index state addressed => exact .select state ⟨index, eq_of_beq addressed, _, result⟩
  | deselect index addressed state => exact .deselect state index
  | ignore index foreign unselected begun =>
    simp only [List.mem_cons, List.not_mem_nil, or_false] at index
    have other : x.index ≠ 0 ∧ x.index ≠ 3 := by
      simp only [Exchange.index]
      omega
    refine .stay (.inl rfl) ⟨other.1, fun publishes => absurd publishes other.2⟩ width ?_
    intro selected deselects
    exact (not_or.2 (unselected deselects.1)) selected
  | voltage index | capacity index | identity index | status index | blockLength index
  | otherLength index | announce index =>
    exact move_of_other (by simp [of_index index]) width (.inl rfl)
  | stop index state =>
    exact move_of_other (by simp [of_index index]) width (.inr ⟨.inl rfl, .inr state⟩)
  | outside index | write index =>
    simp only [List.mem_cons, List.not_mem_nil, or_false] at index
    refine move_of_other ?_ width (.inl rfl)
    simp only [Exchange.index]
    omega
  | read index state =>
    simp only [List.mem_cons, List.not_mem_nil, or_false] at index
    refine move_of_other ?_ width (.inr ⟨.inr rfl, .inl state⟩)
    simp only [Exchange.index]
    omega

theorem move_of_acceptsApp (app : x.isApp = true)
    (accepts : Commands.AcceptsApp x.request x.before.prepared reply after)
    (result : x.result = .ok reply) : x.Move after.state after.rca after.wideBus := by
  have of_index {n : Nat} (index : x.request.command.toNat = n) : x.index = n := index
  cases accepts with
  | width index state wideBus field => exact .width state wideBus ⟨app, index, field, _, result⟩
  | operate index state window => exact .powerUp state ⟨app, index, window, _, result⟩
  | status index state | scr index state =>
    refine move_of_other (by simp [of_index index]) ?_ (.inr ⟨.inr rfl, .inl state⟩)
    rintro wide ⟨-, width, -⟩
    simp [of_index index] at width
  | inquire index state =>
    refine move_of_other (by simp [of_index index]) ?_ (.inl rfl)
    rintro wide ⟨-, width, -⟩
    simp [of_index index] at width
  | plain other accepts =>
    refine move_of_accepts accepts result ?_
    rintro wide ⟨-, width, -⟩
    exact other .setBusWidth width

/-- Every exchange is one of these. -/
theorem move (x : Exchange) : x.Move x.after.state x.after.rca x.after.wideBus := by
  have answered := x.answered
  generalize result : x.result = answer at answered
  generalize x.after = after at answered ⊢
  cases answered with
  | plain plain accepts =>
    refine move_of_accepts accepts result ?_
    rintro wide ⟨app, -⟩
    rw [Exchange.isApp, plain] at app
    contradiction
  | app app accepts => exact move_of_acceptsApp app accepts result
  | refused | faulted =>
    apply move_of_not_accepted
    rintro ⟨reply, accepted⟩
    rw [result] at accepted
    contradiction

theorem stays_of_index (running : x.index ≠ 0) (silent : x.index ≠ 3) : x.Stays :=
  ⟨running, fun publishes => absurd publishes silent⟩

section Move

variable {state : State} {rca : UInt16} {wide : Bool}

/-- The address is forgotten by a reset, published, or kept. -/
theorem Move.address (move : x.Move state rca wide) :
    x.Resets ∧ rca = 0 ∨ x.Publishes rca ∧ rca = Commands.nextRca x.before.rca ∨
      x.Stays ∧ rca = x.before.rca := by
  cases move with
  | reset resets => exact .inl ⟨resets, rfl⟩
  | publish next _ publishes => exact .inr (.inl ⟨publishes, next.symm⟩)
  | stay _ stays => exact .inr (.inr ⟨stays, rfl⟩)
  | powerUp _ powers =>
    exact .inr (.inr ⟨stays_of_index (by simp [powers.2.1]) (by simp [powers.2.1]), rfl⟩)
  | identify _ identifies =>
    exact .inr (.inr ⟨stays_of_index (by simp [identifies.1]) (by simp [identifies.1]), rfl⟩)
  | select _ selects =>
    exact .inr (.inr ⟨stays_of_index (by simp [selects.1]) (by simp [selects.1]), rfl⟩)
  | deselect _ index =>
    exact .inr (.inr ⟨stays_of_index (by simp [index]) (by simp [index]), rfl⟩)
  | width _ _ sets =>
    exact .inr (.inr ⟨stays_of_index (by simp [sets.2.1]) (by simp [sets.2.1]), rfl⟩)

/-- The width is forgotten by a reset, set, or kept. -/
theorem Move.bus (move : x.Move state rca wide) :
    x.Resets ∧ wide = false ∨ x.SetsWidth wide ∨
      (¬x.Resets ∧ ∀ other, ¬x.SetsWidth other) ∧ wide = x.before.wideBus := by
  have other {n : Nat} (index : x.index = n) (running : n ≠ 0) (width : n ≠ 6) :
      ¬x.Resets ∧ ∀ other, ¬x.SetsWidth other := by
    constructor
    · rw [Resets, index]
      exact running
    · rintro wide ⟨-, set, -⟩
      exact width (index.symm.trans set)
  cases move with
  | reset resets => exact .inl ⟨resets, rfl⟩
  | width _ _ sets => exact .inr (.inl sets)
  | stay _ stays width => exact .inr (.inr ⟨⟨stays.running, width⟩, rfl⟩)
  | powerUp _ powers => exact .inr (.inr ⟨other powers.2.1 (by simp) (by simp), rfl⟩)
  | identify _ identifies => exact .inr (.inr ⟨other identifies.1 (by simp) (by simp), rfl⟩)
  | publish _ _ publishes => exact .inr (.inr ⟨other publishes.1 (by simp) (by simp), rfl⟩)
  | select _ selects => exact .inr (.inr ⟨other selects.1 (by simp) (by simp), rfl⟩)
  | deselect _ index => exact .inr (.inr ⟨other index (by simp) (by simp), rfl⟩)

end Move
end Exchange

variable {past : List Exchange} {x : Exchange} {state : State} {rca : UInt16} {wide : Bool}

theorem Exchange.Publishes.unique {other : UInt16} (publishes : x.Publishes rca)
    (others : x.Publishes other) : rca = other := by
  obtain ⟨-, word, result, rfl⟩ := publishes
  obtain ⟨-, same, again, rfl⟩ := others
  rw [result] at again
  cases again
  rfl

theorem Addressed.identified (addressed : Addressed past rca) : Identified past := by
  obtain ⟨before, x, after, rfl, ⟨identified, publishes⟩, stays⟩ := addressed
  apply identified.later
  rw [List.forall_mem_cons]
  constructor
  · exact fun resets => absurd (resets.symm.trans publishes.1) (by simp)
  · exact fun y among => (stays y among).running

/-- A card that is selected has its address. -/
theorem Selected.addressed (selected : Selected past rca) : Addressed past rca := by
  obtain ⟨before, x, after, rfl, ⟨addressed, selects⟩, stays⟩ := selected
  apply addressed.later
  rw [List.forall_mem_cons]
  constructor
  · exact Exchange.stays_of_index (by simp [selects.1]) (by simp [selects.1])
  · exact fun y among => (stays y among).1

structure Reached (past : List Exchange) (state : State) (rca : UInt16) (wide : Bool) : Prop where
  addressed : state = .standby ∨ state = .transfer ∨ state = .sendingData ↔ rca ≠ 0
  ready : state = .ready → PoweredUp past
  ident : state = .ident → Identified past
  standby : state = .standby → Addressed past rca
  selected : state = .transfer ∨ state = .sendingData → Selected past rca
  published : ∀ other, Published past other → rca = other
  wide : wide = true → Widened past true

theorem reached_fresh : Reached [] .idle 0 false where
  addressed := by simp
  ready := nofun
  ident := nofun
  standby := nofun
  selected := by simp
  published _ found := absurd found not_since_nil
  wide := nofun

/-- The end of the data is no exchange. -/
theorem Reached.finish (reached : Reached past .sendingData rca wide) :
    Reached past .transfer rca wide :=
  { reached with
    addressed := by simpa using reached.addressed
    ready := nofun
    ident := nofun
    standby := nofun
    selected := fun _ => reached.selected (.inr rfl) }

theorem Reached.published_next
    (reached : Reached past x.before.state x.before.rca x.before.wideBus)
    (move : x.Move state rca wide) (other : UInt16) (found : Published (past ++ [x]) other) :
    rca = other := by
  rcases move.address with ⟨resets, -⟩ | ⟨publishes, -⟩ | ⟨stays, rfl⟩
  · rcases since_append.1 found with publishes | ⟨-, stays⟩
    · exact absurd (resets.symm.trans publishes.1) (by simp)
    · exact absurd resets stays.running
  · rcases since_append.1 found with others | ⟨-, stays⟩
    · exact publishes.unique others
    · exact absurd publishes.accepted (stays.silent publishes.1)
  · rcases since_append.1 found with publishes | ⟨before, -⟩
    · exact absurd publishes.accepted (stays.silent publishes.1)
    · exact reached.published other before

theorem Reached.wide_next (reached : Reached past x.before.state x.before.rca x.before.wideBus)
    (move : x.Move state rca wide) (on : wide = true) : Widened (past ++ [x]) true := by
  rcases move.bus with ⟨-, rfl⟩ | sets | ⟨others, rfl⟩
  · contradiction
  · rw [on] at sets
    exact since_append.2 (.inl sets)
  · exact since_append.2 (.inr ⟨reached.wide on, others⟩)

theorem Reached.stay (reached : Reached past x.before.state x.before.rca x.before.wideBus)
    (move : x.Move state x.before.rca wide) (same : state = x.before.state ∨
      (state = .transfer ∨ state = .sendingData) ∧
        (x.before.state = .transfer ∨ x.before.state = .sendingData))
    (stays : x.Stays)
    (selected : state = .transfer ∨ state = .sendingData → ¬x.Deselects x.before.rca) :
    Reached (past ++ [x]) state x.before.rca wide := by
  refine ⟨?_, fun now => ?_, fun now => ?_, fun now => ?_, fun now => ?_,
    reached.published_next move, reached.wide_next move⟩
  · rw [← reached.addressed]
    rcases same with rfl | ⟨data, before⟩
    · exact Iff.rfl
    · simp [data, before]
  · exact since_append.2 (.inr ⟨reached.ready (by simp_all), stays.running⟩)
  · exact since_append.2 (.inr ⟨reached.ident (by simp_all), stays.running⟩)
  · exact since_append.2 (.inr ⟨reached.standby (by simp_all), stays⟩)
  · refine since_append.2 (.inr ⟨reached.selected ?_, stays, selected now⟩)
    rcases same with rfl | ⟨-, before⟩
    · exact now
    · exact before

theorem Reached.next (reached : Reached past x.before.state x.before.rca x.before.wideBus)
    (move : x.Move state rca wide) : Reached (past ++ [x]) state rca wide := by
  have published := reached.published_next move
  have width := reached.wide_next move
  cases move with
  | reset resets => exact ⟨by simp, nofun, nofun, nofun, by simp, published, width⟩
  | powerUp state powers =>
    have none := reached.addressed
    refine ⟨?_, fun _ => since_append.2 (.inl powers), nofun, nofun, by simp, published, width⟩
    rcases state with state | state <;> simpa [state] using none
  | identify state identifies =>
    have none := reached.addressed
    refine ⟨?_, nofun, fun _ => since_append.2 (.inl ⟨reached.ready state, identifies⟩), nofun,
      by simp, published, width⟩
    simpa [state] using none
  | publish next state publishes =>
    have identified : Identified past := by
      rcases state with ident | standby
      · exact reached.ident ident
      · exact (reached.standby standby).identified
    refine ⟨?_, nofun, nofun, fun _ => since_append.2 (.inl ⟨identified, publishes⟩), by simp,
      published, width⟩
    simpa [← next] using Commands.nextRca_ne_zero _
  | select state selects =>
    refine ⟨?_, nofun, nofun, nofun, fun _ => ?_, published, width⟩
    · simpa [state] using reached.addressed
    · exact since_append.2 (.inl ⟨reached.standby state, selects⟩)
  | deselect state index =>
    have stays := Exchange.stays_of_index (x := x) (by simp [index]) (by simp [index])
    have before := reached.selected state
    refine ⟨?_, nofun, nofun, fun _ => since_append.2 (.inr ⟨before.addressed, stays⟩), by simp,
      published, width⟩
    have some := reached.addressed
    rcases state with state | state <;> simpa [state] using some
  | width state wide sets =>
    have stays := Exchange.stays_of_index (x := x) (by simp [sets.2.1]) (by simp [sets.2.1])
    refine reached.stay (.width state wide sets) (.inl rfl) stays ?_
    rintro - ⟨index, -⟩
    simp [sets.2.1] at index
  | stay same stays others selected =>
    exact reached.stay (.stay same stays others selected) same stays selected

/-- Data begins to be sent, or goes on, by a card that was selected. -/
theorem Exchange.Move.sending (move : x.Move state rca wide) (sending : state = .sendingData) :
    x.before.state = .transfer ∨ x.before.state = .sendingData := by
  cases move with
  | width before => exact .inl before
  | stay same =>
    rcases same with rfl | ⟨-, before⟩
    · exact .inr sending
    · exact before
  | _ => contradiction

theorem Exchange.effect (x : Exchange) :
    Commands.Effect (Commands.jobOf x.isApp x.before.wideBus x.request) x.before x.after :=
  Commands.effect_of_answer rfl

/-- Only a job with bytes to hand out begins to send data. -/
theorem Exchange.state_of_posted {job : Job} (posted : x.posted? = some job) (some : job ≠ .idle) :
    x.after.state = .sendingData := by
  have posting := x.effect.posting
  rw [posted?] at posted
  generalize x.after = after at posting posted ⊢
  cases posting with
  | nothing same generation => simp [same, generation] at posted
  | posts ticket _ fits _ state =>
    apply state.2
    split at posted
    · contradiction
    · cases posted
      rwa [ticket, Ticket.job_pack _ _ fits] at some

namespace Dialogue

variable {β : Type} [Image.Store β]

theorem reached_run (image : β) (identity : Identity) (turns : List Turn) :
    Reached (run image identity turns).exchanges (run image identity turns).commands.state
        (run image identity turns).commands.rca (run image identity turns).commands.wideBus ∧
      ∀ k x, (run image identity turns).exchanges[k]? = some x →
        Reached ((run image identity turns).exchanges.take k) x.before.state x.before.rca
          x.before.wideBus := by
  refine @holds_run _ _ (fun past c => Reached past c.state c.rca c.wideBus) image identity
    reached_fresh ?_ ?_ turns
  · intro past c finished reached
    simp only [Commands.sync]
    split
    · rename_i done
      rw [done.1] at reached
      exact reached.finish
    · exact reached
  · intro past c request reached
    exact reached.next (x := ⟨request, c⟩) (Exchange.move _)

/-- Only a card that was powered up, identified, given an address and selected by it posts jobs with
bytes to hand out. -/
theorem selected_before_data (image : β) (identity : Identity) (turns : List Turn) :
    let d := run image identity turns
    (d.commands.state ∈ [.standby, .transfer, .sendingData] ↔ d.commands.rca ≠ 0) ∧
      (d.commands.wideBus = true → Widened d.exchanges true) ∧
      ∀ k x, d.exchanges[k]? = some x →
        (∀ job, x.posted? = some job → job ≠ .idle → ∃ rca, Selected (d.exchanges.take k) rca) ∧
          (x.index = 3 → x.Accepted → ∃ rca, x.Publishes rca ∧ rca ≠ 0 ∧ rca ≠ x.before.rca ∧
            ∀ earlier, Published (d.exchanges.take k) earlier → rca ≠ earlier) := by
  intro d
  obtain ⟨now, past⟩ := reached_run image identity turns
  refine ⟨by simpa using now.addressed, now.wide, fun k x listed => ⟨?_, ?_⟩⟩
  · intro job posted some
    exact ⟨_, (past k x listed).selected (x.move.sending (Exchange.state_of_posted posted some))⟩
  · intro index accepted
    rcases x.move.address with ⟨resets, -⟩ | ⟨publishes, next⟩ | ⟨stays, -⟩
    · exact absurd (resets.symm.trans index) (by simp)
    · have other : x.after.rca ≠ x.before.rca := by
        rw [next]
        exact Commands.nextRca_ne _
      refine ⟨_, publishes, ?_, other, fun earlier found => ?_⟩
      · rw [next]
        exact Commands.nextRca_ne_zero _
      · rwa [← (past k x listed).published earlier found]
    · exact absurd accepted (stays.silent index)

/-- A card is identified and publishes a second address, is selected by it, is told to use the wide
bus and to read a sector. -/
def wideRead : List Turn :=
  let command (index : UInt8) (argument : UInt32) : List Turn :=
    [.sync ⟨index, argument, 0⟩, .answer]
  let rca : UInt32 := 0x8ace0000
  command 55 0 ++ command 41 Card.ocrVoltageWindow ++ command 2 0 ++ command 3 0 ++ command 3 0 ++
    command 7 rca ++ command 55 rca ++ command 6 2 ++ command 17 0

theorem selected_before_data_wideRead :
    let d := run Handshake.blank {} wideRead
    d.commands.rca ≠ 0 ∧ Widened d.exchanges true ∧ (∃ rca, Selected (d.exchanges.take 8) rca) ∧
      ∃ x, d.exchanges[4]? = some x ∧ ∃ rca, x.Publishes rca ∧ rca ≠ 0x4567 := by
  intro d
  obtain ⟨addressed, wide, each⟩ := selected_before_data Handshake.blank {} wideRead
  have first : (d.exchanges[3]?.map fun x => (x.index, x.result)) =
      some (3, .ok (.short 0x45670500)) := by decide +kernel
  have second : (d.exchanges[4]?.map fun x => (x.index, x.result)) =
      some (3, .ok (.short 0x8ace0700)) := by decide +kernel
  have read : (d.exchanges[8]?.map fun x => x.posted?) = some (some (.readBlock 0)) := by
    decide +kernel
  refine ⟨addressed.1 (by decide +kernel), wide (by decide +kernel), ?_, ?_⟩
  · obtain ⟨x, listed, posted⟩ := Option.map_eq_some_iff.1 read
    exact (each 8 x listed).1 _ posted (by simp)
  · obtain ⟨x, listed, same⟩ := Option.map_eq_some_iff.1 first
    obtain ⟨y, next, again⟩ := Option.map_eq_some_iff.1 second
    rw [Prod.mk.injEq] at same again
    have published : Published (d.exchanges.take 4) 0x4567 := by
      rw [List.take_add_one, listed]
      exact since_append.2 (.inl ⟨same.1, _, same.2, by decide⟩)
    obtain ⟨rca, publishes, -, -, other⟩ := (each 4 y next).2 again.1 ⟨_, again.2⟩
    exact ⟨y, next, rca, publishes, other _ published⟩

end Dialogue
end SdBridge.Card
