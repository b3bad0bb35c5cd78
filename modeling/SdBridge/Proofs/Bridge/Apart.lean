import Mathlib.Data.List.Induction
import SdBridge.Proofs.Bridge.Footprint
import SdBridge.Proofs.Program.Account
import SdBridge.Rehearsal.Engine

/-!
The two loops side by side. No lock guards the registers: each loop has registers of its own, and all
that the data loop sees of the other is the flag around a dispatch, which is down between two passes.
Over a protocol engine whose halves share nothing, passes in any order do to the side of each loop
what the passes of that loop do alone.
-/
namespace SdBridge.Bridge

/-- A protocol engine whose halves share nothing, with a record of what was asked of each. -/
structure Halves (π σ : Type) where
  responder : π
  source : σ
  requests : List Request := []
  bytes : List UInt8 := []

variable {π σ : Type}

instance [Responder π] : Responder (Halves π σ) where
  dispatch request response h :=
    let a := Responder.dispatch request response h.responder
    ⟨a.result, a.response, { h with responder := a.state, requests := h.requests ++ [request] }⟩
  takeBlockRequest h :=
    let (block, responder) := Responder.takeBlockRequest h.responder
    (block, { h with responder })

instance [ByteSource σ] : ByteSource (Halves π σ) where
  dataReady h := (ByteSource.dataReady h.source).inside fun source => { h with source }
  nextByte h :=
    let taken := ByteSource.nextByte h.source
    taken.inside fun source =>
      { h with source, bytes := h.bytes ++ taken.answer.toOption.toList }

structure SameCommands (b b' : Bridge (Halves π σ)) : Prop where
  registers : b.registers.Agree commandRegisters b'.registers
  responder : b.engine.responder = b'.engine.responder
  requests : b.engine.requests = b'.engine.requests
  ring : b.ring = b'.ring
  clock : b.clock = b'.clock

/-- Two bridges that are the same to the data loop, but for the flag around a dispatch. -/
structure SameData (b b' : Bridge (Halves π σ)) : Prop where
  registers : b.registers.Agree dataRegisters b'.registers
  buffer : b.buffer = b'.buffer
  source : b.engine.source = b'.engine.source
  bytes : b.engine.bytes = b'.engine.bytes
  log : b.log = b'.log

namespace SameCommands

variable {b b' b'' : Bridge (Halves π σ)}

theorem refl (b : Bridge (Halves π σ)) : SameCommands b b := ⟨.refl .., rfl, rfl, rfl, rfl⟩

theorem symm (same : SameCommands b b') : SameCommands b' b :=
  ⟨same.registers.symm, same.responder.symm, same.requests.symm, same.ring.symm, same.clock.symm⟩

theorem trans (first : SameCommands b b') (second : SameCommands b' b'') : SameCommands b b'' :=
  ⟨first.registers.trans second.registers, first.responder.trans second.responder,
    first.requests.trans second.requests, first.ring.trans second.ring,
    first.clock.trans second.clock⟩

end SameCommands

namespace SameData

variable {b b' b'' : Bridge (Halves π σ)}

theorem refl (b : Bridge (Halves π σ)) : SameData b b := ⟨.refl .., rfl, rfl, rfl, rfl⟩

theorem symm (same : SameData b b') : SameData b' b :=
  ⟨same.registers.symm, same.buffer.symm, same.source.symm, same.bytes.symm, same.log.symm⟩

theorem trans (first : SameData b b') (second : SameData b' b'') : SameData b b'' :=
  ⟨first.registers.trans second.registers, first.buffer.trans second.buffer,
    first.source.trans second.source, first.bytes.trans second.bytes, first.log.trans second.log⟩

end SameData

section Accesses

variable [Responder π] [ByteSource σ] {access : Access} {b b' : Bridge (Halves π σ)}

/-- An access of the command loop does the same to bridges that are the same to it. -/
theorem commands_congr (of : OfCommands access) (same : SameCommands b b') :
    (perform access b).1 = (perform access b').1 ∧
      SameCommands (perform access b).2 (perform access b').2 := by
  obtain ⟨registers, responder, requests, ring, clock⟩ := same
  cases access with
  | readRegister offset =>
    obtain ⟨answer, after⟩ := registers.read of
    exact ⟨answer, after, responder, requests, ring, clock⟩
  | writeRegister offset value =>
    obtain ⟨answer, after⟩ := registers.write of value
    exact ⟨answer, after, responder, requests, ring, clock⟩
  | setInFlight raised => exact ⟨rfl, registers, responder, requests, ring, clock⟩
  | dispatch request response =>
    simp only [perform, dispatched, Responder.dispatch, responder]
    rcases (Responder.dispatch request response b'.engine.responder).result with
      (cause | fault) | length
    all_goals
      exact ⟨rfl, registers, rfl, congrArg (· ++ [request]) requests, ring, clock⟩
  | takeBlockRequest =>
    refine ⟨?_, registers, ?_, requests, ring, clock⟩
    · simp only [perform, Responder.takeBlockRequest, responder]
    · simp only [perform, Responder.takeBlockRequest, responder]
  | clock =>
    refine ⟨?_, registers, responder, requests, ring, ?_⟩
    · simp only [perform, clock]
    · simp only [perform, clock]
  | publish record =>
    refine ⟨?_, registers, responder, requests, ?_, clock⟩
    · simp only [perform, ring]
    · simp only [perform, ring]
  | writeBuffer offset value | inFlight | dataReady | nextByte | log entry | stopRequested
  | sleep time => exact of.elim

/-- An access of the data loop does the same to bridges that are the same to it, flag included. -/
theorem data_congr (of : OfData access)
    (same : SameData b b' ∧ b.inFlight = b'.inFlight) :
    (perform access b).1 = (perform access b').1 ∧
      SameData (perform access b).2 (perform access b').2 ∧
        (perform access b).2.inFlight = (perform access b').2.inFlight := by
  obtain ⟨⟨registers, buffer, source, bytes, log⟩, flag⟩ := same
  cases access with
  | readRegister offset =>
    obtain ⟨answer, after⟩ := registers.read of
    exact ⟨answer, ⟨after, buffer, source, bytes, log⟩, flag⟩
  | writeRegister offset value =>
    obtain ⟨answer, after⟩ := registers.write of value
    exact ⟨answer, ⟨after, buffer, source, bytes, log⟩, flag⟩
  | inFlight => exact ⟨congrArg Except.ok flag, ⟨registers, buffer, source, bytes, log⟩, flag⟩
  | dataReady =>
    simp only [perform, served, ByteSource.dataReady, Served.inside, source, log]
    exact ⟨trivial, ⟨registers, buffer, rfl, bytes, rfl⟩, flag⟩
  | nextByte =>
    simp only [perform, served, ByteSource.nextByte, Served.inside, source, bytes, log]
    exact ⟨trivial, ⟨registers, buffer, rfl, rfl, rfl⟩, flag⟩
  | writeBuffer offset value =>
    simp only [perform, buffer]
    exact ⟨trivial, ⟨registers, rfl, source, bytes, log⟩, flag⟩
  | log entry =>
    exact ⟨rfl, ⟨registers, buffer, source, bytes, congrArg (·.push entry) log⟩, flag⟩
  | setInFlight raised | dispatch request response | takeBlockRequest | clock | publish record
  | stopRequested | sleep time => exact of.elim

/-- The data loop does not see the accesses of the command loop. -/
theorem data_of_commands (of : OfCommands access) : SameData b (perform access b).2 := by
  cases access with
  | readRegister offset => exact ⟨.of_read .., rfl, rfl, rfl, rfl⟩
  | writeRegister offset value =>
    have apart (other : Nat) (listed : other ∈ dataRegisters) : other / 4 ≠ offset / 4 :=
      (apart_of_registers of listed).symm
    exact ⟨.of_write apart .., rfl, rfl, rfl, rfl⟩
  | dispatch request response =>
    simp only [perform, dispatched]
    split <;> exact ⟨.refl .., rfl, rfl, rfl, rfl⟩
  | setInFlight raised | takeBlockRequest | clock | publish record =>
    exact ⟨.refl .., rfl, rfl, rfl, rfl⟩
  | writeBuffer offset value | inFlight | dataReady | nextByte | log entry | stopRequested
  | sleep time => exact of.elim

/-- The command loop does not see the accesses of the data loop, and they leave the flag alone. -/
theorem commands_of_data (of : OfData access) :
    SameCommands b (perform access b).2 ∧ (perform access b).2.inFlight = b.inFlight := by
  cases access with
  | readRegister offset => exact ⟨⟨.of_read .., rfl, rfl, rfl, rfl⟩, rfl⟩
  | writeRegister offset value =>
    have apart (other : Nat) (listed : other ∈ commandRegisters) : other / 4 ≠ offset / 4 :=
      apart_of_registers listed of
    exact ⟨⟨.of_write apart .., rfl, rfl, rfl, rfl⟩, rfl⟩
  | inFlight | dataReady | nextByte | writeBuffer offset value | log entry =>
    exact ⟨⟨.refl .., rfl, rfl, rfl, rfl⟩, rfl⟩
  | setInFlight raised | dispatch request response | takeBlockRequest | clock | publish record
  | stopRequested | sleep time => exact of.elim

end Accesses

/-- The flag around a dispatch, as the accesses of a pass leave it. -/
def flagged : (access : Access) → Access.Answer access → Bool → Bool
  | .setInFlight raised, _, _ => raised
  | _, _, flag => flag

theorem conducts_quiet {α : Type} {p : Loop α} (quiet : p.Within Quiet) (flag : Bool) :
    p.Conducts flagged (fun _ _ => True) (fun flag' _ => flag' = flag) flag := by
  refine Program.conducts_of_within quiet fun access of => ⟨trivial, fun answer => ?_⟩
  cases access with
  | setInFlight raised => exact of.elim
  | _ => rfl

/-- A pass of the command loop raises the flag before a dispatch and lowers it after. -/
theorem Commander.lowers_poll (c : Commander) :
    c.poll.Conducts flagged (fun _ _ => True) (fun flag _ => flag = false) false := by
  rw [poll_eq]
  refine Program.conducts_access_bind fun word => ⟨trivial, ?_⟩
  dsimp only
  split
  · refine Program.conducts_access_bind fun seen => ⟨trivial, ?_⟩
    have exchanged : (c.exchange ⟨word⟩).Conducts flagged (fun _ _ => True)
        (fun flag _ => flag = false) false := by
      rw [exchange_eq]
      refine Program.conducts_access_bind fun argument => ⟨trivial, ?_⟩
      refine Program.conducts_access_bind fun _ => ⟨trivial, ?_⟩
      refine Program.conducts_access_bind fun (result, response) => ⟨trivial, ?_⟩
      refine Program.conducts_access_bind fun _ => ⟨trivial, ?_⟩
      exact conducts_quiet (Program.within_mono quiet_of_aside (aside_conclude ..)) false
    refine Program.conducts_bind exchanged ?_
    rintro _ ⟨done, answered, c⟩ rfl
    refine conducts_quiet (Program.within_bind ?_ fun _ => ?_) false
    · exact Program.within_mono quiet_of_aside (aside_acknowledge _)
    · exact Program.within_mono quiet_of_telling (telling_report ..)
  · exact conducts_quiet (Program.within_mono quiet_of_aside (aside_idle ..)) false

structure Rounds (ρ : Type) where
  bridge : Bridge ρ
  commander : Commander
  settings : TransferSettings := {}
  outcomes : List (Except Fault Outcome) := []
  transfers : List (Except Fault Transfer) := []

namespace Rounds

inductive Call where
  | poll
  | pump
  deriving DecidableEq

section Passes

variable {ρ : Type} [Responder ρ] [ByteSource ρ]

def polled (r : Rounds ρ) : Except Fault (Outcome × Commander) × Bridge ρ :=
  r.commander.poll.run perform r.bridge

def pumped (r : Rounds ρ) : Except Fault Transfer × Bridge ρ :=
  (Transfer.pump r.settings).run perform r.bridge

def call (r : Rounds ρ) : Call → Rounds ρ
  | .poll =>
    { r with
      bridge := r.polled.2
      commander :=
        match r.polled.1 with
        | .ok (_, c) => c
        | .error _ => r.commander
      outcomes := r.outcomes ++ [r.polled.1.map (·.1)] }
  | .pump => { r with bridge := r.pumped.2, transfers := r.transfers ++ [r.pumped.1] }

def run (calls : List Call) (r : Rounds ρ) : Rounds ρ := calls.foldl call r

theorem run_append (calls : List Call) (call : Call) (r : Rounds ρ) :
    run (calls ++ [call]) r = (run calls r).call call := by
  simp [run, List.foldl_append]

end Passes

structure LikeCommands (r r' : Rounds (Halves π σ)) : Prop where
  bridge : SameCommands r.bridge r'.bridge
  commander : r.commander = r'.commander
  outcomes : r.outcomes = r'.outcomes

structure LikeData (r r' : Rounds (Halves π σ)) : Prop where
  bridge : SameData r.bridge r'.bridge
  settings : r.settings = r'.settings
  transfers : r.transfers = r'.transfers

variable {r r' r'' : Rounds (Halves π σ)}

theorem LikeCommands.symm (like : LikeCommands r r') : LikeCommands r' r :=
  ⟨like.bridge.symm, like.commander.symm, like.outcomes.symm⟩

theorem LikeCommands.trans (first : LikeCommands r r') (second : LikeCommands r' r'') :
    LikeCommands r r'' :=
  ⟨first.bridge.trans second.bridge, first.commander.trans second.commander,
    first.outcomes.trans second.outcomes⟩

theorem LikeData.symm (like : LikeData r r') : LikeData r' r :=
  ⟨like.bridge.symm, like.settings.symm, like.transfers.symm⟩

theorem LikeData.trans (first : LikeData r r') (second : LikeData r' r'') : LikeData r r'' :=
  ⟨first.bridge.trans second.bridge, first.settings.trans second.settings,
    first.transfers.trans second.transfers⟩

variable [Responder π] [ByteSource σ]

theorem polled_congr (like : LikeCommands r r') :
    r.polled.1 = r'.polled.1 ∧ SameCommands r.polled.2 r'.polled.2 := by
  rw [polled, polled, like.commander]
  have each (access : Access) (b b' : Bridge (Halves π σ)) (of : OfCommands access)
      (same : SameCommands b b') := commands_congr of same
  exact Program.run_congr each (Commander.ofCommands_poll r'.commander) like.bridge

theorem pumped_congr (like : LikeData r r') (flag : r.bridge.inFlight = r'.bridge.inFlight) :
    r.pumped.1 = r'.pumped.1 ∧ SameData r.pumped.2 r'.pumped.2 := by
  rw [pumped, pumped, like.settings]
  have each (access : Access) (b b' : Bridge (Halves π σ)) (of : OfData access)
      (same : SameData b b' ∧ b.inFlight = b'.inFlight) := data_congr of same
  obtain ⟨result, after, -⟩ :=
    Program.run_congr each (Transfer.ofData_pump r'.settings) ⟨like.bridge, flag⟩
  exact ⟨result, after⟩

/-- A pass of the command loop does the same to states that are the same to it. -/
theorem commands_poll (like : LikeCommands r r') : LikeCommands (r.call .poll) (r'.call .poll) := by
  obtain ⟨result, after⟩ := polled_congr like
  refine ⟨after, ?_, ?_⟩
  · simp only [call, result, like.commander]
  · simp only [call, result, like.outcomes]

theorem data_pump (like : LikeData r r') (flag : r.bridge.inFlight = r'.bridge.inFlight) :
    LikeData (r.call .pump) (r'.call .pump) := by
  obtain ⟨result, after⟩ := pumped_congr like flag
  refine ⟨after, like.settings, ?_⟩
  simp only [call, result, like.transfers]

/-- The data loop does not see a pass of the command loop. -/
theorem data_poll (r : Rounds (Halves π σ)) : LikeData r (r.call .poll) := by
  refine ⟨?_, rfl, rfl⟩
  have each (access : Access) (b : Bridge (Halves π σ)) (of : OfCommands access)
      (before : SameData r.bridge b) : SameData r.bridge (perform access b).2 :=
    before.trans (data_of_commands of)
  exact Program.run_keeps each (Commander.ofCommands_poll r.commander) (SameData.refl r.bridge)

/-- The command loop does not see a pass of the data loop, and the flag stays as it is. -/
theorem commands_pump (r : Rounds (Halves π σ)) :
    LikeCommands r (r.call .pump) ∧ (r.call .pump).bridge.inFlight = r.bridge.inFlight := by
  have each (access : Access) (b : Bridge (Halves π σ)) (of : OfData access)
      (before : SameCommands r.bridge b ∧ b.inFlight = r.bridge.inFlight) :
      SameCommands r.bridge (perform access b).2 ∧
        (perform access b).2.inFlight = r.bridge.inFlight := by
    obtain ⟨same, flag⟩ := commands_of_data (b := b) of
    exact ⟨before.1.trans same, flag.trans before.2⟩
  obtain ⟨same, flag⟩ :=
    Program.run_keeps each (Transfer.ofData_pump r.settings) ⟨SameCommands.refl r.bridge, rfl⟩
  exact ⟨⟨same, rfl, rfl⟩, flag⟩

theorem inFlight_of_polled (calm : r.bridge.inFlight = false) {ended : Outcome × Commander}
    (returned : r.polled.1 = .ok ended) : r.polled.2.inFlight = false := by
  have tracks (access : Access) (b : Bridge (Halves π σ)) (answer : access.Answer)
      (b' : Bridge (Halves π σ)) (performed : perform access b = (.ok answer, b')) :
      b'.inFlight = flagged access answer b.inFlight := by
    have after : b' = (perform access b).2 := by rw [performed]
    rw [after]
    cases access with
    | dispatch request response =>
      simp only [perform, dispatched]
      split <;> rfl
    | _ => rfl
  have lowers : r.commander.poll.Conducts flagged (fun _ _ => True) (fun flag _ => flag = false)
      r.bridge.inFlight := by
    rw [calm]
    exact r.commander.lowers_poll
  exact lowers.of_run tracks (Prod.ext returned rfl)

/-- Passes in any order do to the side of each loop what the passes of that loop do alone. -/
theorem like_alone (calm : r.bridge.inFlight = false) {calls : List Call}
    (returns : ∀ result ∈ (run (calls.filter (· = .poll)) r).outcomes,
      ∃ outcome, result = .ok outcome) :
    LikeCommands (run calls r) (run (calls.filter (· = .poll)) r) ∧
      LikeData (run calls r) (run (calls.filter (· = .pump)) r) ∧
      (run calls r).bridge.inFlight = false ∧
      (run (calls.filter (· = .pump)) r).bridge.inFlight = false := by
  -- Induction on the last call: its own side goes along with it, and the other side does not see it.
  induction calls using List.reverseRecOn with
  | nil => exact ⟨⟨.refl _, rfl, rfl⟩, ⟨.refl _, rfl, rfl⟩, calm, calm⟩
  | append_singleton calls call before =>
    rw [List.filter_append] at returns ⊢
    rw [List.filter_append, run_append]
    cases call with
    | poll =>
      have polls : [Call.poll].filter (· = .poll) = [.poll] := rfl
      have pumps : [Call.poll].filter (· = .pump) = [] := rfl
      rw [polls, run_append] at returns
      rw [polls, pumps, run_append, List.append_nil]
      obtain ⟨commands, data, flag, alone⟩ :=
        before fun result listed => returns result (List.mem_append_left _ listed)
      obtain ⟨ended, returned⟩ := returns _ (List.mem_append_right _ (List.mem_singleton.2 rfl))
      refine ⟨commands_poll commands, (data_poll _).symm.trans data, ?_, alone⟩
      -- The pass returned alone, so it returned here, and lowered the flag.
      rw [← (polled_congr commands).1] at returned
      rcases result : (run calls r).polled.1 with fault | out
      · rw [result] at returned
        cases returned
      · exact inFlight_of_polled flag result
    | pump =>
      have polls : [Call.pump].filter (· = .poll) = [] := rfl
      have pumps : [Call.pump].filter (· = .pump) = [.pump] := rfl
      rw [polls, List.append_nil] at returns
      rw [polls, pumps, run_append, List.append_nil]
      obtain ⟨commands, data, flag, alone⟩ := before returns
      obtain ⟨same, kept⟩ := commands_pump (run calls r)
      refine ⟨same.symm.trans commands, data_pump data (flag.trans alone.symm), kept.trans flag, ?_⟩
      exact (commands_pump _).2.trans alone

/-- Over an engine whose halves share nothing, passes of both loops do to the side of each what its
own passes do alone. -/
theorem loops_apart (calm : r.bridge.inFlight = false) (calls : List Call)
    (returns : ∀ result ∈ (run (calls.filter (· = .poll)) r).outcomes,
      ∃ outcome, result = .ok outcome) :
    LikeCommands (run calls r) (run (calls.filter (· = .poll)) r) ∧
      LikeData (run calls r) (run (calls.filter (· = .pump)) r) ∧
      (run calls r).bridge.inFlight = false ∧
      ∀ other : List Call, other.Perm calls →
        LikeCommands (run other r) (run calls r) ∧ LikeData (run other r) (run calls r) := by
  obtain ⟨commands, data, flag, -⟩ := like_alone calm returns
  refine ⟨commands, data, flag, fun other perm => ?_⟩
  have own (call : Call) : other.filter (· = call) = calls.filter (· = call) := by
    rw [List.filter_eq, List.filter_eq, perm.count_eq]
  rw [← own] at commands data returns
  obtain ⟨commands', data', -⟩ := like_alone calm returns
  exact ⟨commands'.trans commands.symm, data'.trans data.symm⟩

def sideBySide : Rounds (Halves Rehearsal.Engine Rehearsal.Engine) where
  bridge := {
    registers := {
      words := #[0, Status.newCommand ||| 0xd0000, 0, 0, 0, 0, 0, 0], clearOnOne := [Offset.status] }
    buffer := { words := Array.replicate 129 0 }
    engine := {
      responder := { manner := .echo 4 none }
      source := { manner := .echo 4 none, bursts := [[1, 2, 3, 4]] } }
    ring := { shared := { slots := Array.replicate 2 .empty } } }
  commander := { slowCompletion := 50 }

theorem loops_apart_sideBySide :
    let joint := run [.pump, .poll, .pump, .poll] sideBySide
    joint.bridge.engine.requests.length = 1 ∧ joint.bridge.engine.bytes = [1, 2, 3, 4] ∧
      LikeCommands joint (run [.poll, .poll] sideBySide) ∧
      LikeData joint (run [.pump, .pump] sideBySide) ∧
      LikeCommands (run [.poll, .poll, .pump, .pump] sideBySide) joint := by
  intro joint
  have returned : ∀ result ∈ (run [.poll, .poll] sideBySide).outcomes,
      ∃ outcome, result = .ok outcome := by
    have each : ∀ result ∈ (run [.poll, .poll] sideBySide).outcomes, result.isOk := by
      decide +kernel
    intro result listed
    cases result with
    | ok outcome => exact ⟨outcome, rfl⟩
    | error fault => cases each _ listed
  obtain ⟨commands, data, -, any⟩ := loops_apart rfl [.pump, .poll, .pump, .poll] returned
  exact ⟨by decide +kernel, by decide +kernel, commands, data, (any _ (by decide)).1⟩

end Rounds
end SdBridge.Bridge
