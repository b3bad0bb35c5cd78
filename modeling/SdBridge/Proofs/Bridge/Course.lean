import Mathlib.Data.List.Induction
import SdBridge.Proofs.Bridge.Bounds
import SdBridge.Proofs.Bridge.Footprint
import SdBridge.Proofs.Bridge.Traffic
import SdBridge.Proofs.Bridge.Transcript

/-!
Whole passes of the command loop, one after the other, over any protocol engine. Between two passes
the hardware drives its registers, and the consumer of the events goes on at its own pace.
-/
namespace SdBridge.Bridge

structure Pass where
  outcome : Outcome
  accesses : List Access

structure Course (π : Type) where
  bridge : Bridge π
  commander : Commander
  passes : List Pass := []
  /-- The fault that a pass ran into, and what the pass did before. No pass follows it. -/
  fault : Option (Fault × List Access) := none

namespace Course

inductive Act where
  | hardware (signal : Signal)
  | poll
  | take
  | release (taken : Event.Ring.Taken)

variable {π : Type} [Responder π] [ByteSource π]

def poll (t : Course π) : Course π :=
  match t.fault with
  | some _ => t
  | none =>
    match t.commander.poll.run transcribed (t.bridge, []) with
    | (.ok (outcome, commander), bridge, accesses) =>
      { t with bridge, commander, passes := t.passes ++ [⟨outcome, accesses⟩] }
    | (.error fault, bridge, accesses) => { t with bridge, fault := some (fault, accesses) }

def act : Act → Course π → Course π
  | .hardware signal, t =>
    { t with bridge := { t.bridge with registers := signal.apply t.bridge.registers } }
  | .poll, t => t.poll
  | .take, t => { t with bridge := { t.bridge with ring := t.bridge.ring.take.2 } }
  | .release taken, t =>
    { t with bridge := { t.bridge with ring := (t.bridge.ring.release taken).2 } }

def run (acts : List Act) (t : Course π) : Course π := acts.foldl (fun t act => t.act act) t

theorem run_append (first second : List Act) (t : Course π) :
    run (first ++ second) t = run second (run first t) := List.foldl_append

theorem poll_of_fault {t : Course π} {fault : Fault × List Access} (met : t.fault = some fault) :
    t.poll = t := by
  rw [poll, met]

theorem poll_eq_of_ok {t : Course π} (going : t.fault = none) {outcome : Outcome}
    {commander : Commander} {bridge : Bridge π} {accesses : List Access}
    (ran : t.commander.poll.run transcribed (t.bridge, []) =
      (.ok (outcome, commander), bridge, accesses)) :
    t.poll = { t with bridge, commander, passes := t.passes ++ [⟨outcome, accesses⟩] } := by
  simp only [poll, going, ran]

theorem poll_eq_of_error {t : Course π} (going : t.fault = none) {fault : Fault}
    {bridge : Bridge π} {accesses : List Access}
    (ran : t.commander.poll.run transcribed (t.bridge, []) = (.error fault, bridge, accesses)) :
    t.poll = { t with bridge, fault := some (fault, accesses) } := by
  simp only [poll, going, ran]

theorem bridge_poll {t : Course π} (going : t.fault = none) :
    t.poll.bridge = (t.commander.poll.run transcribed (t.bridge, [])).2.1 := by
  rcases ran : t.commander.poll.run transcribed (t.bridge, []) with ⟨fault | ⟨outcome, c⟩, b, k⟩
  · rw [poll_eq_of_error going ran]
  · rw [poll_eq_of_ok going ran]

end Course

section Published

variable {π : Type} [Responder π] [ByteSource π]

/-- No access takes back the number of an event. -/
theorem head_le_perform (access : Access) (b : Bridge π) :
    b.ring.head.toNat ≤ (perform access b).2.ring.head.toNat := by
  cases access with
  | publish record =>
    change b.ring.head.toNat ≤ (b.ring.publish record).2.head.toNat
    rcases Nat.lt_or_ge (b.ring.head.toNat + 1) (2 ^ 64) with room | full
    · rw [Event.Ring.publish_eq_ok room, UInt64.toNat_add, UInt64.toNat_one, Nat.mod_eq_of_lt room]
      exact Nat.le_succ _
    · rw [Event.Ring.publish_eq_error full]
  | dispatch request response =>
    simp only [perform, dispatched]
    split <;> exact Nat.le_refl _
  | _ => exact Nat.le_refl _

theorem head_le_run {α : Type} (p : Loop α) (b : Bridge π) (k : List Access) :
    b.ring.head.toNat ≤ (p.run transcribed (b, k)).2.1.ring.head.toNat := by
  induction p generalizing b k with
  | done a | fail fault => exact Nat.le_refl _
  | call access next ih =>
    have more := head_le_perform access b
    rcases performed : perform access b with ⟨fault | answer, b'⟩
    · rw [performed] at more
      rwa [run_call_fault next k performed]
    · rw [performed] at more
      rw [run_call next k performed]
      exact Nat.le_trans more (ih answer b' _)

theorem head_le_call {α : Type} {access : Access} (next : Access.Answer access → Loop α)
    (b : Bridge π) (k : List Access) : (perform access b).2.ring.head.toNat ≤
      ((Program.call access next).run transcribed (b, k)).2.1.ring.head.toNat := by
  rcases performed : perform access b with ⟨fault | answer, b'⟩
  · rw [run_call_fault next k performed]
  · rw [run_call next k performed]
    exact head_le_run (next answer) b' _

end Published

namespace Course

variable {π : Type} [Responder π] [ByteSource π]

theorem head_le_act (act : Act) (t : Course π) :
    t.bridge.ring.head.toNat ≤ (t.act act).bridge.ring.head.toNat := by
  cases act with
  | hardware signal => exact Nat.le_refl _
  | poll =>
    change _ ≤ t.poll.bridge.ring.head.toNat
    cases met : t.fault with
    | some fault => rw [poll_of_fault met]
    | none =>
      rw [bridge_poll met]
      exact head_le_run t.commander.poll t.bridge []
  | take => exact Nat.le_of_eq (congrArg UInt64.toNat (Event.Ring.head_take _).symm)
  | release taken =>
    exact Nat.le_of_eq (congrArg UInt64.toNat (Event.Ring.head_release _ taken).symm)

theorem head_le_acts (acts : List Act) (t : Course π) :
    t.bridge.ring.head.toNat ≤ (run acts t).bridge.ring.head.toNat := by
  induction acts generalizing t with
  | nil => exact Nat.le_refl _
  | cons act rest ih => exact Nat.le_trans (head_le_act act t) (ih (t.act act))

end Course

section Ending

variable {π : Type} [Responder π]

/-- States of a protocol engine that may refuse commands, but never ends the loop from there. -/
structure Unfailing (safe : π → Prop) : Prop where
  answers : ∀ {p}, safe p → ∀ request response fault,
    (Responder.dispatch request response p).result ≠ .error (.fault fault)
  dispatch : ∀ {p}, safe p → ∀ request response, safe (Responder.dispatch request response p).state
  takeBlockRequest : ∀ {p}, safe p → safe (Responder.takeBlockRequest p).2

structure Able (safe : π → Prop) (b : Bridge π) : Prop where
  size : Offset.size ≤ 4 * b.registers.words.size
  engine : safe b.engine

variable [ByteSource π] {safe : π → Prop} {b : Bridge π}

/-- An access of the command loop succeeds while events have numbers. -/
theorem Able.perform (able : b.Able safe) (unfailing : Unfailing safe) {access : Access}
    (own : OfCommands access) (inside : InBounds access)
    (room : (perform access b).2.ring.head.toNat + 1 < 2 ^ 64) :
    ∃ answer b', perform access b = (.ok answer, b') ∧ b'.Able safe := by
  obtain ⟨size, engine⟩ := able
  have below : ∀ {offset : Nat}, offset < Offset.size → offset / 4 < b.registers.words.size := by
    intro offset inside
    omega
  cases access with
  | readRegister offset =>
    exact ⟨_, _, perform_readRegister_inside inside.1 (below inside.2), size, engine⟩
  | writeRegister offset value =>
    have same := RegisterFile.write_size b.registers offset value
    exact ⟨_, _, perform_writeRegister (w := ⟨offset, value⟩) ⟨inside.1, below inside.2⟩,
      size.trans_eq (congrArg (4 * ·) same.symm), engine⟩
  | dispatch request response =>
    have answers := unfailing.answers engine request response
    have after := unfailing.dispatch engine request response
    simp only [Bridge.perform, dispatched]
    split
    · exact ⟨_, _, rfl, size, after⟩
    · exact ⟨_, _, rfl, size, after⟩
    · rename_i fault failed
      exact absurd failed (answers fault)
  | takeBlockRequest => exact ⟨_, _, rfl, size, unfailing.takeBlockRequest engine⟩
  | publish record =>
    obtain ⟨ring, published, -⟩ := perform_publish
      (Nat.lt_of_le_of_lt (Nat.succ_le_succ (head_le_perform (.publish record) b)) room) record
    exact ⟨_, _, published, size, engine⟩
  | setInFlight raised | clock => exact ⟨_, _, rfl, size, engine⟩
  | _ => exact own.elim

theorem Able.run (able : b.Able safe) (unfailing : Unfailing safe) {α : Type} {p : Loop α}
    (own : p.Within OfCommands) (bounded : p.Bounded) {k : List Access}
    (room : (p.run transcribed (b, k)).2.1.ring.head.toNat + 1 < 2 ^ 64) :
    ∃ a b' k', p.run transcribed (b, k) = (.ok a, b', k') ∧ b'.Able safe := by
  induction p generalizing b k with
  | done a => exact ⟨a, b, k, rfl, able⟩
  | fail fault => exact bounded.elim
  | call access next ih =>
    have left := Nat.lt_of_le_of_lt (Nat.succ_le_succ (head_le_call next b k)) room
    obtain ⟨answer, mid, performed, able⟩ := able.perform unfailing own.1 bounded.1 left
    rw [run_call next k performed] at room ⊢
    exact ih answer able (own.2 answer) (bounded.2 answer) room

namespace Course

end Course
end Ending
end SdBridge.Bridge
