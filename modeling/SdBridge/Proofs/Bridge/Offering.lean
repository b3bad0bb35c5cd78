import Mathlib.Tactic.Common
import SdBridge.Protocol

/-!
Sources as a taker of bytes meets them. A source says at every turn whether it has a byte; the taker
stops at the first denial, or when it has as many bytes as it may take, and asks no further then.
-/
namespace SdBridge.ByteSource

variable {π : Type} [ByteSource π]

/-- A source that has just these bytes ready. It offers one after the other, and denies then. -/
def Offers : List UInt8 → π → Prop
  | [], p => (dataReady p).answer = .ok false
  | byte :: rest, p => (dataReady p).answer = .ok true ∧
      (nextByte (dataReady p).state).answer = .ok byte ∧
      Offers rest (nextByte (dataReady p).state).state

/-- A source that does not fault while at most so many bytes are taken. -/
def Answers : Nat → π → Prop
  | 0, _ => True
  | limit + 1, p => (dataReady p).answer = .ok false ∨ (dataReady p).answer = .ok true ∧
      ∃ byte, (nextByte (dataReady p).state).answer = .ok byte ∧
        Answers limit (nextByte (dataReady p).state).state

/-- States of a source in which a stream of bytes is left. It may deny although something is left.
-/
structure Pours (left : List UInt8 → π → Prop) : Prop where
  answers : ∀ {bytes p}, left bytes p → ∃ more, (dataReady p).answer = .ok more
  asked : ∀ {bytes p}, left bytes p → left bytes (dataReady p).state
  taken : ∀ {bytes p}, left bytes p → (dataReady p).answer = .ok true → ∃ byte rest,
    bytes = byte :: rest ∧ (nextByte (dataReady p).state).answer = .ok byte ∧
      left rest (nextByte (dataReady p).state).state

section Take

variable (limit : Nat) {p : π} {byte : UInt8}

theorem takeUpTo_of_denied (denied : (dataReady p).answer = .ok false) :
    (takeUpTo (limit + 1) p).1 = [] ∧ (takeUpTo (limit + 1) p).2.1 = (dataReady p).state := by
  simp [takeUpTo, denied]

theorem takeUpTo_of_granted (granted : (dataReady p).answer = .ok true)
    (taken : (nextByte (dataReady p).state).answer = .ok byte) :
    (takeUpTo (limit + 1) p).1 =
        byte :: (takeUpTo limit (nextByte (dataReady p).state).state).1 ∧
      (takeUpTo (limit + 1) p).2.1 =
        (takeUpTo limit (nextByte (dataReady p).state).state).2.1 := by
  simp [takeUpTo, granted, taken]

theorem length_takeUpTo_le (p : π) : (takeUpTo limit p).1.length ≤ limit := by
  induction limit generalizing p with
  | zero => exact Nat.le_refl 0
  | succ limit ih =>
    simp only [takeUpTo]
    split
    · split
      · exact Nat.succ_le_succ (ih _)
      · exact Nat.zero_le _
    · exact Nat.zero_le _

end Take

variable {p : π} {ready bytes : List UInt8} {left : List UInt8 → π → Prop}

theorem Offers.answers (offers : Offers ready p) (limit : Nat) : Answers limit p := by
  induction limit generalizing ready p with
  | zero => trivial
  | succ limit ih =>
    cases ready with
    | nil => exact .inl offers
    | cons byte rest => exact .inr ⟨offers.1, byte, offers.2.1, ih offers.2.2⟩

/-- The first bytes that are ready are taken, and the others stay ready. -/
theorem Offers.takeUpTo (offers : Offers ready p) (limit : Nat) :
    (takeUpTo limit p).1 = ready.take limit ∧
      (limit ≤ ready.length → Offers (ready.drop limit) (ByteSource.takeUpTo limit p).2.1) := by
  induction limit generalizing ready p with
  | zero => exact ⟨rfl, fun _ => offers⟩
  | succ limit ih =>
    cases ready with
    | nil => exact ⟨(takeUpTo_of_denied limit offers).1, nofun⟩
    | cons byte rest =>
      obtain ⟨granted, taken, after⟩ := offers
      obtain ⟨bytes, state⟩ := takeUpTo_of_granted limit granted taken
      obtain ⟨first, others⟩ := ih after
      rw [bytes, state]
      exact ⟨congrArg (byte :: ·) first, fun fits => others (Nat.le_of_succ_le_succ fits)⟩

theorem Pours.answersAll (pours : Pours left) (now : left bytes p) (limit : Nat) :
    Answers limit p := by
  induction limit generalizing bytes p with
  | zero => trivial
  | succ limit ih =>
    obtain ⟨_ | _, answer⟩ := pours.answers now
    · exact .inl answer
    · obtain ⟨byte, rest, -, taken, after⟩ := pours.taken now answer
      exact .inr ⟨answer, byte, taken, ih after⟩

/-- Whatever is taken comes off the front of the stream. -/
theorem Pours.takeUpTo (pours : Pours left) (now : left bytes p) (limit : Nat) :
    ∃ rest, bytes = (ByteSource.takeUpTo limit p).1 ++ rest ∧
      left rest (ByteSource.takeUpTo limit p).2.1 := by
  induction limit generalizing bytes p with
  | zero => exact ⟨bytes, rfl, now⟩
  | succ limit ih =>
    obtain ⟨_ | _, answer⟩ := pours.answers now
    · obtain ⟨none, state⟩ := takeUpTo_of_denied limit answer
      rw [none, state]
      exact ⟨bytes, rfl, pours.asked now⟩
    · obtain ⟨byte, rest, rfl, taken, after⟩ := pours.taken now answer
      obtain ⟨first, state⟩ := takeUpTo_of_granted limit answer taken
      obtain ⟨others, whole, still⟩ := ih after
      rw [first, state]
      exact ⟨others, by rw [whole]; rfl, still⟩

end SdBridge.ByteSource
