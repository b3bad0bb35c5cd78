import Mathlib.Algebra.Order.Ring.Nat
import Mathlib.Data.List.Induction
import Mathlib.Tactic.Common
import SdBridge.Card.Ticket

/-!
What a ticket keeps of its job and of its generation, and how generations are counted. Payloads
are bounded by the field they travel in; generations are read modulo 2^28.
-/
namespace SdBridge.Card

theorem Job.kind_lt (job : Job) : job.kind.toNat < 5 := by
  cases job <;> simp [kind]

namespace Ticket

theorem payload_lt {job : Job} (fits : job.payload ≤ payloadMask) : job.payload.toNat < 2 ^ 32 := by
  have bound := UInt64.le_iff_toNat_le.1 fits
  simp only [payloadMask, UInt64.reduceToNat] at bound
  omega

/-- The three fields do not overlap. -/
theorem toNat_pack (generation : UInt32) (job : Job) (fits : job.payload ≤ payloadMask) :
    (pack generation job).word.toNat =
      generation.toNat % 2 ^ 28 * 2 ^ 36 + job.kind.toNat * 2 ^ 32 + job.payload.toNat := by
  have payload := payload_lt fits
  have kind := job.kind_lt
  have masks : payloadMask.toNat = 2 ^ 32 - 1 ∧ generationMask.toNat = 2 ^ 28 - 1 := by decide
  have shifts : (36 : UInt64).toNat % 64 = 36 ∧ (32 : UInt64).toNat % 64 = 32 := by decide
  simp only [pack, UInt64.toNat_or, UInt64.toNat_shiftLeft, UInt64.toNat_and,
    UInt32.toNat_toUInt64, UInt32.toNat_and, masks, shifts, Nat.and_two_pow_sub_one_eq_mod]
  rw [Nat.mod_eq_of_lt payload, Nat.shiftLeft_eq, Nat.shiftLeft_eq,
    Nat.mod_eq_of_lt (a := _ * 2 ^ 36) (by omega), Nat.mod_eq_of_lt (a := _ * 2 ^ 32) (by omega)]
  have upper : generation.toNat % 2 ^ 28 * 2 ^ 36 ||| job.kind.toNat * 2 ^ 32 =
      2 ^ 32 * (generation.toNat % 2 ^ 28 * 2 ^ 4 + job.kind.toNat) := by
    rw [Nat.mul_comm _ (2 ^ 36), ← Nat.two_pow_add_eq_or_of_lt (by omega)]
    omega
  rw [upper, ← Nat.two_pow_add_eq_or_of_lt payload]
  omega

theorem job_pack (generation : UInt32) (job : Job) (fits : job.payload ≤ payloadMask) :
    (pack generation job).job = job := by
  have word := toNat_pack generation job fits
  have payload := payload_lt fits
  have kind := job.kind_lt
  have fields : payloadMask.toNat = 2 ^ 32 - 1 ∧ (0xf : UInt64).toNat = 2 ^ 4 - 1 ∧
      (32 : UInt64).toNat % 64 = 32 := by decide
  have kindField : ((pack generation job).word >>> 32) &&& 0xf = job.kind := by
    apply UInt64.toNat_inj.1
    rw [UInt64.toNat_and, UInt64.toNat_shiftRight, fields.2.1, fields.2.2,
      Nat.and_two_pow_sub_one_eq_mod, Nat.shiftRight_eq_div_pow, word]
    omega
  have payloadField : (pack generation job).word &&& payloadMask = job.payload := by
    apply UInt64.toNat_inj.1
    rw [UInt64.toNat_and, fields.1, Nat.and_two_pow_sub_one_eq_mod, word]
    omega
  rw [Ticket.job, kindField, payloadField, Job.decode_kind_payload]

theorem toNat_generation_pack (generation : UInt32) (job : Job) (fits : job.payload ≤ payloadMask) :
    (pack generation job).generation.toNat = generation.toNat % 2 ^ 28 := by
  have word := toNat_pack generation job fits
  have payload := payload_lt fits
  have kind := job.kind_lt
  have shift : (36 : UInt64).toNat % 64 = 36 := by decide
  rw [Ticket.generation, UInt64.toNat_toUInt32, UInt64.toNat_shiftRight, shift,
    Nat.shiftRight_eq_div_pow, word]
  omega

@[simp] theorem job_idle : idle.job = .idle := by decide

theorem issue_eq_ok {job : Job} (generation : UInt32) (fits : job.payload ≤ payloadMask) :
    issue generation job = .ok (pack generation job) := by
  simp [issue, fits]

end Ticket

/-- The generation after another, as a number: zero is left out. -/
theorem toNat_nextGeneration (generation : UInt32) :
    (nextGeneration generation).toNat =
      if (generation.toNat + 1) % 2 ^ 28 = 0 then 1 else (generation.toNat + 1) % 2 ^ 28 := by
  have mask : Ticket.generationMask.toNat = 2 ^ 28 - 1 := by decide
  have count : ((generation + 1) &&& Ticket.generationMask).toNat =
      (generation.toNat + 1) % 2 ^ 28 := by
    rw [UInt32.toNat_and, mask, Nat.and_two_pow_sub_one_eq_mod, UInt32.toNat_add]
    simp only [UInt32.reduceToNat]
    omega
  have wrapped : (generation + 1) &&& Ticket.generationMask = 0 ↔
      (generation.toNat + 1) % 2 ^ 28 = 0 := by
    rw [← count, ← UInt32.toNat_inj, UInt32.toNat_zero]
  simp only [nextGeneration]
  by_cases zero : (generation.toNat + 1) % 2 ^ 28 = 0
  · rw [if_pos (wrapped.2 zero), if_pos zero]
    rfl
  · rw [if_neg (mt wrapped.1 zero), if_neg zero, count]

theorem toNat_nextGeneration_lt (generation : UInt32) :
    (nextGeneration generation).toNat < 2 ^ 28 := by
  rw [toNat_nextGeneration]
  split
  · decide
  · exact Nat.mod_lt _ (by decide)

/-- As long as no more than 2^28 - 1 generations were handed out, they count the posts. -/
theorem toNat_nextGeneration_of_lt {generation : UInt32} (room : generation.toNat + 1 < 2 ^ 28) :
    (nextGeneration generation).toNat = generation.toNat + 1 := by
  rw [toNat_nextGeneration, Nat.mod_eq_of_lt room, if_neg (by omega)]

/-- A post changes the posted word, even where the count wraps. -/
theorem nextGeneration_ne {generation : UInt32} (bound : generation.toNat < 2 ^ 28) :
    (nextGeneration generation).toNat ≠ generation.toNat := by
  rw [toNat_nextGeneration]
  split <;> omega

end SdBridge.Card
