import Mathlib.Data.List.Forall2
import Mathlib.Data.Nat.Digits.Defs
import Mathlib.Tactic.Ring
import SdBridge.Options.Given

/-!
The values of options, and how a user writes them: a path as it is, a number in decimal digits. An
option accepts a text exactly if it writes a value of the option's domain.
-/
namespace SdBridge

namespace Text

def Decimal (c : Char) (value : Nat) : Prop := value < 10 ∧ c = Nat.digitChar value

/-- The notation of a number: at least one digit, and nothing but digits. -/
def Numeral (digits : List Char) (n : Nat) : Prop :=
  digits ≠ [] ∧ ∃ values, List.Forall₂ Decimal digits values ∧ n = Nat.ofDigits 10 values.reverse

theorem decimal_iff {c : Char} {value : Nat} :
    Decimal c value ↔ c.isDigit = true ∧ c.toNat - '0'.toNat = value := by
  have all : ∀ n < 128, ∀ value < 10, Decimal (Char.ofNat n) value ↔
      (Char.ofNat n).isDigit = true ∧ (Char.ofNat n).toNat - '0'.toNat = value := by
    unfold Decimal
    decide +kernel
  have zero : '0'.toNat = 48 := rfl
  have small (digit : Decimal c value ∨ c.isDigit = true ∧ c.toNat - '0'.toNat = value) :
      c.toNat < 128 ∧ value < 10 := by
    rcases digit with ⟨small, rfl⟩ | ⟨digit, rfl⟩
    · have ascii : ∀ value < 10, (Nat.digitChar value).toNat < 128 := by decide
      exact ⟨ascii value small, small⟩
    · simp only [Char.isDigit, Bool.and_eq_true, decide_eq_true_eq, ge_iff_le,
        UInt32.le_iff_toNat_le] at digit
      change 48 ≤ c.toNat ∧ c.toNat ≤ 57 at digit
      omega
  have here (bounds : c.toNat < 128 ∧ value < 10) := all c.toNat bounds.1 value bounds.2
  rw [Char.ofNat_toNat] at here
  exact ⟨fun digit => (here (small (.inl digit))).1 digit,
    fun digit => (here (small (.inr digit))).2 digit⟩

theorem all_isDigit_iff {digits : List Char} :
    digits.all Char.isDigit = true ↔ ∃ values, List.Forall₂ Decimal digits values := by
  induction digits with
  | nil => exact ⟨fun _ => ⟨[], .nil⟩, fun _ => rfl⟩
  | cons c digits ih =>
    rw [List.all_cons, Bool.and_eq_true, ih]
    constructor
    · rintro ⟨digit, values, others⟩
      exact ⟨_ :: values, .cons (decimal_iff.2 ⟨digit, rfl⟩) others⟩
    · rintro ⟨_, read⟩
      cases read with
      | cons digit others => exact ⟨(decimal_iff.1 digit).1, _, others⟩

/-- The digits behind others that gave `high`, the highest first. -/
theorem foldl_digits {digits : List Char} {values : List Nat}
    (read : List.Forall₂ Decimal digits values) (high : Nat) :
    digits.foldl (fun n c => 10 * n + (c.toNat - '0'.toNat)) high =
      high * 10 ^ values.length + Nat.ofDigits 10 values.reverse := by
  induction read generalizing high with
  | nil => simp
  | cons digit _ ih =>
    rw [List.foldl_cons, ih, (decimal_iff.1 digit).2, List.reverse_cons, Nat.ofDigits_append,
      Nat.ofDigits_singleton, List.length_reverse, List.length_cons]
    ring

theorem natural?_eq_some_iff {digits : List Char} {n : Nat} :
    natural? digits = some n ↔ Numeral digits n := by
  rw [natural?, Numeral]
  by_cases read : digits ≠ [] ∧ digits.all Char.isDigit = true
  · obtain ⟨values, decimals⟩ := all_isDigit_iff.1 read.2
    have value := foldl_digits decimals 0
    rw [Nat.zero_mul, Nat.zero_add] at value
    rw [if_neg (by simp [read]), Option.some.injEq, value]
    constructor
    · rintro rfl
      exact ⟨read.1, values, decimals, rfl⟩
    · rintro ⟨-, values', decimals', rfl⟩
      have value' := foldl_digits decimals' 0
      rw [Nat.zero_mul, Nat.zero_add] at value'
      rw [← value, value']
  · have refused := not_and_or.1 read
    rw [if_pos (by simpa using refused)]
    simp only [reduceCtorEq, false_iff]
    rintro ⟨some, values, decimals, -⟩
    exact read ⟨some, all_isDigit_iff.2 ⟨values, decimals⟩⟩

/-- No digit is a sign. -/
theorem Numeral.head_ne {digits : List Char} {n : Nat} (numeral : Numeral digits n) {sign : Char}
    (other : sign.isDigit = false) : digits.head? ≠ some sign := by
  obtain ⟨-, values, decimals, -⟩ := numeral
  intro first
  obtain ⟨rest, rfl⟩ := List.head?_eq_some_iff.1 first
  cases decimals with
  | cons digit =>
    rw [(decimal_iff.1 digit).1] at other
    cases other

end Text

namespace Options

open Text

inductive Writes (p : Parameter) : String → Value → Prop
  | path {text : String} (domain : p.domain = .path) (some : text ≠ "") : Writes p text (.path text)
  | number {text : String} {largest n : Nat} {mayBeNegated : Bool} {sign digits : List Char}
      (domain : p.domain = .number largest mayBeNegated) (shown : text.toList = sign ++ digits)
      (numeral : Numeral digits n) (fits : n ≤ largest)
      (signed : sign = [] ∨ sign = ['+'] ∨ sign = ['-'] ∧ mayBeNegated = true ∧ n = 0) :
      Writes p text (.number n)

theorem unsigned?_eq_some_iff {text : List Char} {n : Nat} :
    unsigned? text = some n ↔ ∃ sign digits, text = sign ++ digits ∧ Numeral digits n ∧
      (sign = [] ∨ sign = ['+']) := by
  have plain {text : List Char} (other : text.head? ≠ some '+') :
      unsigned? text = natural? text := by
    rw [unsigned?.eq_def]
    split
    · exact absurd rfl other
    · rfl
  constructor
  · intro read
    by_cases plus : text.head? = some '+'
    · obtain ⟨digits, rfl⟩ := List.head?_eq_some_iff.1 plus
      exact ⟨['+'], digits, rfl, natural?_eq_some_iff.1 read, .inr rfl⟩
    · rw [plain plus] at read
      exact ⟨[], text, rfl, natural?_eq_some_iff.1 read, .inl rfl⟩
  · rintro ⟨sign, digits, rfl, numeral, rfl | rfl⟩
    · exact (plain (numeral.head_ne rfl)).trans (natural?_eq_some_iff.2 numeral)
    · exact natural?_eq_some_iff.2 numeral

theorem number?_eq_some_iff {mayBeNegated : Bool} {text : List Char} {n : Nat} :
    number? mayBeNegated text = some n ↔ ∃ sign digits, text = sign ++ digits ∧ Numeral digits n ∧
      (sign = [] ∨ sign = ['+'] ∨ sign = ['-'] ∧ mayBeNegated = true ∧ n = 0) := by
  have plain {text : List Char} (other : text.head? ≠ some '-') :
      number? mayBeNegated text = unsigned? text := by
    rw [number?.eq_def]
    split
    · exact absurd rfl other
    · rfl
  have negated (digits : List Char) : number? mayBeNegated ('-' :: digits) = some n ↔
      Numeral digits n ∧ mayBeNegated = true ∧ n = 0 := by
    rw [← natural?_eq_some_iff, number?]
    cases mayBeNegated <;> simp [Option.filter_eq_some_iff]
  constructor
  · intro read
    by_cases minus : text.head? = some '-'
    · obtain ⟨digits, rfl⟩ := List.head?_eq_some_iff.1 minus
      obtain ⟨numeral, zero⟩ := (negated digits).1 read
      exact ⟨['-'], digits, rfl, numeral, .inr (.inr ⟨rfl, zero⟩)⟩
    · rw [plain minus] at read
      obtain ⟨sign, digits, shown, numeral, signed⟩ := unsigned?_eq_some_iff.1 read
      exact ⟨sign, digits, shown, numeral, signed.imp_right .inl⟩
  · rintro ⟨sign, digits, rfl, numeral, rfl | rfl | ⟨rfl, zero⟩⟩
    · refine (plain (numeral.head_ne rfl)).trans ?_
      exact unsigned?_eq_some_iff.2 ⟨[], digits, rfl, numeral, .inl rfl⟩
    · exact unsigned?_eq_some_iff.2 ⟨['+'], digits, rfl, numeral, .inr rfl⟩
    · exact (negated digits).2 ⟨numeral, zero⟩

/-- An option reads the texts that write a value of its domain, and no other. -/
theorem read_eq_ok_iff {p : Parameter} {text : String} {value : Value} :
    p.read text = .ok value ↔ Writes p text value := by
  rw [Parameter.read]
  constructor
  · intro read
    split at read
    · rename_i domain
      split at read
      · cases read
      · rename_i some
        cases read
        exact .path domain some
    · rename_i largest mayBeNegated domain
      split at read
      · rename_i n number
        split at read
        · rename_i fits
          cases read
          obtain ⟨sign, digits, shown, numeral, signed⟩ := number?_eq_some_iff.1 number
          exact .number domain shown numeral fits signed
        · cases read
      · cases read
  · rintro (⟨domain, some⟩ | ⟨domain, shown, numeral, fits, signed⟩)
    · simp only [domain, if_neg some]
    · have number := number?_eq_some_iff.2 ⟨_, _, shown, numeral, signed⟩
      simp only [domain, number, if_pos fits]

end Options
end SdBridge
