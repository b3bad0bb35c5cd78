import Mathlib.Data.List.DropRight
import Mathlib.Data.Nat.Digits.Defs
import Mathlib.Tactic.Common
import SdBridge.Device

/-!
The sizes of regions, as the description of a device gives them. The notation of a size is white
space around `0x` or `0X` and the digits of the number. The reader takes a plus sign in front of the
digits as well, which the notation does not have.
-/
namespace SdBridge

namespace Text

section Trimming

/-- The white space that is left out. -/
theorem exists_blanks (s : List Char) : ∃ before after : List Char,
    s = before ++ trimmed s ++ after ∧ (∀ c ∈ before, isBlank c) ∧ ∀ c ∈ after, isBlank c := by
  refine ⟨s.takeWhile isBlank, (s.dropWhile isBlank).rtakeWhile isBlank, ?_,
    fun c found => List.mem_takeWhile_imp found, fun c found => List.mem_rtakeWhile_imp found⟩
  rw [List.append_assoc]
  change s = _ ++ ((s.dropWhile isBlank).rdropWhile isBlank ++ _)
  rw [List.rdropWhile_append_rtakeWhile, List.takeWhile_append_dropWhile]

variable {before core after : List Char}

theorem dropWhile_isBlank_append (some : core ≠ []) (shown : ∀ c ∈ core, isBlank c = false)
    (blank : ∀ c ∈ before, isBlank c) :
    (before ++ (core ++ after)).dropWhile isBlank = core ++ after := by
  rw [List.dropWhile_append_of_pos blank]
  cases core with
  | nil => exact absurd rfl some
  | cons c core => exact List.dropWhile_cons_of_neg (by simp [shown c List.mem_cons_self])

/-- What stands between white space and has none of its own is kept. -/
theorem trimmed_append (some : core ≠ []) (shown : ∀ c ∈ core, isBlank c = false)
    (left : ∀ c ∈ before, isBlank c) (right : ∀ c ∈ after, isBlank c) :
    trimmed (before ++ core ++ after) = core := by
  have back : (after.reverse ++ (core.reverse ++ [])).dropWhile isBlank = core.reverse ++ [] :=
    dropWhile_isBlank_append (by simpa using some) (by simpa using shown) (by simpa using right)
  rw [List.append_nil] at back
  rw [trimmed, List.append_assoc, dropWhile_isBlank_append some shown left, List.reverse_append,
    back, List.reverse_reverse]

end Trimming

/-- A hexadecimal digit of either case, and its value. -/
def Digit (c : Char) (value : Nat) : Prop :=
  value < 16 ∧ (c = Nat.digitChar value ∨ c = (Nat.digitChar value).toUpper)

theorem digit_small {c : Char} {value : Nat} (digit : Digit c value) :
    c.toNat < 128 ∧ value < 16 := by
  obtain ⟨small, shape⟩ := digit
  have ascii : ∀ value < 16, (Nat.digitChar value).toNat < 128 ∧
      (Nat.digitChar value).toUpper.toNat < 128 := by decide
  refine ⟨?_, small⟩
  rcases shape with rfl | rfl
  · exact (ascii value small).1
  · exact (ascii value small).2

theorem hexDigit?_small {c : Char} {value : Nat} (read : hexDigit? c = some value) :
    c.toNat < 128 ∧ value < 16 := by
  have upTo (last : Char) : c ≤ last ↔ c.toNat ≤ last.toNat := UInt32.le_iff_toNat_le
  have zero : '0'.toNat = 48 := rfl
  have nine : '9'.toNat = 57 := rfl
  have lowerA : 'a'.toNat = 97 := rfl
  have lowerF : 'f'.toNat = 102 := rfl
  have upperA : 'A'.toNat = 65 := rfl
  have upperF : 'F'.toNat = 70 := rfl
  simp only [hexDigit?, upTo] at read
  split at read
  · simp only [Option.some.injEq] at read
    omega
  · split at read
    · simp only [Option.some.injEq] at read
      omega
    · split at read
      · simp only [Option.some.injEq] at read
        omega
      · cases read

theorem hexDigit?_eq_some_iff {c : Char} {value : Nat} :
    hexDigit? c = some value ↔ Digit c value := by
  have all : ∀ n < 128, ∀ value < 16,
      hexDigit? (Char.ofNat n) = some value ↔ Digit (Char.ofNat n) value := by
    unfold Digit
    decide +kernel
  have here (small : c.toNat < 128 ∧ value < 16) := all c.toNat small.1 value small.2
  rw [Char.ofNat_toNat] at here
  exact ⟨fun read => (here (hexDigit?_small read)).1 read,
    fun digit => (here (digit_small digit)).2 digit⟩

theorem not_isBlank_of_plus : ∀ c ∈ ['+'], isBlank c = false := by
  intro c found
  rw [List.mem_singleton.1 found]
  rfl

theorem not_isBlank_of_digit {c : Char} {value : Nat} (digit : Digit c value) :
    isBlank c = false := by
  obtain ⟨small, shape⟩ := digit
  have shown : ∀ value < 16, isBlank (Nat.digitChar value) = false ∧
      isBlank (Nat.digitChar value).toUpper = false := by decide
  rcases shape with rfl | rfl
  · exact (shown value small).1
  · exact (shown value small).2

theorem not_isBlank_of_digits {digits : List Char} {values : List Nat}
    (read : List.Forall₂ Digit digits values) : ∀ c ∈ digits, isBlank c = false := by
  induction read with
  | nil => simp
  | cons digit _ ih =>
    rw [List.forall_mem_cons]
    exact ⟨not_isBlank_of_digit digit, ih⟩

end Text

namespace Device

open Text

/-- The digits behind others that gave `high`, the highest first. -/
theorem hexValue?_eq_some_iff {digits : List Char} {high n : Nat} :
    hexValue? high digits = some n ↔ ∃ values, List.Forall₂ Digit digits values ∧
      n = high * 16 ^ values.length + Nat.ofDigits 16 values.reverse := by
  induction digits generalizing high with
  | nil =>
    rw [hexValue?, Option.some.injEq]
    constructor
    · rintro rfl
      exact ⟨[], .nil, by simp⟩
    · rintro ⟨values, none, rfl⟩
      cases none
      simp
  | cons c digits ih =>
    rw [hexValue?]
    constructor
    · intro read
      cases found : hexDigit? c with
      | none => simp [found] at read
      | some value =>
        simp only [found] at read
        obtain ⟨values, digits, rfl⟩ := ih.1 read
        refine ⟨value :: values, .cons (hexDigit?_eq_some_iff.1 found) digits, ?_⟩
        rw [List.reverse_cons, Nat.ofDigits_append, Nat.ofDigits_singleton, List.length_reverse,
          List.length_cons]
        ring
    · rintro ⟨values, digits, rfl⟩
      cases digits with
      | cons digit digits =>
        simp only [hexDigit?_eq_some_iff.2 digit]
        refine ih.2 ⟨_, digits, ?_⟩
        rw [List.reverse_cons, Nat.ofDigits_append, Nat.ofDigits_singleton, List.length_reverse,
          List.length_cons]
        ring

def digits? (digits : List Char) : Option UInt64 :=
  if digits = [] then none
  else match hexValue? 0 digits with
    | some n => if n < UInt64.size then some n.toUInt64 else none
    | none => none

theorem digits?_eq_some_iff {digits : List Char} {n : UInt64} :
    digits? digits = some n ↔ digits ≠ [] ∧ ∃ values, List.Forall₂ Digit digits values ∧
      n.toNat = Nat.ofDigits 16 values.reverse := by
  have value : hexValue? 0 digits = some n.toNat ↔ ∃ values, List.Forall₂ Digit digits values ∧
      n.toNat = Nat.ofDigits 16 values.reverse := by
    rw [hexValue?_eq_some_iff]
    simp only [Nat.zero_mul, Nat.zero_add]
  rw [← value, digits?]
  by_cases empty : digits = []
  · simp [empty]
  · rw [if_neg empty]
    cases hexValue? 0 digits with
    | none => simp
    | some m =>
      have limit : n.toNat < UInt64.size := n.toNat_lt
      simp only [ne_eq, empty, not_false_eq_true, true_and, Option.some.injEq]
      by_cases fits : m < UInt64.size
      · rw [if_pos fits, Option.some.injEq, ← UInt64.toNat_inj, Nat.toUInt64,
          UInt64.toNat_ofNat_of_lt' fits]
      · simp only [if_neg fits, reduceCtorEq, false_iff]
        omega

theorem unsigned?_of_head_ne {digits : List Char} (plain : digits.head? ≠ some '+') :
    unsigned? digits = digits? digits := by
  rw [unsigned?.eq_def]
  split
  · exact absurd rfl plain
  · rfl

theorem not_digit_plus (value : Nat) : ¬Digit '+' value := by
  rintro ⟨small, shape⟩
  have other : ∀ value < 16, '+' ≠ Nat.digitChar value ∧ '+' ≠ (Nat.digitChar value).toUpper := by
    decide
  rcases shape with same | same
  · exact (other value small).1 same
  · exact (other value small).2 same

/-- A plus sign in front of the digits is passed over. -/
theorem unsigned?_eq_some_iff {text : List Char} {n : UInt64} :
    unsigned? text = some n ↔ ∃ sign digits, (sign = [] ∨ sign = ['+']) ∧ text = sign ++ digits ∧
      digits? digits = some n := by
  constructor
  · intro read
    by_cases plus : text.head? = some '+'
    · obtain ⟨digits, rfl⟩ := List.head?_eq_some_iff.1 plus
      exact ⟨['+'], digits, .inr rfl, rfl, read⟩
    · rw [unsigned?_of_head_ne plus] at read
      exact ⟨[], text, .inl rfl, rfl, read⟩
  · rintro ⟨sign, digits, rfl | rfl, rfl, read⟩
    · refine (unsigned?_of_head_ne fun plus => ?_).trans read
      obtain ⟨rest, rfl⟩ := List.head?_eq_some_iff.1 plus
      obtain ⟨-, values, digits, -⟩ := digits?_eq_some_iff.1 read
      cases digits with
      | cons digit => exact not_digit_plus _ digit
    · exact read

/-- The notation of a size: white space around `0x` or `0X`, a sign, and at least one digit. -/
inductive Denotes (sign : List Char) : (text : List Char) → (size : Nat) → Prop
  | size {before after digits : List Char} {values : List Nat} {x : Char}
      (left : ∀ c ∈ before, isBlank c) (right : ∀ c ∈ after, isBlank c)
      (either : x = 'x' ∨ x = 'X') (some : digits ≠ [])
      (read : List.Forall₂ Digit digits values) :
      Denotes sign (before ++ '0' :: x :: (sign ++ digits) ++ after)
        (Nat.ofDigits 16 values.reverse)

theorem Denotes.of_append {sign before after digits : List Char} {x : Char} {n : UInt64}
    (left : ∀ c ∈ before, isBlank c) (right : ∀ c ∈ after, isBlank c)
    (either : x = 'x' ∨ x = 'X') (read : digits? digits = some n) :
    Denotes sign (before ++ '0' :: x :: (sign ++ digits) ++ after) n.toNat := by
  obtain ⟨some, values, digits, value⟩ := digits?_eq_some_iff.1 read
  rw [value]
  exact .size left right either some digits

/-- What is left of the notation without the white space around it. -/
theorem Denotes.trimmed {sign text : List Char} {size : Nat} (denotes : Denotes sign text size)
    (shown : ∀ c ∈ sign, isBlank c = false) :
    ∃ x digits values, Text.trimmed text = '0' :: x :: (sign ++ digits) ∧ (x = 'x' ∨ x = 'X') ∧
      digits ≠ [] ∧ List.Forall₂ Digit digits values ∧ size = Nat.ofDigits 16 values.reverse := by
  cases denotes with
  | @size before after digits values x left right either some read =>
    refine ⟨x, digits, values, ?_, either, some, read, rfl⟩
    refine trimmed_append (List.cons_ne_nil _ _) ?_ left right
    simp only [List.mem_cons, List.mem_append]
    rintro c (rfl | rfl | signed | found)
    · rfl
    · rcases either with rfl | rfl <;> rfl
    · exact shown c signed
    · exact not_isBlank_of_digits read c found

/-- A size is read from its notation, and a plus sign makes no difference. -/
theorem size?_eq_some_iff {text : String} {n : UInt64} :
    size? text = some n ↔ Denotes [] text.toList n.toNat ∨ Denotes ['+'] text.toList n.toNat := by
  constructor
  · intro read
    obtain ⟨before, after, whole, left, right⟩ := exists_blanks text.toList
    have shape : ∃ x digits, Text.trimmed text.toList = '0' :: x :: digits ∧ (x = 'x' ∨ x = 'X') ∧
        unsigned? digits = some n := by
      rw [size?] at read
      split at read
      · rename_i digits trimmed
        exact ⟨_, digits, trimmed, .inl rfl, read⟩
      · rename_i digits trimmed
        exact ⟨_, digits, trimmed, .inr rfl, read⟩
      · cases read
    obtain ⟨x, number, trimmed, either, unsigned⟩ := shape
    obtain ⟨sign, digits, signs, rfl, read⟩ := unsigned?_eq_some_iff.1 unsigned
    rw [whole, trimmed]
    have denotes : Denotes sign _ n.toNat := .of_append left right either read
    rcases signs with rfl | rfl
    · exact .inl denotes
    · exact .inr denotes
  · have read {sign : List Char} (signs : sign = [] ∨ sign = ['+'])
        (denotes : Denotes sign text.toList n.toNat) : size? text = some n := by
      have shown : ∀ c ∈ sign, isBlank c = false := by
        intro c found
        rcases signs with rfl | rfl
        · exact absurd found List.not_mem_nil
        · exact not_isBlank_of_plus c found
      obtain ⟨x, digits, values, trimmed, either, some, read, value⟩ := denotes.trimmed shown
      have unsigned : unsigned? (sign ++ digits) = .some n :=
        unsigned?_eq_some_iff.2 ⟨sign, digits, signs, rfl,
          digits?_eq_some_iff.2 ⟨some, values, read, value⟩⟩
      rw [size?, trimmed]
      rcases either with rfl | rfl <;> exact unsigned
    rintro (plain | signed)
    · exact read (.inl rfl) plain
    · exact read (.inr rfl) signed

def Gives (text : String) (size : Nat) : Prop :=
  Denotes [] text.toList size ∨ Denotes ['+'] text.toList size

/-- What a text shows is read from it where a word can hold it, and all else is malformed. A region
of no bytes is refused. -/
structure ReadAs (text : String) (shows : Nat → Prop) : Prop where
  read (n : UInt64) : size? text = some n ↔ shows n.toNat
  unread : size? text = none ↔ ∀ size, shows size → 2 ^ 64 ≤ size
  region (d : Device) (tree : FileTree) (index : UInt64) :
    tree.readText (d.sizePath index) = .ok text →
    (∀ n, d.regionSize tree index = .ok n ↔ n ≠ 0 ∧ shows n.toNat) ∧
    (d.regionSize tree index = .error (.empty index) ↔ shows 0) ∧
    (d.regionSize tree index = .error (.badSize index (String.ofList (trimmed text.toList))) ↔
      ∀ size, shows size → 2 ^ 64 ≤ size)

theorem size?_eq_none_iff {text : String} {shows : Nat → Prop}
    (read : ∀ n : UInt64, size? text = some n ↔ shows n.toNat) :
    size? text = none ↔ ∀ size, shows size → 2 ^ 64 ≤ size := by
  constructor
  · intro unread size shown
    by_contra fits
    have small : (UInt64.ofNat size).toNat = size :=
      UInt64.toNat_ofNat_of_lt' (Nat.lt_of_not_le fits)
    have found := (read (UInt64.ofNat size)).2 (small.symm ▸ shown)
    rw [unread] at found
    cases found
  · intro large
    cases found : size? text with
    | none => rfl
    | some n =>
      have limit := n.toNat_lt
      have past := large n.toNat ((read n).1 found)
      omega

theorem regionSize_of_text {d : Device} {tree : FileTree} {index : UInt64} {text : String}
    (described : tree.readText (d.sizePath index) = .ok text) :
    d.regionSize tree index = match size? text with
      | none => .error (.badSize index (String.ofList (trimmed text.toList)))
      | some size => if size = 0 then .error (.empty index) else .ok size := by
  rw [regionSize, described]
  rfl

theorem readAs_of_iff {text : String} {shows : Nat → Prop}
    (read : ∀ n : UInt64, size? text = some n ↔ shows n.toNat) : ReadAs text shows := by
  refine ⟨read, size?_eq_none_iff read, ?_⟩
  intro d tree index described
  have zero : shows 0 ↔ size? text = some 0 := (read 0).symm
  rw [regionSize_of_text described, ← size?_eq_none_iff read, zero]
  simp only [← read]
  cases size? text with
  | none => simp
  | some size =>
    by_cases empty : size = 0
    · simp [empty, Eq.comm]
    · simp [empty, Eq.comm]

/-- The notation tells whether there is a sign. -/
theorem Denotes.unsigned {text : List Char} {size other : Nat} (plain : Denotes [] text size) :
    ¬Denotes ['+'] text other := by
  intro signed
  obtain ⟨x, digits, values, trimmed, -, -, read, -⟩ := plain.trimmed (by simp)
  obtain ⟨y, number, -, same, -⟩ := signed.trimmed not_isBlank_of_plus
  rw [trimmed, List.nil_append] at same
  obtain rfl : digits = '+' :: number := (List.cons.inj (List.cons.inj same).2).2
  cases read with
  | cons plus => exact not_digit_plus _ plus

/-- A plus sign may precede the digits of a size, and but for texts that have one, exactly the plain
notation is read. -/
theorem size_read (text : String) :
    ReadAs text (Gives text) ∧
    (ReadAs text (Denotes [] text.toList) ↔ ∀ n : UInt64, ¬Denotes ['+'] text.toList n.toNat) := by
  have given : ReadAs text (Gives text) := readAs_of_iff fun n => size?_eq_some_iff
  refine ⟨given, fun plain n signed => ?_, fun unsigned => readAs_of_iff fun n => ?_⟩
  · exact ((plain.read n).1 ((given.read n).2 (.inr signed))).unsigned signed
  · rw [given.read, Gives, or_iff_left (unsigned n)]

/-- A device whose second region has 256 bytes, as its description says with a plus sign. -/
def described : FileTree :=
  FileTree.add {} "class/uio0/maps/map1/size" (.file (.ofByteArray " 0X+00100\n".toUTF8))

theorem size_read_described :
    let d : Device := ⟨["uio0"], "class/uio0"⟩
    described.readText (d.sizePath 1) = .ok " 0X+00100\n" ∧
      Gives " 0X+00100\n" 256 ∧ d.regionSize described 1 = .ok 256 := by
  intro d
  have text : described.readText (d.sizePath 1) = .ok " 0X+00100\n" := by decide +kernel
  obtain ⟨given, -⟩ := size_read " 0X+00100\n"
  have gives : Gives " 0X+00100\n" 256 := (given.read 256).1 (by decide +kernel)
  exact ⟨text, gives, ((given.region d described 1 text).1 256).2 ⟨by decide, gives⟩⟩

/-- A plus sign is no digit, but a size is read behind it. -/
theorem size_with_plus :
    size? "0x+10" = some 16 ∧
    ¬∀ (text : String) (n : UInt64), size? text = some n ↔ Denotes [] text.toList n.toNat := by
  have read : size? "0x+10" = some 16 := by decide +kernel
  refine ⟨read, fun exact => ?_⟩
  obtain ⟨x, digits, values, trimmed, -, -, digit, -⟩ :=
    ((exact "0x+10" 16).1 read).trimmed (by simp)
  have number : Text.trimmed "0x+10".toList = ['0', 'x', '+', '1', '0'] := by decide +kernel
  rw [number, List.nil_append] at trimmed
  cases trimmed
  cases digit with
  | cons plus => exact not_digit_plus _ plus

end Device
end SdBridge
