import Mathlib.Tactic.Common
import SdBridge.Proofs.Event.Race

/-!
The text of an event. It is cut where a character of UTF-8 begins, and that is where there are whole
characters before the cut. So what is kept can always be read, and no more of the text would fit.
-/
namespace SdBridge.Event.Payload

theorem not_continues_of_first {byte : UInt8} (first : byte.IsUTF8FirstByte) :
    continues byte = false := by
  have all : ∀ byte : BitVec 8, (UInt8.ofBitVec byte).IsUTF8FirstByte →
    continues ⟨byte⟩ = false := by decide
  exact all byte.toBitVec first

theorem continues_of_rest (n : Nat) : continues (UInt8.ofNat (n % 0x40 + 0x80)) = true := by
  have all : ∀ n < 0x40, continues (UInt8.ofNat (n + 0x80)) = true := by decide +kernel
  exact all _ (Nat.mod_lt _ (by decide))

/-- The bytes of a character are its first byte and those that continue it. -/
theorem first_or_continues {c : Char} {byte : UInt8} (found : byte ∈ String.utf8EncodeChar c) :
    byte.IsUTF8FirstByte ∨ continues byte = true := by
  have one : ∀ n ≤ 0x7f, (UInt8.ofNat n).IsUTF8FirstByte := by decide +kernel
  have two : ∀ n < 0x20, (UInt8.ofNat (n + 0xc0)).IsUTF8FirstByte := by decide
  have three : ∀ n < 0x10, (UInt8.ofNat (n + 0xe0)).IsUTF8FirstByte := by decide
  have four : ∀ n < 0x08, (UInt8.ofNat (n + 0xf0)).IsUTF8FirstByte := by decide
  simp only [String.utf8EncodeChar] at found
  split at found
  · rename_i short
    rw [List.mem_singleton] at found
    exact .inl (found ▸ one _ short)
  -- The lengths differ in the first byte; those behind it have one form.
  · split at found
    · simp only [List.mem_cons, List.not_mem_nil, or_false] at found
      rcases found with rfl | rfl
      · exact .inl (two _ (Nat.mod_lt _ (by decide)))
      · exact .inr (continues_of_rest _)
    · split at found
      · simp only [List.mem_cons, List.not_mem_nil, or_false] at found
        rcases found with rfl | rfl | rfl
        · exact .inl (three _ (Nat.mod_lt _ (by decide)))
        all_goals exact .inr (continues_of_rest _)
      · simp only [List.mem_cons, List.not_mem_nil, or_false] at found
        rcases found with rfl | rfl | rfl | rfl
        · exact .inl (four _ (Nat.mod_lt _ (by decide)))
        all_goals exact .inr (continues_of_rest _)

/-- A byte of a text either begins a character or continues one. -/
theorem continues_iff {text : String} {position : Nat} {byte : UInt8}
    (found : text.toUTF8.data[position]? = some byte) :
    continues byte = false ↔ byte.IsUTF8FirstByte := by
  refine ⟨fun fresh => ?_, not_continues_of_first⟩
  obtain ⟨chars, rfl⟩ := text.exists_eq_ofList
  have member : byte ∈ chars.flatMap String.utf8EncodeChar := by
    have listed := Array.mem_of_getElem? found
    simpa [List.utf8Encode] using listed
  obtain ⟨c, -, listed⟩ := List.mem_flatMap.1 member
  refine (first_or_continues listed).resolve_right ?_
  simp [fresh]

/-- A text can be cut where there are whole characters before the place. -/
theorem isBoundary_iff {text : String} {position : Nat} :
    isBoundary text.toUTF8.data position = true ↔
      ∃ front back : String, text = front ++ back ∧ position = front.utf8ByteSize := by
  have whole : String.Pos.Raw.IsValid text ⟨position⟩ ↔
      ∃ front back : String, text = front ++ back ∧ position = front.utf8ByteSize := by
    rw [String.Pos.Raw.isValid_iff_exists_append]
    simp [String.Pos.Raw.ext_iff]
  have size : text.toUTF8.data.size = text.utf8ByteSize := rfl
  rw [← whole, String.Pos.Raw.isValid_iff_isUTF8FirstByte, isBoundary]
  cases found : text.toUTF8.data[position]? with
  | none =>
    have past := Array.getElem?_eq_none_iff.1 found
    simp only [beq_iff_eq, String.Pos.Raw.ext_iff, String.Pos.Raw.lt_iff,
      String.byteIdx_rawEndPos]
    constructor
    · intro last
      exact .inl last
    · rintro (last | ⟨inside, -⟩)
      · exact last
      · omega
  | some byte =>
    obtain ⟨inside, here⟩ := Array.getElem?_eq_some_iff.1 found
    have below : (⟨position⟩ : String.Pos.Raw) < text.rawEndPos := inside
    have byte_eq : text.getUTF8Byte ⟨position⟩ below = byte := here
    have notLast : (⟨position⟩ : String.Pos.Raw) ≠ text.rawEndPos := by
      intro last
      have past : position = text.utf8ByteSize := congrArg String.Pos.Raw.byteIdx last
      omega
    simp only [Bool.or_eq_true, beq_iff_eq, Bool.not_eq_true', continues_iff found, notLast,
      false_or, below, exists_true_left, byte_eq]
    refine ⟨?_, .inr⟩
    rintro (rfl | first)
    · exact byte_eq ▸ String.isUTF8FirstByte_getUTF8Byte_zero
    · exact first

section Loop

variable {text : Array UInt8}

theorem isBoundary_zero (text : Array UInt8) : isBoundary text 0 = true := by
  rw [isBoundary]
  cases found : text[0]? with
  | none =>
    have none := Array.getElem?_eq_none_iff.1 found
    exact beq_iff_eq.2 (by omega)
  | some byte => rfl

theorem isBoundary_boundaryBefore (text : Array UInt8) (position : Nat) :
    isBoundary text (boundaryBefore text position) = true := by
  induction position with
  | zero => exact isBoundary_zero text
  | succ position ih =>
    rw [boundaryBefore]
    split
    · assumption
    · exact ih

theorem le_boundaryBefore {position place : Nat} (before : place ≤ position)
    (boundary : isBoundary text place = true) : place ≤ boundaryBefore text position := by
  induction position with
  | zero => exact before
  | succ position ih =>
    rw [boundaryBefore]
    split
    · exact before
    · rename_i inner
      have earlier : place ≠ position + 1 := by
        rintro rfl
        exact inner boundary
      exact ih (by omega)

/-- The loop that looks for the place to cut at. It goes back at most `steps` bytes, one at a time,
and fails where it would have to pass zero. -/
def backOff (text : Array UInt8) : (steps position : Nat) → Option Nat
  | 0, position => if isBoundary text position then some position else none
  | steps + 1, position =>
    if isBoundary text position then some position
    else match position with
      | 0 => none
      | position + 1 => backOff text steps position

theorem backOff_eq {steps position : Nat} (near : position ≤ boundaryBefore text position + steps) :
    backOff text steps position = some (boundaryBefore text position) := by
  induction position generalizing steps with
  | zero =>
    cases steps <;> simp [backOff, isBoundary_zero, boundaryBefore]
  | succ position ih =>
    have below := boundaryBefore_le text position
    rw [boundaryBefore] at near ⊢
    split
    · rename_i boundary
      cases steps <;> rw [backOff, if_pos boundary]
    · rename_i inner
      rw [if_neg inner] at near
      cases steps with
      | zero => omega
      | succ steps =>
        rw [backOff, if_neg inner]
        exact ih (by omega)

end Loop

section Text

/-- Of two beginnings of a text the shorter one is a beginning of the other. -/
theorem begins_of_shorter {text front back other rest : String} (cut : text = front ++ back)
    (also : text = other ++ rest) (shorter : other.utf8ByteSize ≤ front.utf8ByteSize) :
    ∃ more, front = other ++ more := by
  have same := congrArg String.toList (cut.symm.trans also)
  rw [String.toList_append, String.toList_append] at same
  rcases List.append_eq_append_iff.1 same with ⟨more, longer, -⟩ | ⟨more, inside, -⟩
  · have joined : other = front ++ String.ofList more :=
      String.toList_injective (by rw [longer, String.toList_append, String.toList_ofList])
    rw [joined, String.utf8ByteSize_append] at shorter
    have none : String.ofList more = "" := String.utf8ByteSize_eq_zero_iff.1 (by omega)
    exact ⟨"", by rw [joined, none, String.append_empty, String.append_empty]⟩
  · refine ⟨String.ofList more, String.toList_injective ?_⟩
    rw [inside, String.toList_append, String.toList_ofList]

/-- The first character of a text, if there is one. -/
theorem eq_append_of_ne_empty {text : String} (some : text ≠ "") :
    ∃ c rest, text = String.singleton c ++ rest := by
  cases chars : text.toList with
  | nil => exact absurd (String.toList_eq_nil_iff.1 chars) some
  | cons c rest =>
    refine ⟨c, String.ofList rest, String.toList_injective ?_⟩
    rw [chars, String.toList_append, String.toList_singleton, String.toList_ofList]
    rfl

theorem exists_front (text : String) : ∃ front back : String, text = front ++ back ∧
    kept text.toUTF8.data = front.utf8ByteSize := by
  obtain ⟨front, back, cut, place⟩ := isBoundary_iff.1
    (isBoundary_boundaryBefore text.toUTF8.data (min text.toUTF8.data.size capacity))
  exact ⟨front, back, cut, place⟩

/-- A character that does not fit is cut off whole, and it has at most four bytes. -/
theorem min_le_kept (text : String) :
    min text.utf8ByteSize capacity ≤ kept text.toUTF8.data + 3 := by
  obtain ⟨front, back, cut, place⟩ := exists_front text
  by_cases all : back = ""
  · rw [place, cut, all, String.append_empty]
    omega
  · obtain ⟨c, rest, first⟩ := eq_append_of_ne_empty all
    have next : isBoundary text.toUTF8.data (front.utf8ByteSize + c.utf8Size) = true := by
      refine isBoundary_iff.2 ⟨front ++ String.singleton c, rest, ?_, ?_⟩
      · rw [cut, first, String.append_assoc]
      · rw [String.utf8ByteSize_append, String.utf8ByteSize_singleton]
    by_contra far
    have pos := c.utf8Size_pos
    have wide := c.utf8Size_le_four
    have latest := le_boundaryBefore
      (show front.utf8ByteSize + c.utf8Size ≤ min text.utf8ByteSize capacity by omega) next
    have same : boundaryBefore text.toUTF8.data (min text.utf8ByteSize capacity) =
      kept text.toUTF8.data := rfl
    omega

end Text

theorem toNat_length_ofString (text : String) :
    (ofString text).length.toNat = kept text.toUTF8.data := by
  have small := kept_le text.toUTF8.data
  simp only [capacity] at small
  simp only [ofString, Nat.toUInt8, UInt8.toNat_ofNat']
  omega

theorem getElem_ofString (text : String) {i : Nat} (inside : i < capacity) :
    (ofString text).bytes[i] =
      if i < kept text.toUTF8.data then text.toUTF8.data[i]?.getD 0 else 0 :=
  Vector.getElem_ofFn inside

/-- The bytes of a payload are those of the characters that are kept. -/
theorem used_ofString {text front back : String} (cut : text = front ++ back)
    (place : kept text.toUTF8.data = front.utf8ByteSize) :
    (ofString text).used = front.toUTF8.data.toList := by
  have small := kept_le text.toUTF8.data
  have size : front.toUTF8.data.size = front.utf8ByteSize := rfl
  have source : text.toUTF8.data = front.toUTF8.data ++ back.toUTF8.data := by
    rw [cut]
    simp
  apply List.ext_getElem?
  intro i
  rw [used, toNat_length_ofString, List.getElem?_take]
  by_cases inside : i < kept text.toUTF8.data
  · have here : i < front.toUTF8.data.size := by omega
    have byte : text.toUTF8.data[i]? = front.toUTF8.data[i]? := by
      rw [source, Array.getElem?_append_left here]
    rw [if_pos inside, Vector.getElem?_toList, Vector.getElem?_eq_getElem (by omega),
      getElem_ofString, if_pos inside, byte, Array.getElem?_toList,
      Array.getElem?_eq_getElem here, Option.getD_some]
  · rw [if_neg inside, Array.getElem?_toList, Array.getElem?_eq_none (by omega)]

theorem fromUTF8?_toUTF8 (text : String) :
    String.fromUTF8? ⟨text.toUTF8.data.toList.toArray⟩ = some text := by
  rw [Array.toArray_toList]
  exact dif_pos text.isValidUTF8

/-- What a payload keeps of a text: of its beginnings that are whole characters and fit, the longest
one. -/
structure Keeps (text : String) (p : Payload) : Prop where
  readable : String.fromUTF8? ⟨p.used.toArray⟩ = some p.toString
  begins : ∃ rest, text = p.toString ++ rest
  fits : p.toString.utf8ByteSize ≤ 40
  longest : ∀ other rest : String, text = other ++ rest → other.utf8ByteSize ≤ 40 →
    ∃ more, p.toString = other ++ more
  length : p.length.toNat = p.toString.utf8ByteSize
  clear : ∀ i (inside : i < 40), p.length.toNat ≤ i → p.bytes[i] = 0

theorem keeps_ofString (text : String) : (ofString text).Keeps text := by
  obtain ⟨front, back, cut, place⟩ := exists_front text
  have read : String.fromUTF8? ⟨(ofString text).used.toArray⟩ = some front := by
    rw [used_ofString cut place, fromUTF8?_toUTF8]
  have shown : (ofString text).toString = front := by
    rw [toString, read, Option.getD_some]
  have length : (ofString text).length.toNat = front.utf8ByteSize := by
    rw [toNat_length_ofString, place]
  refine ⟨shown ▸ read, ⟨back, shown ▸ cut⟩, ?_, ?_, shown ▸ length, ?_⟩
  · rw [shown, ← place]
    exact kept_le _
  · intro other rest also fits
    rw [shown]
    refine begins_of_shorter cut also ?_
    rw [← place]
    refine le_boundaryBefore ?_ (isBoundary_iff.2 ⟨other, rest, also, rfl⟩)
    change _ ≤ min text.utf8ByteSize capacity
    rw [also, String.utf8ByteSize_append]
    simp only [capacity]
    omega
  · intro i inside past
    rw [toNat_length_ofString] at past
    rw [getElem_ofString, if_neg (by omega)]

/-- A payload keeps the longest beginning of a text that fits, and every record taken reads as such
a text. -/
theorem text_kept :
    (∀ text : String, (ofString text).Keeps text ∧
      backOff text.toUTF8.data 3 (min text.utf8ByteSize 40) =
        some (ofString text).length.toNat) ∧
    ∀ (capacity : Nat) (ring : Ring) (records : List Record) (turns : List Ring.Turn),
      Ring.ofCapacity capacity = .ok ring → records.length < 2 ^ 64 - 1 →
      (∀ record ∈ records, ∃ text, record.payload = .ofString text) →
      ∀ taken ∈ (Ring.Race.run ring records turns).taken, taken.record ∈ records ∧
        ∃ text, taken.record.payload = .ofString text ∧ taken.record.payload.Keeps text := by
  constructor
  · intro text
    refine ⟨keeps_ofString text, ?_⟩
    rw [toNat_length_ofString]
    exact backOff_eq (min_le_kept text)
  · intro capacity ring records turns made few texts taken found
    obtain ⟨fair, -⟩ := Ring.Race.fair_run made few turns
    have published := List.mem_of_getElem? (fair.taken taken found).2
    obtain ⟨text, written⟩ := texts taken.record published
    exact ⟨published, text, written, written ▸ keeps_ofString text⟩

/-- A text whose last character lies across the limit, and a record without text behind it. -/
def straddling : List Record :=
  [.of .debug "012345678901234567890123456789012345678€" 7 1000, ⟨.done, .empty, 0, 2000⟩]

theorem text_kept_straddling :
    let turns := List.replicate 22 Ring.Turn.produce ++ [.take 1] ++ List.replicate 11 .consume
    let r := Ring.Race.run Ring.Race.twoSlots straddling turns
    ∃ taken, r.taken = [taken] ∧ taken.record.payload.length = 39 ∧
      String.fromUTF8? ⟨taken.record.payload.used.toArray⟩ =
        some taken.record.payload.toString := by
  intro turns r
  have made : Ring.ofCapacity 2 = .ok Ring.Race.twoSlots := rfl
  have texts : ∀ record ∈ straddling, ∃ text, record.payload = .ofString text := by
    intro record found
    simp only [straddling, List.mem_cons, List.not_mem_nil, or_false] at found
    rcases found with rfl | rfl
    · exact ⟨_, rfl⟩
    · exact ⟨"", by decide +kernel⟩
  have took : r.taken = [⟨0, 0, .of .debug "012345678901234567890123456789012345678€" 7 1000⟩] := by
    decide +kernel
  obtain ⟨-, text, -, keeps⟩ := text_kept.2 2 Ring.Race.twoSlots straddling turns made (by decide)
    texts _ (took ▸ List.mem_singleton_self _)
  exact ⟨_, took, by decide +kernel, keeps.readable⟩

end SdBridge.Event.Payload
