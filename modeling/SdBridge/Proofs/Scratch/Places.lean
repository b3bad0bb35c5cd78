import Mathlib.Order.CompletePartialOrder
import Mathlib.Order.Interval.Set.Disjoint
import SdBridge.Scratch.Placement

/-!
Objects that are placed in an arena one after the other. Each one gets the first place behind all
that was handed out before, so places lie inside the arena, apart from each other; and there is none
only if no place behind them is long enough.
-/
namespace SdBridge.Scratch

section Multiples

variable {n m unit : Nat}

theorem dvd_nextMultiple (n unit : Nat) : unit ∣ nextMultiple n unit := Nat.dvd_mul_left ..

theorem le_nextMultiple (pos : 0 < unit) (n : Nat) : n ≤ nextMultiple n unit := by
  have whole := Nat.div_add_mod (n + unit - 1) unit
  have rest := Nat.mod_lt (n + unit - 1) pos
  rw [nextMultiple, Nat.mul_comm]
  omega

theorem nextMultiple_le (pos : 0 < unit) (multiple : unit ∣ m) (behind : n ≤ m) :
    nextMultiple n unit ≤ m := by
  obtain ⟨k, rfl⟩ := multiple
  rw [nextMultiple, Nat.mul_comm unit]
  apply Nat.mul_le_mul_right
  apply Nat.le_of_lt_succ
  apply Nat.div_lt_of_lt_mul
  rw [Nat.mul_succ]
  omega

end Multiples

theorem word?_eq_some {n : Nat} (small : n < UInt64.size) : word? n = some n := if_pos small

namespace Arena

variable {a : Arena} {size alignment : Nat}

/-- The address where an object of an alignment starts. -/
theorem base_add_nextStart (pos : 0 < alignment) :
    a.base + a.nextStart alignment = nextMultiple (a.base + a.used) alignment := by
  have := le_nextMultiple pos (a.base + a.used)
  rw [nextStart]
  omega

theorem dvd_base_add_nextStart (pos : 0 < alignment) :
    alignment ∣ a.base + a.nextStart alignment :=
  base_add_nextStart pos ▸ dvd_nextMultiple ..

theorem used_le_nextStart (pos : 0 < alignment) : a.used ≤ a.nextStart alignment := by
  have := le_nextMultiple pos (a.base + a.used)
  rw [nextStart]
  omega

/-- No place that is aligned and behind all others starts earlier. -/
theorem nextStart_le (pos : 0 < alignment) {start : Nat} (behind : a.used ≤ start)
    (aligned : alignment ∣ a.base + start) : a.nextStart alignment ≤ start := by
  have := nextMultiple_le pos aligned (Nat.add_le_add_left behind a.base)
  rw [nextStart]
  omega

/-- The place that is tried is the first one, so it fits if any does. -/
theorem fits_iff (pos : 0 < alignment) : a.nextStart alignment + size ≤ a.size ↔
    ∃ start, a.used ≤ start ∧ alignment ∣ a.base + start ∧ start + size ≤ a.size := by
  constructor
  · intro fits
    exact ⟨_, used_le_nextStart pos, dvd_base_add_nextStart pos, fits⟩
  · rintro ⟨start, behind, aligned, fits⟩
    have := nextStart_le pos behind aligned
    omega

/-- The end of a place that fits is found from the same start, and leaves no word. -/
theorem nextEnd?_of_fits (words : a.base + a.size < UInt64.size) (pos : 0 < alignment)
    (fits : a.nextStart alignment + size ≤ a.size) :
    a.nextEnd? size alignment = some (a.nextStart alignment + size) := by
  rw [nextEnd?, ← base_add_nextStart pos, word?_eq_some (by omega)]
  simp only [Option.bind_eq_bind, Option.bind_some, Nat.add_sub_cancel_left]
  rw [word?_eq_some (by omega), Option.bind_some, if_pos fits]

theorem nextEnd?_of_misfits (misfits : ¬a.nextStart alignment + size ≤ a.size) :
    a.nextEnd? size alignment = none := by
  rw [nextEnd?, word?]
  split
  · rw [Option.bind_eq_bind, Option.bind_some, word?]
    split
    · exact if_neg misfits
    · rfl
  · rfl

theorem alloc_of_fits {α : Type} (words : a.base + a.size < UInt64.size) (pos : 0 < alignment)
    (object : α) (fits : a.nextStart alignment + size ≤ a.size) :
    a.alloc size alignment object =
      .ok (a.nextStart alignment, { a with used := a.nextStart alignment + size }) := by
  rw [alloc, nextEnd?_of_fits words pos fits]

theorem alloc_of_misfits {α : Type} (object : α)
    (misfits : ¬a.nextStart alignment + size ≤ a.size) :
    a.alloc size alignment object = .error (.exhausted size (a.size - a.used), object) := by
  rw [alloc, nextEnd?_of_misfits misfits]

end Arena

structure Object (α : Type) where
  size : Nat
  alignment : Nat
  value : α
  filled : 0 < size := by decide
  aligned : 0 < alignment := by decide

structure Usage (α : Type) where
  placement : Placement
  placed : List (Object α × Placed α) := []

namespace Usage

variable {α : Type}

def put (u : Usage α) (o : Object α) : Usage α :=
  let (placed, _, placement) := u.placement.put o.size o.alignment o.value
  ⟨placement, u.placed ++ [(o, placed)]⟩

def run (arena : Arena) (objects : List (Object α)) : Usage α :=
  objects.foldl put { placement := .scratch arena }

def region (base : Nat) : Object α × Placed α → Set Nat
  | (o, ⟨_, .arena start⟩) => Set.Ico (base + start) (base + start + o.size)
  | (_, ⟨_, .heap⟩) => ∅

/-- An object keeps its value, and its place in the arena is aligned and below a mark. -/
def Stands (base mark : Nat) (p : Object α × Placed α) : Prop :=
  p.2.object = p.1.value ∧ ∀ start, p.2.place = .arena start →
    p.1.alignment ∣ base + start ∧ start + p.1.size ≤ mark

/-- All places so far are below the mark of the arena, so those to come are apart from them. -/
structure Sound (base length : Nat) (u : Usage α) (arena : Arena) : Prop where
  placement : u.placement = .scratch arena
  here : arena.base = base
  whole : arena.size = length
  used : arena.used ≤ length
  stands : ∀ p ∈ u.placed, Stands base arena.used p
  apart : (u.placed.map (region base)).Pairwise Disjoint

variable {base length : Nat} {u : Usage α} {arena : Arena}

theorem sound_start : Sound base length ({ placement := .scratch ⟨base, length, 0⟩ } : Usage α)
    ⟨base, length, 0⟩ :=
  ⟨rfl, rfl, rfl, Nat.zero_le _, by simp, List.Pairwise.nil⟩

theorem Sound.apart_next (sound : Sound base length u arena) (o : Object α) {start : Nat}
    (behind : arena.used ≤ start) : ∀ p ∈ u.placed,
      Disjoint (region base p) (Set.Ico (base + start) (base + start + o.size)) := by
  rintro ⟨other, ⟨value, place⟩⟩ member
  cases place with
  | heap => exact Set.empty_disjoint _
  | arena earlier =>
    obtain ⟨-, below⟩ := (sound.stands _ member).2 earlier rfl
    apply Set.disjoint_left.2
    rintro address ⟨-, before⟩ ⟨after, -⟩
    simp only at below
    omega

theorem Sound.extend (sound : Sound base length u arena) {mark : Nat} {p : Object α × Placed α}
    (later : arena.used ≤ mark) (inside : mark ≤ length) (stands : Stands base mark p)
    (apart : ∀ earlier ∈ u.placed, Disjoint (region base earlier) (region base p)) :
    Sound base length ⟨.scratch { arena with used := mark }, u.placed ++ [p]⟩
      { arena with used := mark } := by
  refine ⟨rfl, sound.here, sound.whole, inside, ?_, ?_⟩
  · intro q member
    rcases List.mem_append.1 member with old | new
    · obtain ⟨value, place⟩ := sound.stands q old
      exact ⟨value, fun start here => ⟨(place start here).1, (place start here).2.trans later⟩⟩
    · rw [List.mem_singleton.1 new]
      exact stands
  · rw [List.map_append, List.pairwise_append]
    refine ⟨sound.apart, List.pairwise_singleton .., ?_⟩
    intro earlier member last new
    obtain ⟨q, old, rfl⟩ := List.mem_map.1 member
    rw [List.mem_singleton.1 new]
    exact apart q old

variable {o : Object α}

theorem put_of_fits (words : arena.base + arena.size < UInt64.size)
    (fits : arena.nextStart o.alignment + o.size ≤ arena.size) :
    (Placement.scratch arena).put o.size o.alignment o.value =
      (⟨o.value, .arena (arena.nextStart o.alignment)⟩, [],
        .scratch { arena with used := arena.nextStart o.alignment + o.size }) := by
  rw [Placement.put, if_neg o.filled.ne', Arena.alloc_of_fits words o.aligned o.value fits]

theorem put_of_misfits (misfits : ¬arena.nextStart o.alignment + o.size ≤ arena.size) :
    (Placement.scratch arena).put o.size o.alignment o.value =
      (⟨o.value, .heap⟩, [Placement.misfit (.exhausted o.size (arena.size - arena.used))],
        .scratch arena) := by
  rw [Placement.put, if_neg o.filled.ne', Arena.alloc_of_misfits o.value misfits]

theorem Sound.put (words : base + length < UInt64.size) (sound : Sound base length u arena)
    (o : Object α) : ∃ after, Sound base length (u.put o) after := by
  have addresses : arena.base + arena.size < UInt64.size := by rwa [sound.here, sound.whole]
  have behind := Arena.used_le_nextStart (a := arena) o.aligned
  rw [Usage.put, sound.placement]
  by_cases fits : arena.nextStart o.alignment + o.size ≤ arena.size
  · rw [put_of_fits addresses fits]
    refine ⟨_, sound.extend (by omega) (sound.whole ▸ fits) ⟨rfl, ?_⟩ (sound.apart_next o behind)⟩
    intro start place
    cases place
    exact ⟨sound.here ▸ Arena.dvd_base_add_nextStart o.aligned, Nat.le_refl _⟩
  · rw [put_of_misfits fits]
    exact ⟨_, sound.extend (Nat.le_refl _) sound.used ⟨rfl, by simp⟩ fun q _ =>
      Set.disjoint_empty _⟩

theorem Sound.foldl (words : base + length < UInt64.size) (sound : Sound base length u arena)
    (objects : List (Object α)) : ∃ after, Sound base length (objects.foldl Usage.put u) after := by
  induction objects generalizing u arena with
  | nil => exact ⟨arena, sound⟩
  | cons o objects ih =>
    obtain ⟨after, sound⟩ := sound.put words o
    exact ih sound

end Usage

/-- Objects have aligned places apart from each other, and the next one gets a place exactly if
there is room for it. -/
theorem places_apart {α : Type} {base length : Nat} (words : base + length < UInt64.size)
    (objects : List (Object α)) :
    let u := Usage.run ⟨base, length, 0⟩ objects
    ∃ arena : Arena, u.placement = .scratch arena ∧ arena.base = base ∧ arena.size = length ∧
      arena.used ≤ length ∧
      (u.placed.map (Usage.region base)).Pairwise Disjoint ∧
      (∀ o placed, (o, placed) ∈ u.placed → placed.object = o.value ∧
        ∀ start, placed.place = .arena start →
          o.alignment ∣ base + start ∧ start + o.size ≤ arena.used) ∧
      ∀ o : Object α,
        let tried := arena.alloc o.size o.alignment o.value
        let put := (Placement.scratch arena).put o.size o.alignment o.value
        (∀ start after, tried = .ok (start, after) →
          o.alignment ∣ base + start ∧ arena.used ≤ start ∧ start + o.size ≤ length ∧
          (∀ p ∈ u.placed,
            Disjoint (Usage.region base p) (Set.Ico (base + start) (base + start + o.size))) ∧
          after = { arena with used := start + o.size } ∧
          put = (⟨o.value, .arena start⟩, [], .scratch after)) ∧
        ((∃ failure, tried = .error failure) ↔ ¬∃ start, arena.used ≤ start ∧
          o.alignment ∣ base + start ∧ start + o.size ≤ length) ∧
        ∀ failure, tried = .error failure →
          failure = (.exhausted o.size (length - arena.used), o.value) ∧
          put = (⟨o.value, .heap⟩, [Placement.misfit failure.1], .scratch arena) := by
  intro u
  obtain ⟨arena, sound⟩ : ∃ arena, Usage.Sound base length u arena :=
    Usage.sound_start.foldl words objects
  obtain ⟨placement, rfl, rfl, used, stands, apart⟩ := id sound
  refine ⟨arena, placement, rfl, rfl, used, apart, ?_, ?_⟩
  · intro o placed member
    exact stands _ member
  intro o tried put
  have behind := Arena.used_le_nextStart (a := arena) o.aligned
  rw [← Arena.fits_iff o.aligned]
  by_cases fits : arena.nextStart o.alignment + o.size ≤ arena.size
  · have ok : tried = .ok _ := Arena.alloc_of_fits words o.aligned o.value fits
    refine ⟨?_, ?_, ?_⟩
    · intro start after found
      cases ok.symm.trans found
      exact ⟨Arena.dvd_base_add_nextStart o.aligned, behind, fits, sound.apart_next o behind, rfl,
        Usage.put_of_fits words fits⟩
    · simp [ok, fits]
    · intro failure failed
      cases ok.symm.trans failed
  · have error : tried = .error _ := Arena.alloc_of_misfits o.value fits
    refine ⟨?_, ?_, ?_⟩
    · intro start after found
      cases error.symm.trans found
    · simp [error, fits]
    · intro failure failed
      cases error.symm.trans failed
      exact ⟨rfl, Usage.put_of_misfits fits⟩

/-- After a byte and a word of eight bytes, twelve bytes are too many, but two still fit. -/
theorem places_apart_narrow :
    1 + 24 < UInt64.size ∧
    (∃ failure, (Arena.mk 1 24 15).alloc 12 1 () = .error failure ∧
      failure = (.exhausted 12 9, ())) ∧
    ∃ start after, (Arena.mk 1 24 15).alloc 2 2 () = .ok (start, after) ∧ 2 ∣ 1 + start ∧
      15 ≤ start ∧ start + 2 ≤ 24 ∧ after = ⟨1, 24, start + 2⟩ := by
  have words : 1 + 24 < UInt64.size := by decide
  obtain ⟨arena, placement, -, -, -, -, -, next⟩ :=
    places_apart words [⟨1, 1, (), by decide, by decide⟩, ⟨8, 8, (), by decide, by decide⟩]
  have here : arena = ⟨1, 24, 15⟩ := by cases placement; rfl
  subst here
  refine ⟨words, ?_, ?_⟩
  · obtain ⟨-, refused, failing⟩ := next { size := 12, alignment := 1, value := () }
    obtain ⟨failure, failed⟩ := refused.2 <| by
      rintro ⟨start, behind, -, fits⟩
      change 15 ≤ start at behind
      change start + 12 ≤ 24 at fits
      omega
    exact ⟨failure, failed, (failing failure failed).1⟩
  · obtain ⟨placed, refused, -⟩ := next { size := 2, alignment := 2, value := () }
    cases found : (Arena.mk 1 24 15).alloc 2 2 () with
    | error failure =>
      exact absurd ⟨15, by decide, by decide, by decide⟩ (refused.1 ⟨failure, found⟩)
    | ok given =>
      obtain ⟨start, after⟩ := given
      obtain ⟨aligned, behind, fits, -, rfl, -⟩ := placed start after found
      exact ⟨start, _, rfl, aligned, behind, fits, rfl⟩

end SdBridge.Scratch
