import SdBridge.Options
import SdBridge.Proofs.Options.Line

/-!
What the environment adds to what was given. A variable counts only as long as its option has no
value or its switch is off, and what is there already stays.
-/
namespace SdBridge.Options

def Raised (e : Environment) (s : Switch) : Prop :=
  ∃ name, s.variableName? = some name ∧ e.lookup? name = some "true"

def fallback? (e : Environment) (p : Parameter) : Option Value :=
  (e.lookup? p.variableName).bind p.valueOf?

variable {e : Environment} {g : Given}

/-- What all steps of a fold keep, if each succeeds and accounts for its element. -/
theorem foldlM_eq_ok {α β ε : Type} {f : β → α → Except ε β} {kept : List α → β → Prop}
    (step : ∀ done a b, kept done b → ∃ b', f b a = .ok b' ∧ kept (done ++ [a]) b') {done : List α}
    {b : β} (start : kept done b) (rest : List α) :
    ∃ b', rest.foldlM f b = .ok b' ∧ kept (done ++ rest) b' := by
  induction rest generalizing done b with
  | nil => exact ⟨b, rfl, by rwa [List.append_nil]⟩
  | cons a rest ih =>
    obtain ⟨b₁, first, kept₁⟩ := step done a b start
    obtain ⟨b₂, others, kept₂⟩ := ih kept₁
    refine ⟨b₂, ?_, by simpa using kept₂⟩
    rw [List.foldlM_cons, first]
    exact others

/-- A variable is looked at only if its option has no value. -/
theorem fillParameter_eq_ok {p : Parameter} (ready : g.value? p = none →
      ∀ text, e.lookup? p.variableName = some text → ∃ value, Writes p text value) :
    ∃ g', fillParameter e g p = .ok g' ∧
      (∀ q, g'.value? q = (g.value? q).or (if p = q then fallback? e q else none)) ∧
      (∀ s, g'.has s = g.has s) ∧ g'.image = g.image := by
  rw [fillParameter]
  split
  · rename_i text unset found
    obtain ⟨value, writes⟩ := ready unset text found
    have read : p.read text = .ok value := read_eq_ok_iff.2 writes
    have valued : fallback? e p = some value := by
      rw [fallback?, found, Option.bind_some, Parameter.valueOf?_eq_some_iff.2 writes]
    refine ⟨{ g with values := g.values ++ [(p, value)] }, ?_, fun q => ?_, fun s => rfl, rfl⟩
    · simp [Given.assign, unset, read, Except.map]
    · rw [Given.value?_append]
      by_cases same : p = q
      · rw [if_pos same, if_pos same, ← same, valued]
      · rw [if_neg same, if_neg same]
  · rename_i decided
    refine ⟨g, rfl, fun q => ?_, fun s => rfl, rfl⟩
    by_cases same : p = q
    · subst same
      cases held : g.value? p with
      | some value => rfl
      | none =>
        cases found : e.lookup? p.variableName with
        | some text => exact absurd found (decided text held)
        | none => simp [fallback?, found]
    · rw [if_neg same, Option.or_none]

theorem fillParameters_eq_ok (ready : ∀ p, g.value? p = none →
      ∀ text, e.lookup? p.variableName = some text → ∃ value, Writes p text value) :
    ∃ g', Parameter.all.foldlM (fillParameter e) g = .ok g' ∧
      (∀ p, g'.value? p = (g.value? p).or (fallback? e p)) ∧ (∀ s, g'.has s = g.has s) ∧
      g'.image = g.image := by
  let kept (done : List Parameter) (g' : Given) : Prop :=
    (∀ q, g'.value? q = (g.value? q).or (if q ∈ done then fallback? e q else none)) ∧
      (∀ s, g'.has s = g.has s) ∧ g'.image = g.image
  have step (done : List Parameter) (p : Parameter) (g₁ : Given) (before : kept done g₁) :
      ∃ g₂, fillParameter e g₁ p = .ok g₂ ∧ kept (done ++ [p]) g₂ := by
    obtain ⟨value₁, has₁, image₁⟩ := before
    have ready₁ (unset : g₁.value? p = none) : ∀ text, e.lookup? p.variableName = some text →
        ∃ value, Writes p text value := by
      rw [value₁, Option.or_eq_none_iff] at unset
      exact ready p unset.1
    obtain ⟨g₂, filled, value₂, has₂, image₂⟩ := fillParameter_eq_ok ready₁
    refine ⟨g₂, filled, fun q => ?_, fun s => (has₂ s).trans (has₁ s), image₂.trans image₁⟩
    rw [value₂, value₁, Option.or_assoc]
    by_cases earlier : q ∈ done <;> by_cases same : p = q <;> simp [earlier, same, eq_comm]
  have start : kept [] g := ⟨by simp, fun _ => rfl, rfl⟩
  obtain ⟨g', filled, value, has, image⟩ := foldlM_eq_ok step start Parameter.all
  refine ⟨g', filled, fun p => ?_, has, image⟩
  have listed : p ∈ [] ++ Parameter.all := by cases p <;> decide
  rw [value, if_pos listed]

theorem fillSwitch_eq_ok {s : Switch} (ready : g.has s = false →
      ∀ name text, s.variableName? = some name → e.lookup? name = some text →
        text = "true" ∨ text = "false") :
    ∃ g', fillSwitch e g s = .ok g' ∧ (∀ p, g'.value? p = g.value? p) ∧
      (∀ t, g'.has t = true ↔ g.has t = true ∨ s = t ∧ Raised e t) ∧ g'.image = g.image := by
  rw [fillSwitch]
  split
  · rename_i on
    refine ⟨g, rfl, fun p => rfl, fun t => ⟨.inl, ?_⟩, rfl⟩
    rintro (held | ⟨rfl, -⟩)
    · exact held
    · exact on
  · rename_i off
    rw [Bool.not_eq_true] at off
    have raised (text : String) (found : s.variableName?.bind e.lookup? = some text) :
        Raised e s ↔ text = "true" := by
      obtain ⟨name, named, found⟩ := Option.bind_eq_some_iff.1 found
      simp [Raised, named, found]
    split
    · rename_i unset
      have down : ¬Raised e s := by
        rintro ⟨name, named, found⟩
        simp [named, found] at unset
      exact ⟨g, rfl, fun p => rfl, fun t => by grind, rfl⟩
    · rename_i found
      have down : ¬Raised e s := by simp [raised _ found]
      exact ⟨g, rfl, fun p => rfl, fun t => by grind, rfl⟩
    · rename_i found
      have up : Raised e s := (raised _ found).2 rfl
      refine ⟨{ g with switches := g.switches ++ [s] }, ?_, fun p => rfl, fun t => ?_, rfl⟩
      · simp [Given.turnOn, off]
      · rw [Given.has_append, Bool.or_eq_true, beq_iff_eq]
        grind
    · rename_i text untrue unfalse found
      obtain ⟨name, named, looked⟩ := Option.bind_eq_some_iff.1 found
      rcases ready off name text named looked with rfl | rfl
      · exact absurd rfl unfalse
      · exact absurd rfl untrue

theorem fillSwitches_eq_ok (ready : ∀ s, g.has s = false →
      ∀ name text, s.variableName? = some name → e.lookup? name = some text →
        text = "true" ∨ text = "false") :
    ∃ g', Switch.all.foldlM (fillSwitch e) g = .ok g' ∧ (∀ p, g'.value? p = g.value? p) ∧
      (∀ s, g'.has s = true ↔ g.has s = true ∨ Raised e s) ∧ g'.image = g.image := by
  let kept (done : List Switch) (g' : Given) : Prop :=
    (∀ p, g'.value? p = g.value? p) ∧
      (∀ t, g'.has t = true ↔ g.has t = true ∨ t ∈ done ∧ Raised e t) ∧ g'.image = g.image
  have step (done : List Switch) (s : Switch) (g₁ : Given) (before : kept done g₁) :
      ∃ g₂, fillSwitch e g₁ s = .ok g₂ ∧ kept (done ++ [s]) g₂ := by
    obtain ⟨value₁, has₁, image₁⟩ := before
    obtain ⟨g₂, filled, value₂, has₂, image₂⟩ := fillSwitch_eq_ok (e := e) (g := g₁) (s := s)
      fun off => ready s (by grind)
    refine ⟨g₂, filled, fun p => (value₂ p).trans (value₁ p), fun t => ?_, image₂.trans image₁⟩
    rw [has₂, has₁, List.mem_append, List.mem_singleton]
    grind
  have start : kept [] g := ⟨fun _ => rfl, by simp, rfl⟩
  obtain ⟨g', filled, value, has, image⟩ := foldlM_eq_ok step start Switch.all
  refine ⟨g', filled, value, fun s => ?_, image⟩
  have listed : s ∈ [] ++ Switch.all := by cases s <;> decide
  rw [has, and_iff_right listed]

end SdBridge.Options
