import SdBridge.Program

/-!
Programs with nobody else at work. What a program may touch is read off its accesses, and what all
of these keep, a run keeps, whether it ends with a result or a fault.
-/
namespace SdBridge.Program

variable {Op : Type} {Answer : Op → Type} {σ α β : Type}

theorem bind_done (p : Program Answer α) : p.bind .done = p := by
  induction p with
  | done a | fail fault => rfl
  | call op next ih => exact congrArg (call op) (funext ih)

theorem bind_bind {γ : Type} (p : Program Answer α) (k : α → Program Answer β)
    (l : β → Program Answer γ) : (p.bind k).bind l = p.bind fun a => (k a).bind l := by
  induction p with
  | done a | fail fault => rfl
  | call op next ih => exact congrArg (call op) (funext ih)

instance : LawfulMonad (Program Answer) :=
  LawfulMonad.mk' (Program Answer) bind_done (fun _ _ => rfl) bind_bind

def Within (kind : Op → Prop) : Program Answer α → Prop
  | .done _ | .fail _ => True
  | .call op next => kind op ∧ ∀ answer, (next answer).Within kind

section Within

variable {kind : Op → Prop}

theorem within_pure (a : α) : (pure a : Program Answer α).Within kind := trivial

theorem within_access {op : Op} (of : kind op) :
    (access op : Program Answer (Answer op)).Within kind :=
  ⟨of, fun _ => trivial⟩

theorem within_bind {p : Program Answer α} {k : α → Program Answer β} (first : p.Within kind)
    (rest : ∀ a, (k a).Within kind) : (p >>= k).Within kind := by
  change (p.bind k).Within kind
  induction p with
  | done a => exact rest a
  | fail fault => trivial
  | call op next ih => exact ⟨first.1, fun answer => ih answer (first.2 answer)⟩

theorem within_ite {c : Prop} [Decidable c] {p q : Program Answer α} (left : p.Within kind)
    (right : q.Within kind) : (if c then p else q).Within kind := by
  split
  · exact left
  · exact right

theorem within_mono {wider : Op → Prop} (weaken : ∀ op, kind op → wider op)
    {p : Program Answer α} (within : p.Within kind) : p.Within wider := by
  induction p with
  | done a => trivial
  | fail fault => trivial
  | call op next ih => exact ⟨weaken op within.1, fun answer => ih answer (within.2 answer)⟩

/-- What each access keeps, a run keeps. -/
theorem run_keeps {handle : Handler Answer σ} {keeps : σ → Prop}
    (each : ∀ op s, kind op → keeps s → keeps (handle op s).2) {p : Program Answer α}
    (within : p.Within kind) {s : σ} (before : keeps s) : keeps (p.run handle s).2 := by
  induction p generalizing s with
  | done a => exact before
  | fail fault => exact before
  | call op next ih =>
    have after := each op s within.1 before
    simp only [run]
    split
    · rename_i answer s' performed
      rw [performed] at after
      exact ih answer (within.2 answer) after
    · rename_i fault s' performed
      rw [performed] at after
      exact after

/-- States that each access answers alike, and leaves alike, are alike to a run. -/
theorem run_congr {handle : Handler Answer σ} {alike : σ → σ → Prop}
    (each : ∀ op s s', kind op → alike s s' →
      (handle op s).1 = (handle op s').1 ∧ alike (handle op s).2 (handle op s').2)
    {p : Program Answer α} (within : p.Within kind) {s s' : σ} (before : alike s s') :
    (p.run handle s).1 = (p.run handle s').1 ∧ alike (p.run handle s).2 (p.run handle s').2 := by
  induction p generalizing s s' with
  | done a | fail fault => exact ⟨rfl, before⟩
  | call op next ih =>
    obtain ⟨answers, after⟩ := each op s s' within.1 before
    simp only [run]
    rcases performed : handle op s with ⟨fault | answer, t⟩
    all_goals
      rcases performed' : handle op s' with ⟨fault' | answer', t'⟩
      all_goals
        rw [performed, performed'] at answers after
        cases answers
    · exact ⟨rfl, after⟩
    · exact ih answer (within.2 answer) after

end Within

def Yields (post : α → Prop) : Program Answer α → Prop
  | .done a => post a
  | .fail _ => True
  | .call _ next => ∀ answer, (next answer).Yields post

section Yields

variable {post : α → Prop}

theorem yields_pure {a : α} (holds : post a) : (pure a : Program Answer α).Yields post := holds

theorem yields_bind {mid : β → Prop} {p : Program Answer β} {k : β → Program Answer α}
    (first : p.Yields mid) (rest : ∀ b, mid b → (k b).Yields post) : (p >>= k).Yields post := by
  change (p.bind k).Yields post
  induction p with
  | done b => exact rest b first
  | fail fault => trivial
  | call op next ih => exact fun answer => ih answer (first answer)

theorem yields_any (p : Program Answer α) : p.Yields fun _ => True := by
  induction p with
  | done a | fail fault => trivial
  | call op next ih => exact ih

/-- The result does not depend on what comes before. -/
theorem yields_last {p : Program Answer β} {k : β → Program Answer α}
    (rest : ∀ b, (k b).Yields post) : (p >>= k).Yields post :=
  yields_bind (yields_any p) fun b _ => rest b

theorem yields_ite {c : Prop} [Decidable c] {p q : Program Answer α} (left : p.Yields post)
    (right : q.Yields post) : (if c then p else q).Yields post := by
  split
  · exact left
  · exact right

theorem Yields.of_run {handle : Handler Answer σ} {p : Program Answer α} (yields : p.Yields post)
    {a : α} {s s' : σ} (ran : p.run handle s = (.ok a, s')) : post a := by
  induction p generalizing s with
  | done result =>
    cases ran
    exact yields
  | fail fault => cases ran
  | call op next ih =>
    simp only [run] at ran
    split at ran
    · rename_i answer after performed
      exact ih answer (yields answer) ran
    · cases ran

end Yields

/-- A run of two programs in a row that ends with a result is a run of each. -/
theorem run_bind_eq_ok {handle : Handler Answer σ} {p : Program Answer α}
    {k : α → Program Answer β} {b : β} {s s' : σ} (ran : (p >>= k).run handle s = (.ok b, s')) :
    ∃ a mid, p.run handle s = (.ok a, mid) ∧ (k a).run handle mid = (.ok b, s') := by
  rw [run_bind] at ran
  split at ran
  · rename_i a mid first
    exact ⟨a, mid, first, ran⟩
  · cases ran

def Ends (handle : Handler Answer σ) (p : Program Answer α) (s : σ) (post : α → σ → Prop) : Prop :=
  ∃ a s', p.run handle s = (.ok a, s') ∧ post a s'

section Ends

variable {handle : Handler Answer σ} {s : σ}

theorem ends_pure {post : α → σ → Prop} {a : α} (holds : post a s) :
    Ends handle (pure a : Program Answer α) s post :=
  ⟨a, s, rfl, holds⟩

theorem ends_access {op : Op} {post : Answer op → σ → Prop} {answer : Answer op} {s' : σ}
    (performed : handle op s = (.ok answer, s')) (holds : post answer s') :
    Ends handle (access op) s post :=
  ⟨answer, s', by rw [run_access, performed], holds⟩

theorem ends_bind {mid : α → σ → Prop} {post : β → σ → Prop} {p : Program Answer α}
    {k : α → Program Answer β} (first : Ends handle p s mid)
    (rest : ∀ a s', mid a s' → Ends handle (k a) s' post) : Ends handle (p >>= k) s post := by
  obtain ⟨a, s', run, holds⟩ := first
  obtain ⟨b, s'', run', holds'⟩ := rest a s' holds
  refine ⟨b, s'', ?_, holds'⟩
  rw [run_bind, run]
  exact run'

theorem ends_access_bind {op : Op} {post : β → σ → Prop} {k : Answer op → Program Answer β}
    {answer : Answer op} {s' : σ} (performed : handle op s = (.ok answer, s'))
    (rest : Ends handle (k answer) s' post) : Ends handle (access op >>= k) s post := by
  obtain ⟨b, s'', run, holds⟩ := rest
  refine ⟨b, s'', ?_, holds⟩
  rw [run_bind, run_access, performed]
  exact run

theorem ends_mono {post post' : α → σ → Prop} {p : Program Answer α} (ends : Ends handle p s post)
    (weaken : ∀ a s', post a s' → post' a s') : Ends handle p s post' := by
  obtain ⟨a, s', run, holds⟩ := ends
  exact ⟨a, s', run, weaken a s' holds⟩

/-- What a run ends with, along with what all its accesses keep. -/
theorem Ends.keeps {kind : Op → Prop} {keeps : σ → Prop} {post : α → σ → Prop}
    {p : Program Answer α} (ends : Ends handle p s post)
    (each : ∀ op s, kind op → keeps s → keeps (handle op s).2) (within : p.Within kind)
    (before : keeps s) : Ends handle p s fun a s' => post a s' ∧ keeps s' := by
  obtain ⟨a, s', run, holds⟩ := ends
  have after := run_keeps each within before
  rw [run] at after
  exact ⟨a, s', run, holds, after⟩

/-- What holds in the end, even where the second of two programs faults. -/
theorem Ends.run_bind {mid : α → σ → Prop} {p : Program Answer α} {k : α → Program Answer β}
    (first : Ends handle p s mid) {holds : σ → Prop}
    (rest : ∀ a s', mid a s' → holds ((k a).run handle s').2) :
    holds ((p >>= k).run handle s).2 := by
  obtain ⟨a, s', run, mid⟩ := first
  rw [Program.run_bind, run]
  exact rest a s' mid

theorem holds_access_bind {holds : σ → Prop} {op : Op} {k : Answer op → Program Answer β}
    {answer : Answer op} {s' : σ} (performed : handle op s = (.ok answer, s'))
    (rest : holds ((k answer).run handle s').2) : holds ((access op >>= k).run handle s).2 := by
  rw [Program.run_bind, run_access, performed]
  exact rest

/-- What holds wherever the first of two programs stops, and wherever the second does. -/
theorem run_bind_keeps {holds : σ → Prop} {p : Program Answer α} {k : α → Program Answer β}
    (first : holds (p.run handle s).2)
    (rest : ∀ a s', p.run handle s = (.ok a, s') → holds ((k a).run handle s').2) :
    holds ((p >>= k).run handle s).2 := by
  rw [Program.run_bind]
  split
  · rename_i a s' ran
    exact rest a s' ran
  · rename_i fault s' ran
    rwa [ran] at first

end Ends
end SdBridge.Program
