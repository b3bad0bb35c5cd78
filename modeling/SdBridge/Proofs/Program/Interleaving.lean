import SdBridge.Program

/-!
Programs whose accesses are interleaved with those of others. What the others may do between two
accesses is the relation `rely`, what the program itself may do in one access is `guar`; both are
given by whoever interleaves. Fairness plays no part, so that nothing is said of programs that are
never continued.
-/
namespace SdBridge.Program

variable {Op : Type} {Answer : Op → Type} {σ α β : Type}

/-- From a state on, the program never faults, each of its accesses obeys `guar`, and its result
obeys `post`, as long as the others obey `rely`. -/
def Upholds (handle : Handler Answer σ) (rely guar : σ → σ → Prop) (post : α → σ → Prop) :
    Program Answer α → σ → Prop
  | .done a, s => ∀ s', rely s s' → post a s'
  | .fail _, _ => False
  | .call op next, s => ∀ s', rely s s' → ∃ answer after, handle op s' = (.ok answer, after) ∧
      guar s' after ∧ (next answer).Upholds handle rely guar post after

theorem ofExcept_ok_bind (a : α) (k : α → Program Answer β) : (ofExcept (.ok a) >>= k) = k a := rfl

variable {handle : Handler Answer σ} {rely guar : σ → σ → Prop} {s s' : σ}

section

variable {post : α → σ → Prop} {p : Program Answer α}

theorem Upholds.not_fail {fault : Fault} :
    ¬(.fail fault : Program Answer α).Upholds handle rely guar post s := id

/-- The others may go on before the program does. -/
theorem Upholds.wait (trans : ∀ a b c, rely a b → rely b c → rely a c)
    (upholds : p.Upholds handle rely guar post s) (others : rely s s') :
    p.Upholds handle rely guar post s' := by
  cases p with
  | done a => exact fun t further => upholds t (trans s s' t others further)
  | fail fault => exact upholds
  | call op next => exact fun t further => upholds t (trans s s' t others further)

/-- One access, where the others may also do nothing. -/
theorem Upholds.step (upholds : p.Upholds handle rely guar post s) (still : rely s s)
    (idle : guar s s) : (p.step handle s).1.Upholds handle rely guar post (p.step handle s).2 ∧
      guar s (p.step handle s).2 := by
  cases p with
  | done a => exact ⟨upholds, idle⟩
  | fail fault => exact ⟨upholds, idle⟩
  | call op next =>
    obtain ⟨answer, after, performed, obeys, rest⟩ := upholds s still
    simp only [Program.step, performed]
    exact ⟨rest, obeys⟩

/-- With nobody else at work, the program runs to its end. -/
theorem Upholds.run (upholds : p.Upholds handle rely guar post s) (still : ∀ s, rely s s)
    (idle : ∀ s, guar s s) (trans : ∀ a b c, guar a b → guar b c → guar a c) :
    ∃ a s', p.run handle s = (.ok a, s') ∧ guar s s' ∧ post a s' := by
  induction p generalizing s with
  | done a => exact ⟨a, s, rfl, idle s, upholds s (still s)⟩
  | fail fault => exact upholds.not_fail.elim
  | call op next ih =>
    obtain ⟨answer, after, performed, obeys, rest⟩ := upholds s (still s)
    obtain ⟨a, s', ran, kept, holds⟩ := ih answer rest
    refine ⟨a, s', ?_, trans _ _ _ obeys kept, holds⟩
    rw [Program.run, performed]
    exact ran

theorem upholds_pure {a : α} (holds : ∀ s', rely s s' → post a s') :
    (pure a : Program Answer α).Upholds handle rely guar post s := holds

end

section

variable {post : β → σ → Prop}

/-- An access and then the rest. -/
theorem upholds_access_bind {op : Op} {k : Answer op → Program Answer β}
    (holds : ∀ s', rely s s' → ∃ answer after, handle op s' = (.ok answer, after) ∧
      guar s' after ∧ (k answer).Upholds handle rely guar post after) :
    (access op >>= k).Upholds handle rely guar post s := holds

theorem upholds_ofExcept_bind {a : α} {r : Except Fault α} {k : α → Program Answer β}
    (ok : r = .ok a) (holds : (k a).Upholds handle rely guar post s) :
    (ofExcept r >>= k).Upholds handle rely guar post s := by
  subst ok
  exact holds

/-- Two programs in a row, where what the first achieves is all that the second needs. -/
theorem upholds_bind {mid : α → σ → Prop} {p : Program Answer α} {k : α → Program Answer β}
    (refl : ∀ s, rely s s) (first : p.Upholds handle rely guar mid s)
    (second : ∀ a s, mid a s → (k a).Upholds handle rely guar post s) :
    (p >>= k).Upholds handle rely guar post s := by
  change (p.bind k).Upholds handle rely guar post s
  induction p generalizing s with
  | done a => exact second a s (first s (refl s))
  | fail fault => exact first.not_fail.elim
  | call op next ih =>
    intro s' others
    obtain ⟨answer, after, performed, obeys, rest⟩ := first s' others
    exact ⟨answer, after, performed, obeys, ih answer rest⟩

end

end SdBridge.Program
