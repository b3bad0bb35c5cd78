import SdBridge.Proofs.Program.Sequence

/-!
Programs under an account of what they did. Every access answered adds to the account, and what a
program may do next is judged by the account so far. The answers are whatever others make of them,
so that the judgement stands for programs that are interleaved.
-/
namespace SdBridge.Program

variable {Op : Type} {Answer : Op → Type} {α β κ : Type}

/-- Whatever is answered, each access keeps the account in order, and a result is as said. -/
def Conducts (note : (op : Op) → Answer op → κ → κ) (order : Op → κ → Prop)
    (post : κ → α → Prop) : Program Answer α → κ → Prop
  | .done a, k => post k a
  | .fail _, _ => True
  | .call op next, k => ∀ answer, order op (note op answer k) ∧
      (next answer).Conducts note order post (note op answer k)

variable {note : (op : Op) → Answer op → κ → κ} {order : Op → κ → Prop}
  {post : κ → β → Prop} {k : κ}

theorem conducts_pure {b : β} (holds : post k b) :
    (pure b : Program Answer β).Conducts note order post k := holds

theorem conducts_bind {mid : κ → α → Prop} {p : Program Answer α} {q : α → Program Answer β}
    (first : p.Conducts note order mid k)
    (rest : ∀ k a, mid k a → (q a).Conducts note order post k) :
    (p >>= q).Conducts note order post k := by
  change (p.bind q).Conducts note order post k
  induction p generalizing k with
  | done a => exact rest k a first
  | fail fault => trivial
  | call op next ih => exact fun answer => ⟨(first answer).1, ih answer (first answer).2⟩

theorem conducts_access_bind {op : Op} {q : Answer op → Program Answer β}
    (rest : ∀ answer, order op (note op answer k) ∧
      (q answer).Conducts note order post (note op answer k)) :
    (access op >>= q).Conducts note order post k := rest

theorem conducts_mono {weaker : κ → β → Prop} {p : Program Answer β}
    (conducts : p.Conducts note order post k) (weaken : ∀ k b, post k b → weaker k b) :
    p.Conducts note order weaker k := by
  induction p generalizing k with
  | done b => exact weaken k b conducts
  | fail fault => trivial
  | call op next ih => exact fun answer => ⟨(conducts answer).1, ih answer (conducts answer).2⟩

/-- Accesses of a kind that is not noted leave the account as it is. -/
theorem conducts_of_within {kind : Op → Prop} {p : Program Answer α} (within : p.Within kind)
    (silent : ∀ op, kind op → order op k ∧ ∀ answer, note op answer k = k) :
    p.Conducts note order (fun k' _ => k' = k) k := by
  induction p with
  | done a => rfl
  | fail fault => trivial
  | call op next ih =>
    intro answer
    obtain ⟨ordered, same⟩ := silent op within.1
    rw [same answer]
    exact ⟨ordered, ih answer (within.2 answer)⟩

section Step

variable {σ : Type}

/-- A run keeps an account that can be read off the state. -/
theorem Conducts.of_run {handle : Handler Answer σ} {view : σ → κ}
    (tracks : ∀ op s answer s', handle op s = (.ok answer, s') →
      view s' = note op answer (view s))
    {p : Program Answer β} {s s' : σ} (conducts : p.Conducts note order post (view s)) {b : β}
    (ran : p.run handle s = (.ok b, s')) : post (view s') b := by
  induction p generalizing s with
  | done result =>
    cases ran
    exact conducts
  | fail fault => cases ran
  | call op next ih =>
    simp only [run] at ran
    split at ran
    · rename_i answer mid performed
      refine ih answer ?_ ran
      rw [tracks op s answer mid performed]
      exact (conducts answer).2
    · cases ran

def result? : Program Answer α → Option α
  | .done a => some a
  | _ => none

theorem eq_done_of_result? {p : Program Answer α} {a : α} (ended : p.result? = some a) :
    p = .done a := by
  cases p <;> cases ended
  rfl

def noting (handle : Handler Answer σ) (note : (op : Op) → Answer op → κ → κ) :
    Handler Answer (σ × κ) := fun op (s, k) =>
  match handle op s with
  | (.ok answer, s) => (.ok answer, s, note op answer k)
  | (.error fault, s) => (.error fault, s, k)

/-- Keeping an account changes nothing. -/
theorem run_noting (handle : Handler Answer σ) (note : (op : Op) → Answer op → κ → κ)
    (p : Program Answer α) (s : σ) (k : κ) : p.run handle s =
      ((p.run (noting handle note) (s, k)).1, (p.run (noting handle note) (s, k)).2.1) := by
  induction p generalizing s k with
  | done a | fail fault => rfl
  | call op next ih =>
    rcases performed : handle op s with ⟨fault | answer, s'⟩
    · simp only [run, noting, performed]
    · simp only [run, noting, performed]
      exact ih answer s' _

theorem noting_eq_ok {handle : Handler Answer σ} {op : Op} {answer : Answer op} {s s' : σ}
    (performed : handle op s = (.ok answer, s')) (note : (op : Op) → Answer op → κ → κ) (k : κ) :
    noting handle note op (s, k) = (.ok answer, s', note op answer k) := by
  simp only [noting, performed]

theorem noting_eq_error {handle : Handler Answer σ} {op : Op} {fault : Fault} {s s' : σ}
    (performed : handle op s = (.error fault, s')) (note : (op : Op) → Answer op → κ → κ) (k : κ) :
    noting handle note op (s, k) = (.error fault, s', k) := by
  simp only [noting, performed]

/-- What an access that was answered adds to the account. -/
theorem account_of_noting {handle : Handler Answer σ} {op : Op} {answer : Answer op}
    {s s' : σ × κ} (performed : noting handle note op s = (.ok answer, s')) :
    s'.2 = note op answer s.2 := by
  simp only [noting] at performed
  split at performed <;> cases performed
  rfl

/-- A run that keeps an account ends as it does without, and the account is as judged. -/
theorem Ends.noting {handle : Handler Answer σ} {p : Program Answer β} {s : σ} {k : κ}
    {holds : β → σ → Prop} (ends : Ends handle p s holds) (conducts : p.Conducts note order post k) :
    Ends (noting handle note) p (s, k) fun b t => holds b t.1 ∧ post t.2 b := by
  obtain ⟨b, s', run, held⟩ := ends
  have plain := run_noting handle note p s k
  rw [run] at plain
  obtain ⟨result, state⟩ := Prod.mk.inj plain
  refine ⟨b, _, Prod.ext result.symm rfl, state ▸ held, ?_⟩
  have tracks (op : Op) (t : σ × κ) (answer : Answer op) (t' : σ × κ)
      (performed : Program.noting handle note op t = (.ok answer, t')) :
      t'.2 = note op answer t.2 := account_of_noting performed
  exact Conducts.of_run tracks conducts (Prod.ext result.symm rfl)

/-- One step of a program makes one of its accesses or none. -/
theorem Within.step {kind : Op → Prop} {p : Program Answer α} (within : p.Within kind)
    (handle : Handler Answer σ) (note : (op : Op) → Answer op → κ → κ) (s : σ) (k : κ) :
    (p.step (noting handle note) (s, k)).1.Within kind ∧
      ((p.step (noting handle note) (s, k)).2.1 = s ∨
        ∃ op, kind op ∧ (p.step (noting handle note) (s, k)).2.1 = (handle op s).2) := by
  cases p with
  | done a | fail fault => exact ⟨within, .inl rfl⟩
  | call op next =>
    rcases performed : handle op s with ⟨fault | answer, s'⟩
    · simp only [Program.step, noting, performed]
      exact ⟨trivial, .inr ⟨op, within.1, by rw [performed]⟩⟩
    · simp only [Program.step, noting, performed]
      exact ⟨within.2 answer, .inr ⟨op, within.1, by rw [performed]⟩⟩

inductive Stepped (handle : Handler Answer σ) (note : (op : Op) → Answer op → κ → κ)
    (order : Op → κ → Prop) (s : σ) (k : κ) : σ → κ → Prop where
  | still : Stepped handle note order s k s k
  | answered {op : Op} {answer : Answer op} {s' : σ} (performed : handle op s = (.ok answer, s'))
      (ordered : order op (note op answer k)) : Stepped handle note order s k s' (note op answer k)
  | faulted {op : Op} {fault : Fault} {s' : σ} (performed : handle op s = (.error fault, s')) :
      Stepped handle note order s k s' k

/-- A step keeps the rest of the program in order. -/
theorem Conducts.step {p : Program Answer β} (conducts : p.Conducts note order post k)
    (handle : Handler Answer σ) (s : σ) :
    (p.step (noting handle note) (s, k)).1.Conducts note order post
        (p.step (noting handle note) (s, k)).2.2 ∧
      Stepped handle note order s k (p.step (noting handle note) (s, k)).2.1
        (p.step (noting handle note) (s, k)).2.2 := by
  cases p with
  | done b => exact ⟨conducts, .still⟩
  | fail fault => exact ⟨trivial, .still⟩
  | call op next =>
    rcases performed : handle op s with ⟨fault | answer, s'⟩
    · simp only [Program.step, noting, performed]
      exact ⟨trivial, .faulted performed⟩
    · simp only [Program.step, noting, performed]
      exact ⟨(conducts answer).2, .answered performed (conducts answer).1⟩

end Step

end SdBridge.Program
