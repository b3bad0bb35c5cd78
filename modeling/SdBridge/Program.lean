import SdBridge.Fault

/-!
A program is what one loop of the bridge does, cut at every access to something it shares with
another loop or with the hardware. The accesses are nodes of a tree; what lies between two of
them is private to the loop. `Program.run` performs all accesses of one program in a row;
`Program.step` performs one, so that programs can be interleaved.
-/
namespace SdBridge

/-- A program whose access `op` is answered by a value of type `Answer op`. -/
inductive Program {Op : Type} (Answer : Op → Type) (α : Type) where
  | done (result : α)
  | fail (fault : Fault)
  | call (op : Op) (next : Answer op → Program Answer α)

/-- How accesses act on a state: the answer, or a fault, and the state after it. -/
abbrev Handler {Op : Type} (Answer : Op → Type) (σ : Type) :=
  (op : Op) → σ → Except Fault (Answer op) × σ

namespace Program

variable {Op : Type} {Answer : Op → Type} {σ α β : Type}

def access (op : Op) : Program Answer (Answer op) := .call op .done

def bind : Program Answer α → (α → Program Answer β) → Program Answer β
  | .done a, k => k a
  | .fail f, _ => .fail f
  | .call op next, k => .call op fun answer => (next answer).bind k

instance : Monad (Program Answer) where
  pure := .done
  bind := .bind

def ofExcept : Except Fault α → Program Answer α
  | .ok a => .done a
  | .error f => .fail f

/-- Perform all accesses in a row. A fault ends the program and keeps the state so far. -/
def run (handle : Handler Answer σ) : Program Answer α → σ → Except Fault α × σ
  | .done a, s => (.ok a, s)
  | .fail f, s => (.error f, s)
  | .call op next, s =>
    match handle op s with
    | (.ok answer, s) => (next answer).run handle s
    | (.error f, s) => (.error f, s)

/-- Perform the first access only. A program without accesses stays as it is. -/
def step (handle : Handler Answer σ) : Program Answer α → σ → Program Answer α × σ
  | .call op next, s =>
    match handle op s with
    | (.ok answer, s) => (next answer, s)
    | (.error f, s) => (.fail f, s)
  | program, s => (program, s)

@[simp] theorem run_pure (handle : Handler Answer σ) (a : α) (s : σ) :
    (pure a : Program Answer α).run handle s = (.ok a, s) := rfl

@[simp] theorem run_access (handle : Handler Answer σ) (op : Op) (s : σ) :
    (access op : Program Answer (Answer op)).run handle s = handle op s := by
  simp only [access, run]
  split <;> simp_all

@[simp] theorem run_ofExcept (handle : Handler Answer σ) (r : Except Fault α) (s : σ) :
    (ofExcept r : Program Answer α).run handle s = (r, s) := by
  cases r <;> rfl

/-- Running a program and then another is running their composition. -/
theorem run_bind (handle : Handler Answer σ) (p : Program Answer α)
    (k : α → Program Answer β) (s : σ) :
    (p >>= k).run handle s =
      match p.run handle s with
      | (.ok a, s) => (k a).run handle s
      | (.error f, s) => (.error f, s) := by
  change (p.bind k).run handle s = _
  induction p generalizing s with
  | done a => rfl
  | fail f => rfl
  | call op next ih =>
    simp only [bind, run]
    split <;> simp_all

/-- One step and then the rest is the whole run. -/
theorem run_step (handle : Handler Answer σ) (p : Program Answer α) (s : σ) :
    (p.step handle s).1.run handle (p.step handle s).2 = p.run handle s := by
  cases p with
  | done a => rfl
  | fail f => rfl
  | call op next =>
    simp only [step, run]
    split <;> simp_all [run]

end Program
end SdBridge
