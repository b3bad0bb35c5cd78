import SdBridge.Program

/-!
Programs that make accesses of one kind and never fail of themselves. Where every access of this kind
succeeds, such a program ends with a result or goes on; what may be answered does not matter.
-/
namespace SdBridge.Program

variable {Op : Type} {Answer : Op → Type} {α β : Type}

/-- Whatever is answered, all accesses are of a kind, a result is as said, and there is no fault
among the ends. -/
def Behaves (kind : Op → Prop) (post : α → Prop) : Program Answer α → Prop
  | .done a => post a
  | .fail _ => False
  | .call op next => kind op ∧ ∀ answer, (next answer).Behaves kind post

variable {kind : Op → Prop} {post : α → Prop}

theorem behaves_pure {a : α} (holds : post a) : (pure a : Program Answer α).Behaves kind post :=
  holds

theorem behaves_access {op : Op} {post : Answer op → Prop} (of : kind op)
    (holds : ∀ answer, post answer) : (access op : Program Answer (Answer op)).Behaves kind post :=
  ⟨of, holds⟩

theorem behaves_bind {mid : β → Prop} {p : Program Answer β} {k : β → Program Answer α}
    (first : p.Behaves kind mid) (rest : ∀ b, mid b → (k b).Behaves kind post) :
    (p >>= k).Behaves kind post := by
  change (p.bind k).Behaves kind post
  induction p with
  | done b => exact rest b first
  | fail fault => exact first.elim
  | call op next ih => exact ⟨first.1, fun answer => ih answer (first.2 answer)⟩

theorem behaves_access_bind {op : Op} {k : Answer op → Program Answer α} (of : kind op)
    (rest : ∀ answer, (k answer).Behaves kind post) : (access op >>= k).Behaves kind post :=
  ⟨of, rest⟩

theorem behaves_ite {c : Prop} [Decidable c] {p q : Program Answer α} (left : p.Behaves kind post)
    (right : q.Behaves kind post) : (if c then p else q).Behaves kind post := by
  split
  · exact left
  · exact right

end SdBridge.Program
