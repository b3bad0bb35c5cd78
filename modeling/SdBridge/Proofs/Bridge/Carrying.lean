import SdBridge.Proofs.Bridge.Watch
import SdBridge.Proofs.Card.Obtaining

/-!
What the data loop carries, against the image. The bytes taken so far, those staged and those that
can still be read make up the bytes of the job, wherever its passes end.
-/
namespace SdBridge.Bridge

open Card

namespace Notes

variable {β : Type} {s : TransferSettings} {d : Data β} {n : Notes} {k : Taking}
  {transfer : Transfer} (buffer : RegisterFile)

theorem sent_ended_of_none (paced : Paced s d n k) (handed : Transfer.Handed s k transfer)
    (none : n.payload = []) : (n.ended transfer buffer).sent = n.sent := by
  have empty : transfer.isEmpty = true := handed.isEmpty_iff.2 (by rw [paced.bytes, none]; rfl)
  rw [ended, if_pos empty]

theorem sent_ended_of_some (paced : Paced s d n k) (handed : Transfer.Handed s k transfer)
    (some : n.payload ≠ []) : (n.ended transfer buffer).sent =
      n.sent ++ [⟨transfer, n.payload, buffer, n.switched, n.late⟩] := by
  have more : ¬transfer.isEmpty = true :=
    mt handed.isEmpty_iff.1 (by simpa [paced.bytes] using some)
  rw [ended, if_neg more]

/-- The bytes taken so far, in blocks sent and in the pass under way. -/
def bytes (n : Notes) : List UInt8 := (n.sent.flatMap (·.payload) ++ n.payload).map Prod.snd

theorem bytes_took (byte : UInt8) (n : Notes) : (n.took byte).bytes = n.bytes ++ [byte] := by
  simp [bytes, took]

theorem bytes_ended (paced : Paced s d n k) (handed : Transfer.Handed s k transfer) :
    (n.ended transfer buffer).bytes = n.bytes := by
  by_cases first : n.payload = []
  · simp only [bytes, sent_ended_of_none buffer paced handed first, first]
    rfl
  · simp only [bytes, sent_ended_of_some buffer paced handed first]
    simp [ended]

end Notes

variable {β : Type} [Image.Store β] {s : TransferSettings} {posted : Ticket} {sectors : UInt64}
  {whole : List UInt8} {d d' : Data β} {n n' : Notes} {k k' : Taking}

/-- No byte of the posted job is lost or made up on the way. -/
structure Carried (sectors : UInt64) (posted : Ticket) (whole : List UInt8) (d : Data β) (n : Notes)
    (k : Taking) : Prop where
  fallible : Image.Fallible sectors d.store
  inRange : (d.follow posted).job.InRange sectors
  seen : k.granted = true → posted = d.ticket
  bytes : n.bytes ++ (d.follow posted).toCome sectors = whole

/-- Asking for a byte moves none, whether the image can still be read or not. -/
theorem Carried.asked (carried : Carried sectors posted whole d n k)
    (asked : d' = (d.follow posted).prepare.state) (same : n'.bytes = n.bytes) :
    Carried sectors posted whole d' n' k' := by
  obtain ⟨fallible, inRange, -, bytes⟩ := carried
  have readied : (d.follow posted).Readied sectors (d.follow posted).prepare :=
    Data.readied_prepare (by rwa [Data.follow_store]) inRange
  have now : posted = d'.ticket := by rw [asked, readied.ticket, Data.follow_ticket]
  have follow : d'.follow posted = d' := by rw [now, Data.follow_self]
  refine ⟨asked ▸ readied.fallible, ?_, fun _ => now, ?_⟩
  · rw [follow, asked]
    exact readied.inRange
  · rw [follow, asked, readied.toCome, same, bytes]

theorem Carried.advance (carried : Carried sectors posted whole d n k) (paced : Paced s d n k)
    (advance : Advance s posted d n k d' n' k') : Carried sectors posted whole d' n' k' := by
  have ⟨fallible, inRange, seen, bytes⟩ := carried
  cases advance with
  | silent buffer => exact ⟨fallible, inRange, seen, bytes⟩
  | waiting calm more now some => exact ⟨fallible, inRange, fun _ => now, bytes⟩
  | loaded calm more none loaded asked => exact carried.asked asked (by simp [Notes.bytes])
  | dry calm more none unread job ticket asked => exact carried.asked asked rfl
  | took granted unread job ticket next =>
    have now := seen granted
    have store : d'.store = d.store := by
      obtain ⟨after, taken, -, -, -, store, -⟩ := Data.next_of_unread unread
      rw [next, taken, store]
    have block : d'.block = d.block := by rw [next, Data.next_block]
    rw [now, Data.follow_self] at inRange bytes
    have follow : d'.follow posted = d' := by rw [now, ← ticket, Data.follow_self]
    refine ⟨store ▸ fallible, ?_, fun none => absurd none Bool.false_ne_true, ?_⟩
    · rw [follow, job]
      exact inRange
    · rw [follow, Notes.bytes_took, ← bytes, Data.toCome, Data.toCome, unread, job, store, block,
        List.append_assoc]
      rfl
  | ended transfer calm handed =>
    refine ⟨fallible, inRange, fun none => absurd none Bool.false_ne_true, ?_⟩
    rw [Notes.bytes_ended _ paced handed, bytes]

/-- The blocks sent, one after the other, start the bytes of the job. -/
theorem Carried.sent_prefix (carried : Carried sectors posted whole d n k) :
    (n.sent.flatMap (·.payload)).map Prod.snd <+: whole := by
  rw [← carried.bytes, Notes.bytes, List.map_append, List.append_assoc]
  exact List.prefix_append _ _

/-- Lists of one length, but perhaps the last of them, are found in their union by counting. -/
theorem getElem?_flatMap_of_length {α γ : Type} {l : List α} {f : α → List γ} {length i j : Nat}
    {a : α} {x : γ} (full : ∀ k a, l[k]? = some a → k < i → (f a).length = length)
    (listed : l[i]? = some a) (found : (f a)[j]? = some x) :
    (l.flatMap f)[length * i + j]? = some x := by
  induction l generalizing i with
  | nil => cases listed
  | cons b rest ih =>
    rw [List.flatMap_cons]
    cases i with
    | zero =>
      cases listed
      have inside := (List.getElem?_eq_some_iff.1 found).1
      rw [Nat.mul_zero, Nat.zero_add, List.getElem?_append_left inside, found]
    | succ i =>
      have first : (f b).length = length := full 0 b rfl (Nat.zero_lt_succ i)
      have place : length * (i + 1) + j = (f b).length + (length * i + j) := by
        rw [first, Nat.mul_succ]
        omega
      rw [place, List.getElem?_append_right (Nat.le_add_right ..), Nat.add_sub_cancel_left]
      exact ih (fun k a listed earlier => full (k + 1) a listed (Nat.succ_lt_succ earlier)) listed

end SdBridge.Bridge
