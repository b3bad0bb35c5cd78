import SdBridge.Proofs.Bridge.Kinds
import SdBridge.Proofs.Bridge.Packing

/-!
What a pass of the data loop takes from the source and puts into the data buffer, whatever others do
between its accesses. Nothing is said of the answers: the source may hand out bytes of several jobs.
-/
namespace SdBridge.Bridge

structure Taking where
  bytes : List UInt8 := []
  left : Nat
  /-- The source offered a byte, and it was not taken yet. -/
  granted : Bool := false
  buffer : RegisterFile

/-- Whatever is answered, a program takes bytes one by one, each after it was offered, and none
after it was told that there is none. -/
def Orderly (post : Taking → α → Prop) : Loop α → Taking → Prop
  | .done a, k => k.granted = false ∧ post k a
  | .fail _, _ => True
  | .call .dataReady next, k => (k.granted = false ∧ 0 < k.left) ∧
      Orderly post (next true) { k with granted := true } ∧
      Orderly post (next false) { k with left := 0 }
  | .call .nextByte next, k => k.granted = true ∧ ∀ byte, Orderly post (next byte)
      { k with bytes := k.bytes ++ [byte], left := k.left - 1, granted := false }
  | .call (.writeBuffer offset value) next, k => k.granted = false ∧
      Orderly post (next ()) { k with buffer := (k.buffer.write offset value).2 }
  | .call access next, k => (Aside access ∧ k.granted = false) ∧
      ∀ answer, Orderly post (next answer) k

section Orderly

variable {α β : Type} {post : Taking → β → Prop} {k : Taking}

theorem orderly_pure {b : β} (calm : k.granted = false) (holds : post k b) :
    Orderly post (pure b) k :=
  ⟨calm, holds⟩

theorem orderly_bind {mid : Taking → α → Prop} {p : Loop α} {q : α → Loop β}
    (first : Orderly mid p k)
    (rest : ∀ k a, k.granted = false → mid k a → Orderly post (q a) k) :
    Orderly post (p >>= q) k := by
  change Orderly post (p.bind q) k
  induction p generalizing k with
  | done a => exact rest k a first.1 first.2
  | fail fault => trivial
  | call op next ih =>
    cases op with
    | dataReady => exact ⟨first.1, ih true first.2.1, ih false first.2.2⟩
    | nextByte => exact ⟨first.1, fun byte => ih byte (first.2 byte)⟩
    | writeBuffer offset value => exact ⟨first.1, ih () first.2⟩
    | _ => exact ⟨first.1, fun answer => ih answer (first.2 answer)⟩

theorem orderly_aside {op : Access} {q : Access.Answer op → Loop β} (aside : Aside op)
    (calm : k.granted = false) (rest : ∀ answer, Orderly post (q answer) k) :
    Orderly post (Program.access op >>= q) k := by
  cases op with
  | dataReady | nextByte | writeBuffer | dispatch | setInFlight => exact aside.elim
  | _ => exact ⟨⟨aside, calm⟩, rest⟩

theorem quiet_of_orderly {access : Access} {next : Access.Answer access → Loop β}
    (orderly : Orderly post (.call access next) k) : Quiet access := by
  cases access with
  | dataReady | nextByte | writeBuffer => trivial
  | _ => exact quiet_of_aside _ orderly.1.1

theorem orderly_dataReady {q : Bool → Loop β} (calm : k.granted = false) (more : 0 < k.left)
    (offered : Orderly post (q true) { k with granted := true })
    (none : Orderly post (q false) { k with left := 0 }) :
    Orderly post (Loop.dataReady >>= q) k :=
  ⟨⟨calm, more⟩, offered, none⟩

theorem orderly_nextByte {q : UInt8 → Loop β} (granted : k.granted = true)
    (rest : ∀ byte, Orderly post (q byte)
      { k with bytes := k.bytes ++ [byte], left := k.left - 1, granted := false }) :
    Orderly post (Loop.nextByte >>= q) k :=
  ⟨granted, rest⟩

end Orderly

/-- What a program that only writes the data buffer does to it on its own, it does among others. -/
theorem orderly_of_ends {π α : Type} [Responder π] [ByteSource π] {p : Loop α} (b : Bridge π)
    (post : RegisterFile → α → Prop) {k : Taking} (filling : p.Within Filling)
    (calm : k.granted = false)
    (ends : Program.Ends perform p { b with buffer := k.buffer } fun a b' => post b'.buffer a) :
    Orderly (fun k' a => k' = { k with buffer := k'.buffer } ∧ post k'.buffer a) p k := by
  induction p generalizing k with
  | done a =>
    obtain ⟨a', b', ran, holds⟩ := ends
    cases ran
    exact ⟨calm, rfl, holds⟩
  | fail fault =>
    obtain ⟨a', b', ran, _⟩ := ends
    cases ran
  | call op next ih =>
    cases op with
    | writeBuffer offset value =>
      obtain ⟨a', b', ran, holds⟩ := ends
      have after : (perform (.writeBuffer offset value) { b with buffer := k.buffer }).2 =
          { b with buffer := (k.buffer.write offset value).2 } := rfl
      simp only [Program.run] at ran
      split at ran
      · rename_i performed
        rw [performed] at after
        subst after
        have rest := ih () (filling.2 ()) calm ⟨a', b', ran, holds⟩
          (k := { k with buffer := (k.buffer.write offset value).2 })
        exact ⟨calm, rest⟩
      · cases ran
    | _ => exact filling.1.elim

namespace Transfer

open Loop

variable {π : Type} [Responder π] [ByteSource π] {k : Taking} {p : Packer} {bytes : List UInt8}

section Packing

variable (b : Bridge π) (packed : Packed bytes p k.buffer) (calm : k.granted = false)

include b packed calm

theorem orderly_push (room : bytes.length < 514) (byte : UInt8) :
    Orderly (fun k' p' => k' = { k with buffer := k'.buffer } ∧
      Packed (bytes ++ [byte]) p' k'.buffer) (p.push byte) k := by
  have ends := ends_push (b := { b with buffer := k.buffer }) packed room byte
  exact orderly_of_ends b (fun buffer p' => Packed (bytes ++ [byte]) p' buffer)
    (filling_push p byte) calm (Program.ends_mono ends fun _ _ pushed => pushed.2)

theorem orderly_pushAll (more : List UInt8) (room : bytes.length + more.length ≤ 514) :
    Orderly (fun k' p' => k' = { k with buffer := k'.buffer } ∧
      Packed (bytes ++ more) p' k'.buffer) (p.pushAll more) k := by
  have ends := ends_pushAll (b := { b with buffer := k.buffer }) more packed room
  exact orderly_of_ends b (fun buffer p' => Packed (bytes ++ more) p' buffer)
    (filling_pushAll p more) calm (Program.ends_mono ends fun _ _ pushed => pushed.2)

theorem orderly_finish (room : bytes.length ≤ 514) :
    Orderly (fun k' (t : Transfer) => k' = { k with buffer := k'.buffer } ∧
      t.bytes = bytes.length ∧ Roomy k'.buffer ∧ k'.buffer.bytes.take bytes.length = bytes)
      p.finish k := by
  have ends := ends_finish (b := { b with buffer := k.buffer }) packed room
  refine orderly_of_ends b (fun buffer t => t.bytes = bytes.length ∧ Roomy buffer ∧
    buffer.bytes.take bytes.length = bytes) (filling_finish p) calm (Program.ends_mono ends ?_)
  rintro t b' ⟨rfl, -, roomy, stored⟩
  exact ⟨rfl, roomy, stored⟩

end Packing

/-- Filling a block stops where the limit is reached or where the source has nothing to offer. -/
theorem orderly_fill (b : Bridge π) (limit : Nat) (packed : Packed k.bytes p k.buffer)
    (calm : k.granted = false) (left : k.left = limit) (room : k.bytes.length + limit ≤ 512) :
    Orderly (fun k' (packer, crc) => k'.left = 0 ∧ Packed k'.bytes packer k'.buffer ∧
      k'.bytes.length ≤ 512 ∧ crc = Crc.crc16 k'.bytes) (fill limit p (Crc.crc16 k.bytes)) k := by
  induction limit generalizing k p with
  | zero => exact orderly_pure calm ⟨left, packed, room, rfl⟩
  | succ limit ih =>
    refine orderly_dataReady calm (by omega) ?_ ?_
    · refine orderly_nextByte rfl fun byte => ?_
      have pushed := orderly_push
        (k := { k with bytes := k.bytes ++ [byte], left := k.left - 1, granted := false }) b packed
        rfl (by omega) byte
      refine orderly_bind pushed ?_
      rintro k' p' calm' ⟨same, packed'⟩
      have bytes : k'.bytes = k.bytes ++ [byte] := congrArg Taking.bytes same
      have count := congrArg List.length bytes
      rw [List.length_append, List.length_singleton] at count
      have checked : Crc.update16 Crc.polynomial16 (Crc.crc16 k.bytes) [byte] =
          Crc.crc16 k'.bytes := by
        rw [bytes, Crc.crc16, Crc.crc16, Crc.update16_append]
      rw [checked]
      refine ih (bytes ▸ packed') calm' ?_ (by omega)
      rw [same, left]
      exact Nat.add_sub_cancel ..
    · have short : k.bytes.length ≤ 512 := by omega
      exact orderly_pure calm ⟨rfl, packed, short, rfl⟩

/-- What a pass leaves behind that took bytes: they are at the start of the data buffer, with their
CRC16 where it is computed in software. -/
structure Handed (s : TransferSettings) (k : Taking) (t : Transfer) : Prop where
  bytes : t.bytes = if k.bytes = [] then 0 else (k.bytes ++ trailer s (Crc.crc16 k.bytes)).length
  buffer : k.bytes ≠ [] →
    k.buffer.bytes.take t.bytes = k.bytes ++ trailer s (Crc.crc16 k.bytes)
  roomy : Roomy k.buffer
  full : k.left = 0 ∨ k.bytes = []

theorem Handed.isEmpty_iff {s : TransferSettings} {t : Transfer} (handed : Handed s k t) :
    t.isEmpty = true ↔ k.bytes = [] := by
  have bytes := handed.bytes
  simp only [isEmpty, beq_iff_eq]
  split at bytes
  · rename_i none
    exact iff_of_true bytes none
  · rename_i some
    have more := List.length_pos_iff.2 some
    rw [List.length_append] at bytes
    exact iff_of_false (by omega) some

theorem orderly_send (b : Bridge π) {s : TransferSettings} (small : s.maxBytes ≤ 512)
    (roomy : Roomy k.buffer) (calm : k.granted = false) (none : k.bytes = [])
    (left : k.left = s.maxBytes) : Orderly (Handed s) (send s) k := by
  have start : Packed k.bytes {} k.buffer := by
    rw [none]
    exact ⟨roomy, rfl, rfl, nofun⟩
  have filled := orderly_fill b s.maxBytes start calm left (by simpa [none] using small)
  rw [none] at filled
  refine orderly_bind filled ?_
  rintro k₁ ⟨packer, crc⟩ calm₁ ⟨full, packed, short, checked⟩
  dsimp only at packed checked ⊢
  have count := packed.bytes_eq
  by_cases empty : k₁.bytes = []
  · rw [empty, List.length_nil] at count
    rw [if_pos count]
    exact orderly_pure calm₁ ⟨by simp [empty], absurd empty, packed.roomy, .inr empty⟩
  rw [if_neg (by simpa [count] using empty), checked]
  have closing := length_trailer_le s (Crc.crc16 k₁.bytes)
  refine orderly_bind (orderly_pushAll b packed calm₁ _ (by omega)) ?_
  rintro k₂ packer₂ calm₂ ⟨same₂, packed₂⟩
  refine orderly_bind (orderly_finish b packed₂ calm₂ ?_) ?_
  · rw [List.length_append]
    omega
  rintro k₃ t calm₃ ⟨same₃, bytes, roomy₃, stored⟩
  have taken : k₃.bytes = k₁.bytes := by rw [same₃, same₂]
  have done : k₃.left = 0 := by rw [same₃, same₂, full]
  have handed : Handed s k₃ t := by
    refine ⟨?_, fun _ => ?_, roomy₃, .inl done⟩
    · rw [taken, if_neg empty, bytes]
    · rw [taken, bytes, stored]
  refine orderly_aside trivial calm₃ fun _ => orderly_aside trivial calm₃ fun _ =>
    orderly_aside trivial calm₃ fun _ => orderly_pure calm₃ handed

/-- A pass of the data loop. -/
theorem orderly_pump (b : Bridge π) {s : TransferSettings} (small : s.maxBytes ≤ 512)
    (roomy : Roomy k.buffer) (calm : k.granted = false) (none : k.bytes = [])
    (left : k.left = s.maxBytes) : Orderly (Handed s) (pump s) k := by
  have empty : Orderly (Handed s) (pure {}) k :=
    orderly_pure calm ⟨by simp [none], absurd none, roomy, .inr none⟩
  refine orderly_aside trivial calm fun busy => ?_
  cases busy with
  | true => exact empty
  | false =>
    refine orderly_aside trivial calm fun control => ?_
    split
    · exact empty
    · exact orderly_send b small roomy calm none left

end Transfer
end SdBridge.Bridge
