import SdBridge.Proofs.Bridge.Kinds
import SdBridge.Proofs.Bridge.Packing
import SdBridge.Proofs.Program.Behaviour

/-!
Where the two loops read and write. The command loop stays inside the registers. The data loop stays
inside the data buffer too, as long as the checksum is counted: software adds two bytes to a block
after the limit was kept.
-/
namespace SdBridge.Bridge

/-- Accesses to whole words of the register file, or to those that a block with its checksum takes
in the data buffer. Other accesses have no bounds to keep. -/
def InBounds : Access → Prop
  | .readRegister offset | .writeRegister offset _ => offset % 4 = 0 ∧ offset < Offset.size
  | .writeBuffer offset _ => offset % 4 = 0 ∧ offset < 516
  | _ => True

abbrev Loop.Bounded {α : Type} (p : Loop α) : Prop := p.Behaves InBounds fun _ => True

namespace Commander

open Loop

theorem bounded_writeRegister {offset : Nat} (inside : offset % 4 = 0 ∧ offset < Offset.size)
    (value : UInt32) : (writeRegister offset value).Bounded :=
  Program.behaves_access inside fun _ => trivial

theorem bounded_publish (kind : Event.Kind) (text : String) (extra : UInt64) :
    (publish kind text extra).Bounded :=
  Program.behaves_access_bind trivial fun _ => Program.behaves_access trivial fun _ => trivial

theorem bounded_bind {α γ : Type} {p : Loop α} {k : α → Loop γ} (first : p.Bounded)
    (rest : ∀ a, (k a).Bounded) : Bounded (p >>= k) :=
  Program.behaves_bind first fun a _ => rest a

theorem bounded_pure {α : Type} (a : α) : Bounded (pure a) := trivial

theorem bounded_reportBlock (block : Option BlockRequest) : (reportBlock block).Bounded := by
  match block with
  | none => exact bounded_pure ()
  | some (.getSize _) | some (.readSector _) | some (.writeSector _) => exact bounded_publish ..

theorem bounded_reportRejection (command : UInt8) (why : Rejection) :
    (reportRejection command why).Bounded := by
  cases why <;> exact bounded_publish ..

theorem bounded_reportExchange (seen : UInt64) (status : StatusWord) (c : Commander)
    (done : Exchange) : (c.reportExchange seen status done).Bounded := by
  cases done with
  | answered command length =>
    refine Program.behaves_access_bind trivial fun block => ?_
    refine Program.behaves_access_bind trivial fun _ => ?_
    have rest : Bounded (do
        reportBlock block
        publish .commandProcessed "Processed command" command.toUInt64
        pure (none : Option UInt32)) :=
      bounded_bind (bounded_reportBlock block) fun _ =>
        bounded_bind (bounded_publish ..) fun _ => bounded_pure _
    exact Program.behaves_ite (bounded_bind (bounded_publish ..) fun _ => rest) rest
  | rejected command why =>
    refine Program.behaves_access_bind trivial fun block => ?_
    have rest : Bounded (do
        reportBlock block
        pure (some (rejectionKey status))) :=
      bounded_bind (bounded_reportBlock block) fun _ => bounded_pure _
    exact Program.behaves_ite (bounded_bind (bounded_reportRejection ..) fun _ => rest) rest

theorem bounded_reportCompletion (status : StatusWord) (c : Commander) :
    (c.reportCompletion status).Bounded :=
  bounded_bind (bounded_publish ..) fun _ =>
    Program.behaves_ite (bounded_publish ..) (bounded_pure ())

theorem bounded_acknowledge (bits : UInt32) : (acknowledge bits).Bounded :=
  Program.behaves_ite (bounded_writeRegister (by decide) bits) (bounded_pure ())

theorem bounded_respond (command : UInt8) (length : Nat) (response : Response) :
    (respond command length response).Bounded := by
  refine Program.behaves_ite ?_ (Program.behaves_ite ?_ (bounded_pure ()))
  · refine bounded_bind (bounded_writeRegister (by decide) _) fun _ => ?_
    refine bounded_bind (bounded_writeRegister (by decide) _) fun _ => ?_
    refine bounded_bind (bounded_writeRegister (by decide) _) fun _ => ?_
    refine bounded_bind (bounded_writeRegister (by decide) _) fun _ => ?_
    exact bounded_writeRegister (by decide) _
  · refine bounded_bind (bounded_writeRegister (by decide) _) fun _ => ?_
    exact bounded_writeRegister (by decide) _

theorem bounded_exchange (status : StatusWord) (c : Commander) : (c.exchange status).Bounded := by
  have conclude (command : UInt8) (result : Except ProtocolError Nat) (c : Commander) :
      (c.conclude command result).Bounded := by
    unfold Commander.conclude
    split
    · exact bounded_bind (bounded_respond ..) fun _ => bounded_pure _
    · exact bounded_pure _
  have own : Offset.argument % 4 = 0 ∧ Offset.argument < Offset.size := by decide
  rw [exchange_eq]
  refine Program.behaves_access_bind own fun argument => ?_
  refine Program.behaves_access_bind trivial fun _ => ?_
  refine Program.behaves_access_bind trivial fun (result, response) => ?_
  exact Program.behaves_access_bind trivial fun _ => conclude ..

theorem bounded_report (seen : UInt64) (status : StatusWord) (done : Exchange) (c : Commander) :
    (c.report seen status done).Bounded := by
  refine bounded_bind (bounded_reportExchange ..) fun _ => ?_
  exact Program.behaves_ite (bounded_bind (bounded_reportCompletion ..) fun _ => bounded_pure _)
    (bounded_pure _)

theorem bounded_idle (status : StatusWord) (c : Commander) : (c.idle status).Bounded := by
  refine bounded_bind (bounded_acknowledge _) fun _ => ?_
  exact Program.behaves_ite (bounded_bind (bounded_reportCompletion ..) fun _ => bounded_pure _)
    (bounded_pure _)

theorem bounded_poll (c : Commander) : c.poll.Bounded := by
  have own : Offset.status % 4 = 0 ∧ Offset.status < Offset.size := by decide
  rw [poll_eq]
  refine Program.behaves_access_bind own fun word =>
    Program.behaves_ite ?_ (bounded_idle ..)
  refine Program.behaves_access_bind trivial fun seen => ?_
  refine bounded_bind (bounded_exchange ..) fun (done, answered, c) => ?_
  exact bounded_bind (bounded_acknowledge _) fun _ => bounded_report ..

end Commander

namespace Transfer

structure Packer.Holds (n : Nat) (p : Packer) : Prop where
  count : p.bytes = n
  short : p.waiting.length < 4

variable {n : Nat} {p : Packer}

theorem behaves_push (holds : p.Holds n) (room : n < 514) (byte : UInt8) :
    (p.push byte).Behaves InBounds (Packer.Holds (n + 1)) := by
  obtain ⟨count, short⟩ := holds
  simp only [Packer.bytes] at count
  have length : (p.waiting ++ [byte]).length = p.waiting.length + 1 := by simp
  simp only [Packer.push]
  split
  · rename_i full
    have inside : 4 * p.words % 4 = 0 ∧ 4 * p.words < 516 := by omega
    refine Program.behaves_access_bind inside fun _ => Program.behaves_pure ⟨?_, by simp⟩
    simp only [Packer.bytes, List.length_nil]
    omega
  · rename_i more
    refine Program.behaves_pure ⟨?_, ?_⟩
    · simp only [Packer.bytes]
      omega
    · simp only
      omega

theorem behaves_pushAll (bytes : List UInt8) (holds : p.Holds n) (room : n + bytes.length ≤ 514) :
    (p.pushAll bytes).Behaves InBounds (Packer.Holds (n + bytes.length)) := by
  induction bytes generalizing n p with
  | nil => exact Program.behaves_pure holds
  | cons byte rest ih =>
    rw [List.length_cons] at room
    refine Program.behaves_bind (behaves_push holds (by omega) byte) fun p' holds' => ?_
    have more := ih holds' (by omega)
    rwa [Nat.add_assoc, Nat.add_comm 1, ← List.length_cons] at more

theorem behaves_finish (holds : p.Holds n) (room : n ≤ 514) :
    p.finish.Behaves InBounds fun t => t.bytes = n := by
  obtain ⟨count, short⟩ := holds
  simp only [Packer.finish]
  split
  · exact Program.behaves_pure count
  · rename_i some
    have length : p.waiting.length ≠ 0 := fun none => some (List.eq_nil_of_length_eq_zero none)
    have inside : 4 * p.words % 4 = 0 ∧ 4 * p.words < 516 := by
      simp only [Packer.bytes] at count
      omega
    exact Program.behaves_access_bind inside fun _ => Program.behaves_pure count

theorem behaves_fill (limit : Nat) (crc : UInt16) (holds : p.Holds n) (room : n + limit ≤ 514) :
    (fill limit p crc).Behaves InBounds fun out => ∃ m ≤ n + limit, out.1.Holds m := by
  induction limit generalizing n p crc with
  | zero => exact Program.behaves_pure ⟨n, Nat.le_refl _, holds⟩
  | succ limit ih =>
    refine Program.behaves_access_bind trivial fun more => ?_
    split
    · refine Program.behaves_access_bind trivial fun byte => ?_
      refine Program.behaves_bind (behaves_push holds (by omega) byte) fun p' holds' => ?_
      have rest := ih (Crc.update16 Crc.polynomial16 crc [byte]) holds' (by omega)
      rwa [Nat.add_assoc, Nat.add_comm 1] at rest
    · exact Program.behaves_pure ⟨n, Nat.le_add_right _ _, holds⟩

theorem behaves_send {s : TransferSettings} (limit : s.maxBytes ≤ 512) :
    (send s).Behaves InBounds fun t => t.bytes ≤ 514 := by
  have start : Packer.Holds 0 {} := ⟨rfl, by decide⟩
  have pointer : Offset.pointer % 4 = 0 ∧ Offset.pointer < Offset.size := by decide
  have control : Offset.dataControl % 4 = 0 ∧ Offset.dataControl < Offset.size := by decide
  have filled := behaves_fill s.maxBytes Crc.initial16 start (by omega)
  refine Program.behaves_bind filled fun (packer, crc) ⟨m, small, holds⟩ => ?_
  refine Program.behaves_ite (Program.behaves_pure (Nat.zero_le _)) ?_
  have closing := length_trailer_le s crc
  refine Program.behaves_bind (behaves_pushAll (trailer s crc) holds (by omega)) ?_
  intro packer holds
  refine Program.behaves_bind (behaves_finish holds (by omega)) fun t count => ?_
  refine Program.behaves_access_bind pointer fun _ => ?_
  refine Program.behaves_access_bind control fun _ => ?_
  refine Program.behaves_access_bind trivial fun _ => Program.behaves_pure ?_
  omega

/-- A block has at most 512 bytes, and two more with its checksum. -/
theorem behaves_pump {s : TransferSettings} (limit : s.maxBytes ≤ 512) :
    (pump s).Behaves InBounds fun t => t.bytes ≤ 514 := by
  have control : Offset.dataControl % 4 = 0 ∧ Offset.dataControl < Offset.size := by decide
  have nothing : (pure {} : Loop Transfer).Behaves InBounds fun t => t.bytes ≤ 514 :=
    Program.behaves_pure (Nat.zero_le _)
  refine Program.behaves_access_bind trivial fun _ => Program.behaves_ite nothing ?_
  exact Program.behaves_access_bind control fun _ =>
    Program.behaves_ite nothing (behaves_send limit)

end Transfer
end SdBridge.Bridge
