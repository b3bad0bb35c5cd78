import SdBridge.Proofs.Bridge.Kinds
import SdBridge.Proofs.Register.File

/-!
What each of the two loops touches. The command loop has CONTROL, STATUS and the response words, the
responder, the clock, the event ring and the flag around a dispatch. The data loop has POINTER,
DATCTRL and the data buffer, the byte source and the log; of what belongs to the other loop it only
looks at the flag.
-/
namespace SdBridge.Bridge

def commandRegisters : List Nat := [Offset.control, Offset.status] ++ Offset.responseWords

def dataRegisters : List Nat := [Offset.pointer, Offset.dataControl]

def OfCommands : Access → Prop
  | .readRegister offset | .writeRegister offset _ => offset ∈ commandRegisters
  | .setInFlight _ | .dispatch _ _ | .takeBlockRequest | .clock | .publish _ => True
  | _ => False

/-- Accesses of the command loop that neither touch STATUS nor ask the responder for an answer. -/
def Beside : Access → Prop
  | .readRegister offset | .writeRegister offset _ =>
    offset ∈ commandRegisters ∧ offset ≠ Offset.status
  | .setInFlight _ | .takeBlockRequest | .clock | .publish _ => True
  | _ => False

def OfData : Access → Prop
  | .readRegister offset | .writeRegister offset _ => offset ∈ dataRegisters
  | .inFlight | .dataReady | .nextByte | .writeBuffer _ _ | .log _ => True
  | _ => False

theorem ofCommands_of_beside (access : Access) (beside : Beside access) : OfCommands access := by
  cases access with
  | readRegister offset | writeRegister offset value => exact beside.1
  | _ => trivial

theorem beside_of_telling (access : Access) (telling : Telling access) : Beside access := by
  cases access <;> trivial

theorem ofCommands_of_telling (access : Access) (telling : Telling access) : OfCommands access :=
  ofCommands_of_beside access (beside_of_telling access telling)

theorem ofData_of_filling (access : Access) (filling : Filling access) : OfData access := by
  cases access <;> trivial

namespace Commander

open Loop

theorem ofCommands_acknowledge (bits : UInt32) : (acknowledge bits).Within OfCommands := by
  have own : Offset.status ∈ commandRegisters := by decide
  exact Program.within_ite (Program.within_access own) (Program.within_pure ())

theorem beside_respond (command : UInt8) (length : Nat) (response : Response) :
    (respond command length response).Within Beside := by
  have write {offset : Nat} (own : offset ∈ commandRegisters ∧ offset ≠ Offset.status)
      (value : UInt32) : (writeRegister offset value).Within Beside := Program.within_access own
  refine Program.within_ite ?_ (Program.within_ite ?_ (Program.within_pure ()))
  · refine Program.within_bind (write (by decide) _) fun _ => ?_
    refine Program.within_bind (write (by decide) _) fun _ => ?_
    refine Program.within_bind (write (by decide) _) fun _ => ?_
    refine Program.within_bind (write (by decide) _) fun _ => ?_
    exact write (by decide) _
  · refine Program.within_bind (write (by decide) _) fun _ => ?_
    exact write (by decide) _

theorem beside_conclude (command : UInt8) (result : Except ProtocolError Nat) (c : Commander) :
    (c.conclude command result).Within Beside := by
  unfold conclude
  split
  · exact Program.within_bind (beside_respond ..) fun _ => Program.within_pure _
  · exact Program.within_pure _

theorem ofCommands_exchange (status : StatusWord) (c : Commander) :
    (c.exchange status).Within OfCommands := by
  rw [exchange_eq]
  have own : Offset.argument ∈ commandRegisters := by decide
  refine Program.within_bind (Program.within_access own) fun argument => ?_
  refine Program.within_bind (Program.within_access trivial) fun _ => ?_
  refine Program.within_bind (Program.within_access trivial) fun (result, response) => ?_
  refine Program.within_bind (Program.within_access trivial) fun _ => ?_
  exact Program.within_mono ofCommands_of_beside (beside_conclude ..)

theorem ofCommands_idle (status : StatusWord) (c : Commander) :
    (c.idle status).Within OfCommands := by
  refine Program.within_bind (ofCommands_acknowledge _) fun _ => ?_
  have completed := Program.within_mono ofCommands_of_telling (telling_reportCompletion status c)
  exact Program.within_ite (Program.within_bind completed fun _ => Program.within_pure _)
    (Program.within_pure _)

theorem ofCommands_poll (c : Commander) : c.poll.Within OfCommands := by
  rw [poll_eq]
  have own : Offset.status ∈ commandRegisters := by decide
  refine Program.within_bind (Program.within_access own) fun word =>
    Program.within_ite ?_ (ofCommands_idle ..)
  refine Program.within_bind (Program.within_access trivial) fun seen => ?_
  refine Program.within_bind (ofCommands_exchange ..) fun (done, answered, c) => ?_
  refine Program.within_bind (ofCommands_acknowledge _) fun _ => ?_
  exact Program.within_mono ofCommands_of_telling (telling_report ..)

end Commander

namespace Transfer

open Loop

theorem ofData_fill (limit : Nat) (p : Packer) (crc : UInt16) :
    (fill limit p crc).Within OfData := by
  induction limit generalizing p crc with
  | zero => exact Program.within_pure _
  | succ limit ih =>
    refine Program.within_bind (Program.within_access trivial) fun _ =>
      Program.within_ite ?_ (Program.within_pure _)
    refine Program.within_bind (Program.within_access trivial) fun byte => ?_
    refine Program.within_bind (Program.within_mono ofData_of_filling (filling_push p byte)) ?_
    exact fun p => ih p _

theorem ofData_send (s : TransferSettings) : (send s).Within OfData := by
  refine Program.within_bind (ofData_fill ..) fun (packer, crc) =>
    Program.within_ite (Program.within_pure _) ?_
  refine Program.within_bind (Program.within_mono ofData_of_filling (filling_pushAll ..)) ?_
  refine fun packer =>
    Program.within_bind (Program.within_mono ofData_of_filling (filling_finish packer)) ?_
  intro transfer
  have pointer : Offset.pointer ∈ dataRegisters := by decide
  have control : Offset.dataControl ∈ dataRegisters := by decide
  exact Program.within_bind (Program.within_access pointer) fun _ =>
    Program.within_bind (Program.within_access control) fun _ =>
      Program.within_bind (Program.within_access trivial) fun _ => Program.within_pure _

theorem ofData_pump (s : TransferSettings) : (pump s).Within OfData := by
  have control : Offset.dataControl ∈ dataRegisters := by decide
  refine Program.within_bind (Program.within_access trivial) fun _ =>
    Program.within_ite (Program.within_pure _) ?_
  exact Program.within_bind (Program.within_access control) fun _ =>
    Program.within_ite (Program.within_pure _) (ofData_send s)

end Transfer

section Effect

variable {π : Type} [Responder π] [ByteSource π] {access : Access} {b b' : Bridge π}

/-- The registers of the two loops are different words. -/
theorem apart_of_registers {own other : Nat} (command : own ∈ commandRegisters)
    (data : other ∈ dataRegisters) : own / 4 ≠ other / 4 := by
  have apart : ∀ own ∈ commandRegisters, ∀ other ∈ dataRegisters, own / 4 ≠ other / 4 := by decide
  exact apart own command other data

@[simp] theorem clearOnOne_perform (access : Access) (b : Bridge π) :
    (perform access b).2.registers.clearOnOne = b.registers.clearOnOne := by
  cases access with
  | readRegister offset => exact RegisterFile.clearOnOne_read ..
  | writeRegister offset value => exact RegisterFile.clearOnOne_write ..
  | dispatch request response =>
    simp only [perform, dispatched]
    split <;> rfl
  | _ => rfl

@[simp] theorem buffer_clearOnOne_perform (access : Access) (b : Bridge π) :
    (perform access b).2.buffer.clearOnOne = b.buffer.clearOnOne := by
  cases access with
  | writeBuffer offset value => exact RegisterFile.clearOnOne_write ..
  | dispatch request response =>
    simp only [perform, dispatched]
    split <;> rfl
  | _ => rfl

/-- A register changes only if it is written. -/
theorem word_perform {offset : Nat}
    (other : ∀ written value, access = .writeRegister written value → offset / 4 ≠ written / 4) :
    (perform access b).2.registers.word offset = b.registers.word offset := by
  cases access with
  | readRegister read => exact RegisterFile.word_read ..
  | writeRegister written value =>
    refine (RegisterFile.word_write b.registers written value offset).trans (if_neg ?_)
    exact fun hit => other written value rfl hit.2.2
  | dispatch request response =>
    simp only [perform, dispatched]
    split <;> rfl
  | _ => rfl

theorem word_of_data {offset : Nat} (of : OfData access) (own : offset ∈ commandRegisters) :
    (perform access b).2.registers.word offset = b.registers.word offset := by
  apply word_perform
  rintro written value rfl
  exact apart_of_registers own of

/-- The data buffer changes only if it is written. -/
theorem buffer_perform (other : ∀ offset value, access ≠ .writeBuffer offset value) :
    (perform access b).2.buffer = b.buffer := by
  cases access with
  | writeBuffer offset value => exact absurd rfl (other offset value)
  | dispatch request response =>
    simp only [perform, dispatched]
    split <;> rfl
  | _ => rfl

/-- An access that faults changes no word. -/
theorem words_of_fault {fault : Fault} (performed : perform access b = (.error fault, b')) :
    (∀ offset, b'.registers.word offset = b.registers.word offset) ∧
      b'.buffer.words = b.buffer.words := by
  have after : b' = (perform access b).2 := by rw [performed]
  cases access with
  | writeRegister written value =>
    have missed : (b.registers.write written value).1 = .error fault := congrArg Prod.fst performed
    rw [after]
    refine ⟨fun offset => ?_, rfl⟩
    change (b.registers.write written value).2.word offset = b.registers.word offset
    rw [RegisterFile.word, RegisterFile.words_write_of_fault missed, RegisterFile.word]
  | writeBuffer written value =>
    have missed : (b.buffer.write written value).1 = .error fault := congrArg Prod.fst performed
    rw [after]
    exact ⟨fun offset => rfl, RegisterFile.words_write_of_fault missed⟩
  | dispatch request response =>
    rw [after]
    simp only [perform, dispatched]
    split <;> exact ⟨fun _ => rfl, rfl⟩
  | readRegister offset =>
    rw [after]
    exact ⟨fun _ => RegisterFile.word_read .., rfl⟩
  | _ =>
    rw [after]
    exact ⟨fun _ => rfl, rfl⟩

end Effect
end SdBridge.Bridge
