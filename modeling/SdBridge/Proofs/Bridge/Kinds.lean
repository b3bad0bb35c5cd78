import SdBridge.Bridge.Exchange
import SdBridge.Bridge.Transfer
import SdBridge.Proofs.Program.Sequence

/-!
Which accesses the parts of the two loops are made of. There are four kinds, each wider than the
one before, and the writes to the data buffer; what a kind of access keeps, every part within it
keeps.
-/
namespace SdBridge.Bridge

def Telling : Access → Prop
  | .clock | .publish _ | .takeBlockRequest => True
  | _ => False

/-- Accesses that neither ask the engine for anything nor touch the data buffer. -/
def Aside : Access → Prop
  | .dispatch _ _ | .setInFlight _ | .dataReady | .nextByte | .writeBuffer _ _ => False
  | _ => True

def Quiet : Access → Prop
  | .dispatch _ _ | .setInFlight _ => False
  | _ => True

def Plain : Access → Prop
  | .dispatch _ _ => False
  | _ => True

def Filling : Access → Prop
  | .writeBuffer _ _ => True
  | _ => False

theorem aside_of_telling (access : Access) (telling : Telling access) : Aside access := by
  cases access <;> trivial

theorem quiet_of_aside (access : Access) (aside : Aside access) : Quiet access := by
  cases access <;> trivial

theorem quiet_of_telling (access : Access) (telling : Telling access) : Quiet access :=
  quiet_of_aside access (aside_of_telling access telling)

theorem quiet_of_filling (access : Access) (filling : Filling access) : Quiet access := by
  cases access <;> trivial

theorem plain_of_quiet (access : Access) (quiet : Quiet access) : Plain access := by
  cases access <;> trivial

theorem plain_of_aside (access : Access) (aside : Aside access) : Plain access :=
  plain_of_quiet access (quiet_of_aside access aside)

theorem plain_of_telling (access : Access) (telling : Telling access) : Plain access :=
  plain_of_aside access (aside_of_telling access telling)

namespace Commander

open Loop

theorem telling_publish (kind : Event.Kind) (text : String) (extra : UInt64) :
    (publish kind text extra).Within Telling :=
  Program.within_bind (Program.within_access trivial) fun _ => Program.within_access trivial

theorem telling_reportBlock (block : Option BlockRequest) : (reportBlock block).Within Telling := by
  match block with
  | none => exact Program.within_pure ()
  | some (.getSize _) | some (.readSector _) | some (.writeSector _) => exact telling_publish ..

theorem telling_reportRejection (command : UInt8) (why : Rejection) :
    (reportRejection command why).Within Telling := by
  cases why <;> exact telling_publish ..

theorem telling_reportExchange (seen : UInt64) (status : StatusWord) (c : Commander)
    (done : Exchange) : (c.reportExchange seen status done).Within Telling := by
  cases done with
  | answered command length =>
    refine Program.within_bind (Program.within_access trivial) fun block => ?_
    refine Program.within_bind (Program.within_access trivial) fun _ => ?_
    have rest : (do
        reportBlock block
        publish .commandProcessed "Processed command" command.toUInt64
        pure none : Loop (Option UInt32)).Within Telling :=
      Program.within_bind (telling_reportBlock block) fun _ =>
        Program.within_bind (telling_publish ..) fun _ => Program.within_pure _
    exact Program.within_ite (Program.within_bind (telling_publish ..) fun _ => rest) rest
  | rejected command why =>
    refine Program.within_bind (Program.within_access trivial) fun block => ?_
    have rest : (do
        reportBlock block
        pure (some (rejectionKey status)) : Loop (Option UInt32)).Within Telling :=
      Program.within_bind (telling_reportBlock block) fun _ => Program.within_pure _
    exact Program.within_ite (Program.within_bind (telling_reportRejection ..) fun _ => rest) rest

theorem telling_reportCompletion (status : StatusWord) (c : Commander) :
    (c.reportCompletion status).Within Telling :=
  Program.within_bind (telling_publish ..) fun _ =>
    Program.within_ite (telling_publish ..) (Program.within_pure ())

theorem aside_acknowledge (bits : UInt32) : (acknowledge bits).Within Aside :=
  Program.within_ite (Program.within_access trivial) (Program.within_pure ())

theorem aside_respond (command : UInt8) (length : Nat) (response : Response) :
    (respond command length response).Within Aside := by
  have write (offset : Nat) (value : UInt32) : (writeRegister offset value).Within Aside :=
    Program.within_access trivial
  refine Program.within_ite ?_ (Program.within_ite ?_ (Program.within_pure ()))
  · exact Program.within_bind (write ..) fun _ => Program.within_bind (write ..) fun _ =>
      Program.within_bind (write ..) fun _ => Program.within_bind (write ..) fun _ => write ..
  · exact Program.within_bind (write ..) fun _ => write ..

def conclude (command : UInt8) (result : Except ProtocolError Nat) (c : Commander) :
    Loop (Exchange × UInt32 × Commander) :=
  match legalLength result with
  | .ok length => do
    respond command length c.response
    pure (.answered command length, Status.newCommand, c)
  | .error why => pure (.rejected command why, 0, c)

theorem exchange_eq (status : StatusWord) (c : Commander) :
    c.exchange status = (do
      let argument ← readRegister Offset.argument
      let request : Request := ⟨status.commandIndex, argument, status.crc7⟩
      setInFlight true
      let (result, response) ← dispatch request c.response
      setInFlight false
      conclude request.command result { c with response }) := rfl

theorem aside_conclude (command : UInt8) (result : Except ProtocolError Nat) (c : Commander) :
    (c.conclude command result).Within Aside := by
  unfold conclude
  split
  · exact Program.within_bind (aside_respond ..) fun _ => Program.within_pure _
  · exact Program.within_pure _

def completion (status : StatusWord) : UInt32 :=
  if status.has Status.complete then Status.complete else 0

def report (seen : UInt64) (status : StatusWord) (done : Exchange) (c : Commander) :
    Loop (Outcome × Commander) := do
  let completed := status.has Status.complete
  let lastRejected ← c.reportExchange seen status done
  if completed then c.reportCompletion status
  pure (⟨status, completed, some done⟩, { c with lastRejected })

def idle (status : StatusWord) (c : Commander) : Loop (Outcome × Commander) := do
  let completed := status.has Status.complete
  acknowledge (completion status)
  if completed then c.reportCompletion status
  pure (⟨status, completed, none⟩, { c with lastRejected := none })

theorem poll_eq (c : Commander) :
    c.poll = (do
      let word ← readRegister Offset.status
      if StatusWord.has ⟨word⟩ Status.newCommand then
        let seen ← readClock
        let (done, answered, c) ← c.exchange ⟨word⟩
        acknowledge (answered ||| completion ⟨word⟩)
        c.report seen ⟨word⟩ done
      else c.idle ⟨word⟩) := rfl

theorem telling_report (seen : UInt64) (status : StatusWord) (done : Exchange) (c : Commander) :
    (c.report seen status done).Within Telling := by
  refine Program.within_bind (telling_reportExchange ..) fun _ => ?_
  exact Program.within_ite
    (Program.within_bind (telling_reportCompletion ..) fun _ => Program.within_pure _)
    (Program.within_pure _)

theorem aside_idle (status : StatusWord) (c : Commander) : (c.idle status).Within Aside := by
  refine Program.within_bind (aside_acknowledge _) fun _ => ?_
  exact Program.within_ite
    (Program.within_bind (Program.within_mono aside_of_telling (telling_reportCompletion ..))
      fun _ => Program.within_pure _)
    (Program.within_pure _)

end Commander

namespace Transfer

open Loop

theorem filling_push (p : Packer) (byte : UInt8) : (p.push byte).Within Filling :=
  Program.within_ite
    (Program.within_bind (Program.within_access trivial) fun _ => Program.within_pure _)
    (Program.within_pure _)

theorem filling_pushAll (p : Packer) (bytes : List UInt8) : (p.pushAll bytes).Within Filling := by
  induction bytes generalizing p with
  | nil => exact Program.within_pure p
  | cons byte rest ih => exact Program.within_bind (filling_push p byte) ih

theorem filling_finish (p : Packer) : p.finish.Within Filling :=
  Program.within_ite (Program.within_pure _)
    (Program.within_bind (Program.within_access trivial) fun _ => Program.within_pure _)

theorem quiet_fill (limit : Nat) (p : Packer) (crc : UInt16) : (fill limit p crc).Within Quiet := by
  induction limit generalizing p crc with
  | zero => exact Program.within_pure _
  | succ limit ih =>
    refine Program.within_bind (Program.within_access trivial) fun _ =>
      Program.within_ite ?_ (Program.within_pure _)
    exact Program.within_bind (Program.within_access trivial) fun byte =>
      Program.within_bind (Program.within_mono quiet_of_filling (filling_push p byte)) fun p =>
        ih p _

theorem quiet_send (s : TransferSettings) : (send s).Within Quiet := by
  refine Program.within_bind (quiet_fill ..) fun (packer, crc) =>
    Program.within_ite (Program.within_pure _) ?_
  refine Program.within_bind (Program.within_mono quiet_of_filling (filling_pushAll ..)) fun packer =>
    Program.within_bind (Program.within_mono quiet_of_filling (filling_finish packer)) fun _ => ?_
  exact Program.within_bind (Program.within_access trivial) fun _ =>
    Program.within_bind (Program.within_access trivial) fun _ =>
      Program.within_bind (Program.within_access trivial) fun _ => Program.within_pure _

/-- The data loop dispatches nothing. -/
theorem quiet_pump (s : TransferSettings) : (pump s).Within Quiet :=
  Program.within_bind (Program.within_access trivial) fun _ =>
    Program.within_ite (Program.within_pure _)
      (Program.within_bind (Program.within_access trivial) fun _ =>
        Program.within_ite (Program.within_pure _) (quiet_send s))

end Transfer
end SdBridge.Bridge
