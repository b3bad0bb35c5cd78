import SdBridge.Proofs.Bridge.History
import SdBridge.Proofs.Card.Read

/-! How a pass of the command loop answers a latched command to read sectors that exist. -/
namespace SdBridge.Bridge

variable {β : Type} [Image.Store β] {contents : Image.Contents} {posts : Nat}
  {b b' : Bridge (Card β)}

/-- The words of a response buffer that a short response was written to start with its word. -/
theorem Commander.responseWord_short (word : UInt32) (response : Response) :
    responseWord ((Card.Reply.short word).writeTo response) 0 = word := by
  simp [responseWord, Card.Reply.writeTo, Card.Reply.bytes, overlay, wordOfBytes_bytes]

def Willing (b : Bridge (Card β)) : Prop :=
  (b.engine.commands.sync b.engine.data.finished).state = .transfer

/-- A state after another with a read answered between them: the answer is in ARG, and the card
owes the bytes of the job. -/
structure Answered (contents : Image.Contents) (posts : Nat) (job : Card.Job)
    (b b' : Bridge (Card β)) : Prop where
  steady : Steady contents (posts + 1) b'
  inFlight : b'.inFlight = false
  owed : b'.engine.owed contents = job.bytes contents
  argument : b'.registers.word Offset.argument =
    Card.Status.word b.engine.commands.status 0 .transfer
  control : b'.registers.word Offset.dataControl = b.registers.word Offset.dataControl

def readRequest (status : StatusWord) (b : Bridge (Card β)) : Request :=
  ⟨status.commandIndex, b.registers.word Offset.argument, status.crc7⟩

theorem ends_respond (steady : Steady contents posts b) (command : UInt8) (response : Response) :
    Program.Ends perform (Commander.respond command shortResponse response) b fun _ b' =>
      b' = { b with registers := b'.registers } ∧ Steady contents posts b' ∧
        b'.registers.word Offset.argument = Commander.responseWord response 0 ∧
        b'.registers.word Offset.status = b.registers.word Offset.status ∧
        b'.registers.word Offset.dataControl = b.registers.word Offset.dataControl := by
  have plain : Offset.argument ∉ b.registers.clearOnOne := by
    rw [steady.status]
    decide
  refine Program.ends_bind (ends_writeRegister steady (by decide) (by decide) _) ?_
  rintro - b₁ first
  refine Program.ends_mono (ends_writeRegister first.steady (by decide) (by decide) _) ?_
  rintro - b₂ second
  refine ⟨?_, second.steady, ?_, ?_, ?_⟩
  · rw [second.same, first.same]
  · rw [second.word, if_neg (by decide), first.word, if_pos rfl, RegisterFile.stored_plain plain]
  · rw [second.word, if_neg (by decide), first.word, if_neg (by decide)]
  · rw [second.word, if_neg (by decide), first.word, if_neg (by decide)]

theorem ends_exchange {status : StatusWord} {c : Commander} (steady : Steady contents posts b)
    (few : posts + 1 < 2 ^ 28) (index : status.commandIndex.toNat ∈ [17, 18])
    (inside : (b.registers.word Offset.argument).toUInt64 < contents.sectors) (willing : Willing b) :
    Program.Ends perform (c.exchange status) b fun out b' =>
      out.2.1 = Status.newCommand ∧
        Answered contents posts (Card.Commands.readJob (readRequest status b)) b b' ∧
        b'.registers.word Offset.status = b.registers.word Offset.status := by
  rw [Commander.exchange_eq]
  refine Program.ends_bind (ends_readRegister steady (by decide) (by decide)) ?_
  rintro argument b₁ ⟨rfl, steady₁, same₁, words₁⟩
  have engine₁ : b₁.engine = b.engine := by
    rw [same₁]
  obtain ⟨jobs, length, coherent⟩ := steady.card
  have known : (readRequest status b).command.toNat ∈ [17, 18] := index
  obtain ⟨commands, dispatched, new, owed⟩ :=
    coherent.dispatch_read (by omega) known willing inside c.response
  have count : postsWith posts b₁
      { b₁ with inFlight := false, engine := { b.engine with commands } } = posts + 1 := by
    rw [postsWith, engine₁, if_neg new]
  have steady₂ : Steady contents _
      { b₁ with inFlight := false, engine := { b.engine with commands } } :=
    steady_dispatch steady₁ (by rw [engine₁, dispatched]) rfl rfl (by rw [count]; exact few)
  rw [count] at steady₂
  have performed : perform (.dispatch (readRequest status b) c.response)
      { b₁ with inFlight := true } = (.ok (.ok shortResponse,
        (Card.Reply.short (Card.Status.word b.engine.commands.status 0 .transfer)).writeTo
          c.response),
        { b₁ with inFlight := true, engine := { b.engine with commands } }) := by
    simp only [perform, Responder.dispatch, engine₁, dispatched, Bridge.dispatched]
  refine Program.ends_access_bind rfl ?_
  refine Program.ends_access_bind performed ?_
  refine Program.ends_access_bind rfl ?_
  refine Program.ends_bind (ends_respond steady₂ status.commandIndex _) ?_
  rintro - b₄ ⟨same₄, steady₄, argument₄, status₄, control₄⟩
  refine Program.ends_pure ⟨rfl, ⟨steady₄, ?_, ?_, ?_, ?_⟩, ?_⟩
  · rw [same₄]
  · rw [same₄]
    exact owed
  · rw [argument₄, Commander.responseWord_short]
  · rw [control₄]
    exact words₁ Offset.dataControl
  · rw [status₄]
    exact words₁ Offset.status

theorem Answered.of_alike {a : Bridge (Card β)} {job : Card.Job}
    (answered : Answered contents posts job a b') (engine : a.engine = b.engine)
    (words : ∀ offset, a.registers.word offset = b.registers.word offset) :
    Answered contents posts job b b' :=
  ⟨answered.steady, answered.inFlight, answered.owed, engine ▸ answered.argument,
    answered.control.trans (words _)⟩

theorem answered_perform {job : Card.Job} (access : Access) (b' : Bridge (Card β))
    (telling : Telling access) (answered : Answered contents posts job b b') :
    Answered contents posts job b (perform access b').2 := by
  obtain ⟨steady, inFlight, owed, argument, control⟩ := answered
  cases access with
  | clock | publish record =>
    exact ⟨steady.congr rfl rfl rfl, inFlight, owed, argument, control⟩
  | takeBlockRequest => exact ⟨steady.withPending none, inFlight, owed, argument, control⟩
  | _ => exact telling.elim

theorem ends_acknowledge {job : Card.Job} {bits : UInt32}
    (answered : Answered contents posts job b b') (some : bits ≠ 0)
    (clears : Status.newCommand &&& ~~~bits = 0) :
    Program.Ends perform (Commander.acknowledge bits) b' fun _ b'' =>
      Answered contents posts job b b'' ∧ Unlatched b'' := by
  have status : Offset.status ∈ b'.registers.clearOnOne := by
    rw [answered.steady.status]
    decide
  rw [Commander.acknowledge, if_pos some]
  refine Program.ends_mono (ends_writeRegister answered.steady (by decide) (by decide) _) ?_
  rintro - b'' written
  have elsewhere (offset : Nat) (other : offset / 4 ≠ Offset.status / 4) :
      b''.registers.word offset = b'.registers.word offset := by
    rw [written.word, if_neg other]
  refine ⟨⟨written.steady, ?_, ?_, ?_, ?_⟩, written.steady.status, ?_⟩
  · rw [written.same]
    exact answered.inFlight
  · rw [written.same]
    exact answered.owed
  · rw [elsewhere _ (by decide), answered.argument]
  · rw [elsewhere _ (by decide), answered.control]
  · rw [written.word, if_pos rfl, RegisterFile.stored_clearOnOne status, UInt32.and_assoc,
      UInt32.and_comm _ Status.newCommand, clears, UInt32.and_zero]

theorem Commander.acknowledged (status : StatusWord) :
    Status.newCommand ||| completion status ≠ 0 ∧
      Status.newCommand &&& ~~~(Status.newCommand ||| completion status) = 0 := by
  unfold completion
  split <;> decide

structure Taken (contents : Image.Contents) (posts : Nat) (job : Card.Job)
    (b b' : Bridge (Card β)) : Prop where
  answered : Answered contents posts job b b'
  unlatched : Unlatched b'

/-- A pass over a latched read answers and acknowledges it. Should it end in a fault after that,
all is done already. -/
theorem poll_answers {c : Commander} (steady : Steady contents posts b) (few : posts + 1 < 2 ^ 28)
    {status : StatusWord} (word : status = ⟨b.registers.word Offset.status⟩)
    (latched : status.has Status.newCommand = true) (index : status.commandIndex.toNat ∈ [17, 18])
    (inside : (b.registers.word Offset.argument).toUInt64 < contents.sectors) (willing : Willing b) :
    Taken contents posts (Card.Commands.readJob (readRequest status b)) b
      (c.poll.run perform b).2 := by
  subst word
  rw [Commander.poll_eq]
  have aligned : Offset.status % 4 = 0 := by decide
  refine Program.Ends.run_bind (ends_readRegister steady aligned (by decide)) ?_
  rintro word b₁ ⟨rfl, steady₁, same₁, words₁⟩
  have engine₁ : b₁.engine = b.engine := by
    rw [same₁]
  rw [if_pos latched]
  refine Program.holds_access_bind rfl ?_
  have willing₁ : Willing b₁ := by
    rw [Willing, engine₁]
    exact willing
  have request : readRequest ⟨b.registers.word Offset.status⟩ b₁ =
      readRequest ⟨b.registers.word Offset.status⟩ b := by
    rw [readRequest, words₁, readRequest]
  refine Program.Ends.run_bind (ends_exchange (b := { b₁ with clock := b₁.clock.tail })
    (steady₁.congr rfl rfl rfl) few index (by rwa [words₁]) willing₁) ?_
  rintro ⟨done, answered, c'⟩ b₃ ⟨rfl, answer, -⟩
  obtain ⟨some, clears⟩ := Commander.acknowledged ⟨b.registers.word Offset.status⟩
  have answer : Answered contents posts _ b b₃ := answer.of_alike engine₁ words₁
  refine Program.Ends.run_bind (ends_acknowledge answer some clears) ?_
  rintro - b₄ ⟨answered, unlatched⟩
  have report := Commander.telling_report (b₁.clock.headD 0) ⟨b.registers.word Offset.status⟩ done c'
  refine ⟨?_, ?_⟩
  · exact request ▸ Program.run_keeps answered_perform report answered
  · exact Program.run_keeps unlatched_perform (Program.within_mono quiet_of_telling report)
      unlatched

end SdBridge.Bridge
