import SdBridge.Proofs.Bridge.Kinds
import SdBridge.Proofs.Bridge.Packing
import SdBridge.Proofs.Card.Coherence

/-!
What a bridge over a card keeps through every pass of its two loops: the layout of its registers,
and that the halves of the card agree on the jobs posted. Only a dispatch can change how many jobs
were posted, so that all other accesses are dealt with at once.
-/
namespace SdBridge.Bridge

variable {β : Type} [Image.Store β]

/-- A bridge with its registers and its data buffer in place, over a card whose halves agree on so
many posts and whose image shows the contents. -/
structure Steady (contents : Image.Contents) (posts : Nat) (b : Bridge (Card β)) : Prop where
  size : 8 ≤ b.registers.words.size
  status : b.registers.clearOnOne = [Offset.status]
  roomy : Roomy b.buffer
  card : ∃ jobs : List Card.Job, jobs.length = posts ∧
    Card.Coherent jobs contents.sectors b.engine
  shown : contents.ShownBy b.engine.data.store
  calm : b.engine.commands.Calm

variable {contents : Image.Contents} {posts : Nat} {b b' : Bridge (Card β)}

/-- Nothing here depends on the ring, the clock, the log or the flags. -/
theorem Steady.congr (steady : Steady contents posts b) (registers : b'.registers = b.registers)
    (buffer : b'.buffer = b.buffer) (engine : b'.engine = b.engine) : Steady contents posts b' :=
  ⟨registers ▸ steady.size, registers ▸ steady.status, buffer ▸ steady.roomy, engine ▸ steady.card,
    engine ▸ steady.shown, engine ▸ steady.calm⟩

theorem Steady.withRegisters (steady : Steady contents posts b) {registers : RegisterFile}
    (size : registers.words.size = b.registers.words.size)
    (status : registers.clearOnOne = b.registers.clearOnOne) :
    Steady contents posts { b with registers } :=
  ⟨size ▸ steady.size, status ▸ steady.status, steady.roomy, steady.card, steady.shown, steady.calm⟩

/-- The block request matters to nobody here. -/
theorem Steady.withPending (steady : Steady contents posts b) (pending : Option BlockRequest) :
    Steady contents posts
      { b with engine := { b.engine with commands := { b.engine.commands with pending } } } := by
  obtain ⟨jobs, length, coherent⟩ := steady.card
  have numbered := coherent.numbered
  exact ⟨steady.size, steady.status, steady.roomy,
    ⟨jobs, length, ⟨numbered.image, numbered.generation, numbered.number, numbered.job,
      numbered.inRange, numbered.sending⟩, ⟨coherent.follows.place, coherent.follows.job,
      coherent.follows.inRange⟩⟩, steady.shown, steady.calm⟩

/-- Asked whether a byte can be taken, the card tells whether it owes any. -/
theorem perform_dataReady (steady : Steady contents posts b) :
    ∃ after log, perform .dataReady b = (.ok (decide (b.engine.owed contents ≠ [])),
        { b with engine := { b.engine with data := after }, log }) ∧
      Steady contents posts { b with engine := { b.engine with data := after }, log } ∧
      after.rest contents = b.engine.owed contents ∧
      (b.engine.owed contents ≠ [] → after.unread ≠ []) ∧
      after.ticket = b.engine.commands.posted := by
  obtain ⟨jobs, length, coherent⟩ := steady.card
  obtain ⟨after, log, ready, rest, front, ticket, shown, still⟩ := coherent.dataReady steady.shown
  refine ⟨after, b.log ++ log.toArray, ?_, ?_, rest, front, ticket⟩
  · simp only [perform, ByteSource.dataReady, ready, served]
  · exact ⟨steady.size, steady.status, steady.roomy, ⟨jobs, length, still⟩, shown, steady.calm⟩

theorem perform_nextByte (steady : Steady contents posts b) (front : b.engine.data.unread ≠ []) :
    ∃ byte after log, perform .nextByte b = (.ok byte,
        { b with engine := { b.engine with data := after }, log }) ∧
      Steady contents posts { b with engine := { b.engine with data := after }, log } ∧
      b.engine.data.rest contents = byte :: after.rest contents ∧
      after.ticket = b.engine.data.ticket := by
  obtain ⟨jobs, length, coherent⟩ := steady.card
  obtain ⟨byte, after, next, rest, ticket, store, still⟩ := coherent.nextByte front
  refine ⟨byte, after, b.log ++ #[], ?_, ?_, rest, ticket⟩
  · simp only [perform, ByteSource.nextByte, next, served]
  · exact ⟨steady.size, steady.status, steady.roomy, ⟨jobs, length, still⟩, store ▸ steady.shown,
      steady.calm⟩

theorem steady_nextByte (steady : Steady contents posts b) :
    Steady contents posts (perform .nextByte b).2 := by
  by_cases front : b.engine.data.unread = []
  · refine steady.congr rfl rfl ?_
    simp [perform, ByteSource.nextByte, Card.nextByte, Card.Data.next_of_none front, served]
  · obtain ⟨byte, after, log, performed, still, _⟩ := perform_nextByte steady front
    rw [performed]
    exact still

theorem steady_perform (access : Access) (b : Bridge (Card β)) (plain : Plain access)
    (steady : Steady contents posts b) : Steady contents posts (perform access b).2 := by
  cases access with
  | dispatch request response => exact plain.elim
  | readRegister offset =>
    have size : (b.registers.read offset).2.words.size = b.registers.words.size := by simp
    exact steady.withRegisters size (RegisterFile.clearOnOne_read b.registers offset)
  | writeRegister offset value =>
    have size := RegisterFile.write_size b.registers offset value
    exact steady.withRegisters size (RegisterFile.clearOnOne_write b.registers offset value)
  | writeBuffer offset value =>
    refine ⟨steady.size, steady.status, ⟨?_, ?_⟩, steady.card, steady.shown, steady.calm⟩
    · simpa only [perform, RegisterFile.write_size] using steady.roomy.size
    · simpa only [perform, RegisterFile.clearOnOne_write] using steady.roomy.plain
  | takeBlockRequest => exact steady.withPending none
  | dataReady =>
    obtain ⟨after, log, performed, still, _⟩ := perform_dataReady steady
    rw [performed]
    exact still
  | nextByte => exact steady_nextByte steady
  | publish record => exact steady.congr rfl rfl rfl
  | setInFlight raised | inFlight | clock | log entry | stopRequested | sleep time =>
    exact steady.congr rfl rfl rfl

theorem posted_perform {posted : Card.Ticket} (access : Access) (b : Bridge (Card β))
    (plain : Plain access) (before : b.engine.commands.posted = posted) :
    (perform access b).2.engine.commands.posted = posted := by
  cases access with
  | dispatch request response => exact plain.elim
  | _ => exact before

theorem steady_of_run {α : Type} {p : Loop α} {result : Except Fault α}
    (ran : p.run perform b = (result, b')) (plain : p.Within Plain)
    (steady : Steady contents posts b) : Steady contents posts b' := by
  have after := Program.run_keeps steady_perform plain steady
  rwa [ran] at after

theorem posted_of_run {α : Type} {p : Loop α} {result : Except Fault α}
    (ran : p.run perform b = (result, b')) (plain : p.Within Plain) :
    b'.engine.commands.posted = b.engine.commands.posted := by
  have same := Program.run_keeps posted_perform plain (Eq.refl b.engine.commands.posted)
  rwa [ran] at same

theorem inFlight_perform {raised : Bool} (access : Access) (b : Bridge (Card β))
    (quiet : Quiet access) (before : b.inFlight = raised) :
    (perform access b).2.inFlight = raised := by
  cases access with
  | dispatch request response | setInFlight raised => exact quiet.elim
  | _ => exact before

structure Written (contents : Image.Contents) (posts offset : Nat) (value : UInt32)
    (b b' : Bridge (Card β)) : Prop where
  steady : Steady contents posts b'
  same : b' = { b with registers := b'.registers }
  word : ∀ other, b'.registers.word other =
    if other / 4 = offset / 4 then b.registers.stored offset (b.registers.word offset) value
    else b.registers.word other

theorem ends_writeRegister (steady : Steady contents posts b) {offset : Nat}
    (aligned : offset % 4 = 0) (inside : offset < Offset.size) (value : UInt32) :
    Program.Ends perform (Loop.writeRegister offset value) b fun _ b' =>
      Written contents posts offset value b b' := by
  have size := steady.size
  have room : offset / 4 < b.registers.words.size := by
    simp only [Offset.size] at inside
    omega
  have performed : perform (.writeRegister offset value) b =
      (.ok (), { b with registers := (b.registers.write offset value).2 }) :=
    Prod.ext (RegisterFile.write_of_inside aligned room value) rfl
  refine Program.ends_access performed ⟨?_, rfl, fun other => ?_⟩
  · exact steady.withRegisters (RegisterFile.write_size ..) (RegisterFile.clearOnOne_write ..)
  · simp only [RegisterFile.word_write, aligned, room, true_and]

theorem perform_readRegister {π : Type} [Responder π] [ByteSource π] {b : Bridge π} {offset : Nat}
    (aligned : offset % 4 = 0) (inside : offset / 4 < b.registers.words.size) :
    perform (.readRegister offset) b = (.ok (b.registers.word offset),
      { b with registers := { b.registers with reads := b.registers.reads + 1 } }) := by
  simp only [perform, RegisterFile.read_of_inside aligned inside]
  rfl

theorem ends_readRegister (steady : Steady contents posts b) {offset : Nat}
    (aligned : offset % 4 = 0) (inside : offset < Offset.size) :
    Program.Ends perform (Loop.readRegister offset) b fun value b' =>
      value = b.registers.word offset ∧ Steady contents posts b' ∧
        b' = { b with registers := b'.registers } ∧
        ∀ other, b'.registers.word other = b.registers.word other := by
  have size := steady.size
  have room : offset / 4 < b.registers.words.size := by
    simp only [Offset.size] at inside
    omega
  exact Program.ends_access (perform_readRegister aligned room) ⟨rfl, steady.withRegisters rfl rfl, rfl, fun _ => rfl⟩

/-- No command is latched. Writes over the bus cannot change that, since they only clear bits of
STATUS. -/
structure Unlatched (b : Bridge (Card β)) : Prop where
  status : b.registers.clearOnOne = [Offset.status]
  clear : b.registers.word Offset.status &&& Status.newCommand = 0

omit [Image.Store β] in
theorem Unlatched.congr (unlatched : Unlatched b) (registers : b'.registers = b.registers) :
    Unlatched b' :=
  ⟨registers ▸ unlatched.status, registers ▸ unlatched.clear⟩

theorem unlatched_perform (access : Access) (b : Bridge (Card β)) (quiet : Quiet access)
    (unlatched : Unlatched b) : Unlatched (perform access b).2 := by
  cases access with
  | dispatch request response | setInFlight raised => exact quiet.elim
  | readRegister offset =>
    refine ⟨(RegisterFile.clearOnOne_read b.registers offset).trans unlatched.status, ?_⟩
    exact (congrArg (· &&& _) (RegisterFile.word_read b.registers offset _)).trans unlatched.clear
  | writeRegister offset value =>
    refine ⟨(RegisterFile.clearOnOne_write b.registers offset value).trans unlatched.status, ?_⟩
    change (b.registers.write offset value).2.word Offset.status &&& Status.newCommand = 0
    rw [RegisterFile.word_write]
    split
    · rename_i hit
      obtain ⟨aligned, _, same⟩ := hit
      have offset : offset = Offset.status := by
        simp only [Offset.status] at same ⊢
        omega
      rw [RegisterFile.stored, unlatched.status, offset, if_pos (List.mem_singleton.2 rfl),
        UInt32.and_assoc, UInt32.and_comm (~~~value), ← UInt32.and_assoc, unlatched.clear,
        UInt32.zero_and]
    · exact unlatched.clear
  | writeBuffer offset value | takeBlockRequest | dataReady | nextByte | publish record | inFlight
  | clock | log entry | stopRequested | sleep time => exact unlatched.congr rfl

theorem owed_perform {bytes : List UInt8} (access : Access) (b : Bridge (Card β))
    (aside : Aside access) (before : b.engine.owed contents = bytes) :
    (perform access b).2.engine.owed contents = bytes := by
  cases access with
  | dispatch request response | setInFlight raised | dataReady | nextByte
  | writeBuffer offset value => exact aside.elim
  | _ => exact before

end SdBridge.Bridge
