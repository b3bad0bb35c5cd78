import SdBridge.Proofs.Card.Handshake
import SdBridge.Proofs.Card.Read
import SdBridge.Proofs.Card.Refusal

/-!
How a read is stopped. The data half also ends a read by itself, after the last sector or at one that
cannot be read. The card is back in the transfer state then, where a stop command is refused.
-/
namespace SdBridge.Card

namespace Commands

variable {request : Request} {c : Commands}

def stopped (c : Commands) : Commands := { (c.issued .idle).reported with state := .transfer }

theorem stopped_job (c : Commands) : c.stopped.posted.job = .idle :=
  Ticket.job_pack _ _ (by decide)

/-- A stop command means the same with and without an application prefix. -/
theorem answer_stop (index : request.command.toNat = 12) (sending : c.state = .sendingData) :
    c.answer request = (.ok c.statusReply, c.prepared.stopped) := by
  obtain ⟨reply, c', answer, accepts⟩ := accepted_of_state (c := c) .stopTransmission index
    (by decide) (by simp [sending, Command.states]) nofun
  rw [answer]
  cases accepts with
  | stop => rfl
  | ignore other | outside other | read other | write other => simp [index] at other
  | _ => omega

theorem rejectsAs_stop (index : request.command.toNat = 12) (other : c.state ≠ .sendingData) :
    c.RejectsAs request (.error (.wrongState request.command c.state.name)) := by
  refine (rejectsAs_iff .stopTransmission index (by decide)).2 ?_
  have wrong : c.prepared.state ∉ Command.stopTransmission.states := fun listed =>
    other (List.mem_singleton.1 listed)
  exact .wrongState .stopTransmission index wrong nofun

/-- Only in the transfer state are sectors read. -/
theorem transfer_of_read (index : request.command.toNat ∈ [17, 18]) {reply : Reply}
    (answered : (c.answer request).1 = .ok reply) : c.state = .transfer := by
  obtain ⟨command, meaning, states, own, -⟩ := readCommand_of_index index
  have accepts := accepts_of_answered command meaning own (answered ▸ Commands.answered request c)
  obtain ⟨other, same, state⟩ := accepts.known
  obtain rfl := command_unique meaning same
  have listed := state fun select => by simp [select, Command.states] at states
  rw [states] at listed
  exact List.mem_singleton.1 listed

end Commands

namespace Data

variable {β : Type} {posted : Ticket} {d : Data β}

/-- For an idle ticket nothing is staged and nothing is left to stage. -/
def Rests (d : Data β) : Prop := d.ticket.job = .idle → d.unread = [] ∧ d.job = .idle

theorem rests_follow (rests : d.Rests) (posted : Ticket) : (d.follow posted).Rests := by
  by_cases now : posted = d.ticket
  · rwa [now, follow_self]
  · obtain ⟨unread, job⟩ := follow_new now
    intro idle
    rw [follow_ticket] at idle
    exact ⟨unread, job.trans idle⟩

theorem rests_next (rests : d.Rests) : d.next.2.Rests := by
  by_cases front : d.unread = []
  · rwa [next_of_none front]
  · obtain ⟨byte, more, unread⟩ := List.exists_cons_of_ne_nil front
    obtain ⟨after, next, -, -, ticket, -⟩ := next_of_unread unread
    rw [next]
    intro idle
    rw [ticket] at idle
    exact absurd (rests idle).1 front

variable [Image.Store β]

theorem prepare_of_spent (none : d.unread = []) (job : d.job = .idle) :
    d.prepare = ⟨.ok false, d, []⟩ := by
  have spent := Nat.not_lt.2 ((unread_eq_nil_iff d).1 none)
  simp only [prepare, spent, if_false, load, job]

theorem loadSector_ticket (lba : UInt64) (d : Data β) : (d.loadSector lba).state.ticket = d.ticket := by
  simp only [loadSector]
  split
  · rfl
  · rfl
  · split <;> rfl

theorem prepare_ticket (d : Data β) : d.prepare.state.ticket = d.ticket := by
  simp only [prepare]
  split
  · rfl
  · simp only [load]
    split
    · rfl
    · exact loadSector_ticket ..
    · exact loadSector_ticket ..
    · rfl
    · rfl

theorem rests_prepare (rests : d.Rests) : d.prepare.state.Rests := by
  intro idle
  rw [prepare_ticket] at idle
  obtain ⟨none, job⟩ := rests idle
  rw [prepare_of_spent none job]
  exact ⟨none, job⟩

/-- A posted idle ticket has no byte, even if its word was seen before. -/
theorem ready_of_idle (rests : d.Rests) (idle : posted.job = .idle) :
    (d.ready posted).answer = .ok false := by
  have still : (d.follow posted).unread = [] ∧ (d.follow posted).job = .idle :=
    rests_follow rests posted (by rwa [follow_ticket])
  rw [ready, prepare_of_spent still.1 still.2]

end Data

def Turn.isData : Turn → Bool
  | .follow | .prepare | .next => true
  | .sync _ | .answer => false

namespace Handshake

variable {β : Type} [Image.Store β] {h : Handshake β} {request : Request} {response : Response}

/-- The data half told that it is done with the job posted last. -/
def Ended (h : Handshake β) : Prop := h.card.data.finished = h.card.commands.posted

/-- The data half leaves the command half alone. -/
theorem turn_data {step : Turn} (data : step.isData = true) (h : Handshake β) :
    (h.turn step).card.commands = h.card.commands ∧ (h.turn step).posts = h.posts := by
  cases step with
  | sync | answer => cases data
  | follow | prepare | next =>
    simp only [turn]
    split <;> exact ⟨rfl, rfl⟩

theorem foldl_data {steps : List Turn} (data : ∀ step ∈ steps, step.isData = true)
    (h : Handshake β) :
    (steps.foldl (fun h step => h.turn step) h).card.commands = h.card.commands ∧
      (steps.foldl (fun h step => h.turn step) h).posts = h.posts := by
  induction steps generalizing h with
  | nil => exact ⟨rfl, rfl⟩
  | cons step steps ih =>
    obtain ⟨first, rest⟩ := List.forall_mem_cons.1 data
    obtain ⟨commands, posts⟩ := turn_data first h
    obtain ⟨commands', posts'⟩ := ih rest (h.turn step)
    exact ⟨commands'.trans commands, posts'.trans posts⟩

theorem rests_run (image : β) (identity : Identity) (turns : List Turn) :
    (run image identity turns).card.data.Rests := by
  induction turns using List.reverseRecOn with
  | nil => exact fun _ => ⟨rfl, rfl⟩
  | append_singleton turns step before =>
    rw [run_append]
    cases step with
    | sync | answer =>
      simp only [turn]
      split <;> exact before
    | follow =>
      simp only [turn]
      split
      · exact before
      · exact Data.rests_follow before _
    | prepare =>
      simp only [turn]
      split
      · exact Data.rests_prepare before
      · exact before
    | next =>
      simp only [turn]
      split
      · exact before
      · exact Data.rests_next before

/-- The command half keeps the number of sectors that it was made with. -/
theorem sectors_run (image : β) (identity : Identity) (turns : List Turn) :
    (run image identity turns).card.commands.sectors = Image.Store.sectorCount image := by
  induction turns using List.reverseRecOn with
  | nil => rfl
  | append_singleton turns step before =>
    rw [run_append]
    cases step with
    | sync =>
      simp only [turn]
      split
      · exact before
      · exact (Commands.sync_sectors _ _).trans before
    | answer =>
      simp only [turn]
      split
      · exact before
      · exact (Commands.effect_of_answer rfl).sectors.trans before
    | follow | prepare | next => rw [(turn_data rfl _).1, before]

omit [Image.Store β] in
theorem reply_of_dispatch {card : Card β} {length : Nat}
    (accepted : (card.dispatch request response).result = .ok length) :
    ∃ reply, ((card.commands.sync card.data.finished).answer request).1 = .ok reply := by
  rcases answer : (card.commands.sync card.data.finished).answer request with
    ⟨failure | reply, commands⟩
  · rw [dispatch_of_failure answer] at accepted
    cases accepted
  · exact ⟨reply, rfl⟩

/-- A read that is accepted enters the data state and posts its job. -/
theorem read_begins (free : h.request = none) (index : request.command.toNat ∈ [17, 18])
    (inside : request.argument.toUInt64 < h.card.commands.sectors) {length : Nat}
    (accepted : (h.card.dispatch request response).result = .ok length) :
    let commands := ((h.turn (.sync request)).turn .answer).card.commands
    commands.state = .sendingData ∧ commands.posted.job = Commands.readJob request := by
  obtain ⟨reply, answered⟩ := reply_of_dispatch accepted
  have state := Commands.transfer_of_read index answered
  have answer := Commands.answer_read index state (by rwa [Commands.sync_sectors])
  simp only [turn, free, Option.isSome_none, Bool.false_eq_true, if_false, answer]
  exact ⟨rfl, Ticket.job_pack _ _ (Commands.readJob_fits request)⟩

/-- A job that has ended has no byte left. -/
theorem ready_of_ended {sectors : UInt64} (tracked : Tracked sectors h) (ended : h.Ended)
    (sending : h.card.commands.state = .sendingData) :
    (h.card.data.ready h.card.commands.posted).answer = .ok false := by
  have numbered := tracked.coherent.numbered
  have follows := tracked.coherent.follows
  have now : h.card.data.ticket = h.card.commands.posted := by
    have told := tracked.settles.finished
    rw [show h.card.data.finished = h.card.commands.posted from ended, numbered.number] at told
    exact (follows.ticket_eq_iff numbered).2 (Nat.le_antisymm (follows.number_le numbered) told)
  have busy := numbered.sending sending
  rw [← now] at busy ⊢
  obtain ⟨none, job⟩ := (tracked.settles.ended busy).1 (ended.trans now.symm)
  rw [Data.ready, Data.follow_self, Data.prepare_of_spent none job]

/-- A read has ended when its last byte was handed out or a sector could not be read. -/
theorem ended_iff {sectors lba : UInt64} (tracked : Tracked sectors h)
    (sending : h.card.commands.state = .sendingData)
    (job : h.card.commands.posted.job = .readBlocks lba) :
    h.Ended ↔ h.handed.count h.posts.length = Image.sectorSize * (sectors.toNat - lba.toNat) ∨
      h.posts.length ∈ h.failed := by
  have settled := finished_eq_posted_iff tracked sending
  rwa [← tracked.coherent.numbered.job, job] at settled

omit [Image.Store β] in
/-- What a stop command meets while a read is sent: the data state, unless the data half has ended
the read. -/
theorem sync_sending (sending : h.card.commands.state = .sendingData) :
    (¬h.Ended → h.card.commands.sync h.card.data.finished = h.card.commands) ∧
      (h.Ended → h.card.commands.sync h.card.data.finished =
        { h.card.commands with state := .transfer }) := by
  constructor
  · intro running
    exact if_neg fun both => running both.2
  · intro ended
    exact if_pos ⟨sending, ended⟩

omit [Image.Store β] in
theorem dispatch_stop (stop : Request) (index : stop.command = 12) (running : ¬h.Ended)
    (sending : h.card.commands.state = .sendingData) :
    h.card.dispatch stop response =
      ⟨.ok shortResponse, h.card.commands.statusReply.writeTo response,
        { h.card with commands := h.card.commands.prepared.stopped }⟩ := by
  have number : stop.command.toNat = 12 := by
    rw [index]
    rfl
  have answer := Commands.answer_stop number sending
  rw [← (sync_sending sending).1 running] at answer
  rw [dispatch_of_answer answer, (sync_sending sending).1 running]
  rfl

omit [Image.Store β] in
theorem dispatch_stop_late (stop : Request) (index : stop.command = 12) (ended : h.Ended)
    (sending : h.card.commands.state = .sendingData) :
    h.card.dispatch stop response =
      ⟨.error (.error (.wrongState 12 "tran")), response,
        h.card.declined stop (.wrongState 12 "tran")⟩ := by
  apply dispatch_of_rejects
  have number : stop.command.toNat = 12 := by
    rw [index]
    rfl
  have rejects := Commands.rejectsAs_stop (c := { h.card.commands with state := .transfer }) number
    (by simp)
  rw [index] at rejects
  rwa [(sync_sending sending).2 ended]

/-- A stop is answered as long as the data half has not ended the read, and refused from then on. No
byte is left either way. -/
theorem stop_after_read (image : β) (identity : Identity) (turns : List Turn)
    (free : (run image identity turns).request = none) (read : Request) (index : read.command = 18)
    (inside : read.argument.toUInt64 < Image.Store.sectorCount image) (response : Response)
    (length : Nat) (accepted : ((run image identity turns).card.dispatch read response).result = .ok length)
    (steps : List Turn) (data : ∀ step ∈ steps, step.isData = true) (stop : Request)
    (stops : stop.command = 12) (buffer : Response) :
    let h := run image identity (turns ++ [.sync read, .answer] ++ steps)
    let stopped := h.card.dispatch stop buffer
    stopped.state.commands.state = .transfer ∧
      (¬h.Ended → stopped.result = .ok shortResponse ∧
        stopped.response =
          (Reply.short (Status.word h.card.commands.status 0 .sendingData)).writeTo buffer ∧
        stopped.state.dataReady.answer = .ok false) ∧
      (h.Ended → stopped.result = .error (.error (.wrongState 12 "tran")) ∧
        stopped.response = buffer) ∧
      (Image.LawfulStore β → h.posts.length ≤ 2 ^ 28 - 1 →
        (h.Ended ↔ h.handed.count h.posts.length = Image.sectorSize *
            ((Image.Store.sectorCount image).toNat - read.argument.toNat) ∨
          h.posts.length ∈ h.failed) ∧
        stopped.state.dataReady.answer = .ok false) := by
  intro h stopped
  have multiple : read.command.toNat = 18 := by
    rw [index]
    rfl
  obtain ⟨sending, job⟩ : h.card.commands.state = .sendingData ∧
      h.card.commands.posted.job = .readBlocks read.argument.toUInt64 := by
    have begins := read_begins free (by simp [multiple]) (by rwa [sectors_run]) accepted
    have same : h.card.commands =
        (((run image identity turns).turn (.sync read)).turn .answer).card.commands := by
      simp only [h, run, List.foldl_append]
      exact (foldl_data data _).1
    rw [same]
    simpa [Commands.readJob, multiple] using begins
  have rests : h.card.data.Rests := rests_run image identity _
  have tracked (_ : Image.LawfulStore β) (few : h.posts.length ≤ 2 ^ 28 - 1) :
      Tracked (Image.Store.sectorCount image) h :=
    tracked_run image identity _ (Nat.lt_of_le_of_lt few (by decide))
  by_cases ended : h.Ended
  · have refused : stopped = _ := dispatch_stop_late stop stops ended sending
    have state : stopped.state.commands.state = .transfer := by
      rw [refused, declined, (sync_sending sending).2 ended]
      rfl
    refine ⟨state, fun running => absurd ended running, fun _ => by rw [refused]; exact ⟨rfl, rfl⟩, ?_⟩
    intro lawful few
    refine ⟨ended_iff (tracked lawful few) sending job, ?_⟩
    have posted : stopped.state.commands.posted = h.card.commands.posted := by
      rw [refused, declined, (sync_sending sending).2 ended]
      rfl
    have half : stopped.state.data = h.card.data := by
      rw [refused]
      rfl
    simp only [Card.dataReady, posted, half]
    exact ready_of_ended (tracked lawful few) ended sending
  · have answered : stopped = _ := dispatch_stop stop stops ended sending
    have spent : stopped.state.dataReady.answer = .ok false := by
      rw [answered]
      exact Data.ready_of_idle rests (Commands.stopped_job _)
    refine ⟨by rw [answered]; rfl, fun _ => ⟨by rw [answered], ?_, spent⟩,
      fun late => absurd late ended, ?_⟩
    · rw [answered, Commands.statusReply, sending]
    · exact fun lawful few => ⟨ended_iff (tracked lawful few) sending job, spent⟩

def selection : List Turn :=
  let command (index : UInt8) (argument : UInt32) : List Turn :=
    [.sync ⟨index, argument, 0⟩, .answer]
  command 55 0 ++ command 41 Card.ocrVoltageWindow ++ command 2 0 ++ command 3 0 ++
    command 7 0x45670000

/-- A read of the whole card is stopped once its last byte is out, and the stop is refused. -/
theorem stop_refused_after_last_byte :
    let read : Request := ⟨18, 0, 0⟩
    let buffer : Response := Vector.replicate 16 0
    let start := run blank {} selection
    let h := run blank {} (selection ++ [.sync read, .answer] ++
      ([.follow, .prepare] ++ List.replicate 512 .next))
    start.request = none ∧ read.argument.toUInt64 < Image.Store.sectorCount blank ∧
      (start.card.dispatch read buffer).result = .ok shortResponse ∧
      (start.card.dispatch read buffer).response.toList.take 4 = [0, 0, 9, 0] ∧
      (h.card.dispatch ⟨12, 0, 0⟩ buffer).result = .error (.error (.wrongState 12 "tran")) := by
  decide +kernel

/-- The same read, stopped after its first byte. -/
theorem stop_after_read_first_byte :
    let buffer : Response := Vector.replicate 16 0
    let h := run blank {} (selection ++ [.sync ⟨18, 0, 0⟩, .answer] ++ [.follow, .prepare, .next])
    let stopped := h.card.dispatch ⟨12, 0, 0⟩ buffer
    stopped.state.commands.state = .transfer ∧ stopped.result = .ok shortResponse ∧
      stopped.response.toList.take 4 = [0, 0, 11, 0] ∧
      stopped.state.dataReady.answer = .ok false ∧ h.handed.count h.posts.length ≠ 512 := by
  intro buffer h stopped
  obtain ⟨state, answered, -, bounded⟩ := stop_after_read blank {} selection
    (by decide +kernel) ⟨18, 0, 0⟩ rfl (by decide) buffer shortResponse (by decide +kernel)
    [.follow, .prepare, .next] (by decide) ⟨12, 0, 0⟩ rfl buffer
  have running : ¬h.Ended := by
    unfold Ended
    decide +kernel
  obtain ⟨result, response, spent⟩ := answered running
  have few : h.posts.length ≤ 2 ^ 28 - 1 := by decide +kernel
  obtain ⟨ended, -⟩ := bounded inferInstance few
  refine ⟨state, result, ?_, spent, fun all => running (ended.2 (.inl all))⟩
  rw [show stopped.response = _ from response]
  decide +kernel

end Handshake
end SdBridge.Card
