import SdBridge.Proofs.Card.Coherence

/-! How a card in the transfer state answers a command to read sectors that exist. -/
namespace SdBridge.Card

namespace Commands

variable {request : Request} {c : Commands}

def readStarted (request : Request) (c : Commands) : Commands :=
  { (c.issued (readJob request)).reported with
    pending := some (.readSector request.argument.toUInt64), state := .sendingData }

/-- How many sectors a command to read sends: one, or all from the first on. -/
def blockCount (sectors : UInt64) (request : Request) : Nat :=
  if request.command.toNat = 17 then 1 else sectors.toNat - request.argument.toUInt64.toNat

theorem length_bytes_readJob (contents : Image.Contents) (request : Request) :
    ((readJob request).bytes contents).length =
      Image.sectorSize * blockCount contents.sectors request := by
  rw [Job.length_bytes, readJob, blockCount]
  split
  · rfl
  · rfl

/-- The bytes of a read, sector by sector. -/
theorem block_readJob {contents : Image.Contents} {k : Nat}
    (among : k < blockCount contents.sectors request) :
    (((readJob request).bytes contents).drop (Image.sectorSize * k)).take Image.sectorSize =
      (contents.sector (request.argument.toUInt64 + k.toUInt64)).toList := by
  rw [readJob]
  rw [blockCount] at among
  split
  · rename_i single
    have first : k = 0 := by
      rw [if_pos single] at among
      omega
    rw [first, Nat.mul_zero, List.drop_zero]
    refine (List.take_of_length_le (Nat.le_of_eq (Vector.length_toList ..))).trans ?_
    exact congrArg (fun lba => (contents.sector lba).toList) (UInt64.add_zero _).symm
  · rename_i several
    rw [if_neg several] at among
    exact Image.Contents.take_drop_onwards (by omega)

theorem readCommand_of_index (index : request.command.toNat ∈ [17, 18]) :
    ∃ command : Command, request.command.toNat = command.index ∧ command.states = [.transfer] ∧
      command ≠ .sendStatus ∧ command ≠ .sendCsd := by
  simp only [List.mem_cons, List.not_mem_nil, or_false] at index
  rcases index with index | index
  · exact ⟨.readSingleBlock, index, rfl, by decide⟩
  · exact ⟨.readMultipleBlock, index, rfl, by decide⟩

/-- A read means the same with and without an application prefix. -/
theorem answer_read (index : request.command.toNat ∈ [17, 18]) (state : c.state = .transfer)
    (range : request.argument.toUInt64 < c.sectors) :
    c.answer request = (.ok c.statusReply, c.prepared.readStarted request) := by
  obtain ⟨command, meaning, states, own, cheap⟩ := readCommand_of_index index
  obtain ⟨reply, c', answer, accepts⟩ :=
    accepted_of_state (c := c) command meaning own (by simp [states, state]) fun size =>
      absurd size cheap
  rw [answer]
  simp only [List.mem_cons, List.not_mem_nil, or_false] at index
  cases accepts with
  | read => rfl
  | outside _ _ beyond => exact absurd beyond (UInt64.not_le.2 range)
  | ignore other | write other =>
    simp only [List.mem_cons, List.not_mem_nil, or_false] at other
    omega
  | _ => omega

end Commands

variable {β : Type} {jobs : List Job} {contents : Image.Contents} {card : Card β}
  {request : Request}

/-- The read is posted under a number of its own, so that the card owes all that it asks for,
whatever the data half was doing. -/
theorem Coherent.dispatch_read (coherent : Coherent jobs contents.sectors card)
    (few : jobs.length + 1 < 2 ^ 28) (index : request.command.toNat ∈ [17, 18])
    (state : (card.commands.sync card.data.finished).state = .transfer)
    (range : request.argument.toUInt64 < contents.sectors) (response : Response) :
    ∃ commands, card.dispatch request response =
        ⟨.ok shortResponse, (Reply.short (Status.word card.commands.status 0 .transfer)).writeTo
          response, { card with commands }⟩ ∧
      commands.posted ≠ card.commands.posted ∧
      owed contents { card with commands } = (Commands.readJob request).bytes contents := by
  have numbered := coherent.numbered
  have inside : request.argument.toUInt64 < (card.commands.sync card.data.finished).sectors := by
    rwa [Commands.sync_sectors, numbered.image]
  have answer := Commands.answer_read index state inside
  have fits := Commands.readJob_fits request
  obtain ⟨commands, same⟩ : ∃ commands, commands =
      (card.commands.sync card.data.finished).prepared.readStarted request := ⟨_, rfl⟩
  have posted : commands.posted =
      .pack (nextGeneration card.commands.generation) (Commands.readJob request) := by
    rw [same, ← Commands.sync_generation card.data.finished]
    rfl
  have number : commands.posted.number = jobs.length + 1 := by
    rw [posted, Ticket.number, Ticket.toNat_generation_pack _ _ fits,
      toNat_nextGeneration_of_lt (by rw [numbered.generation]; exact few), numbered.generation,
      Nat.mod_eq_of_lt few]
  have behind := coherent.follows.number_le numbered
  refine ⟨commands, ?_, ?_, ?_⟩
  · have reply : (card.commands.sync card.data.finished).statusReply =
        .short (Status.word card.commands.status 0 .transfer) := by
      rw [Commands.statusReply, state, Commands.sync_status]
    rw [dispatch_of_answer answer, reply, same]
    rfl
  · intro still
    have := numbered.number
    rw [still] at number
    omega
  · have new : commands.posted ≠ card.data.ticket := by
      intro now
      rw [now] at number
      omega
    have all : owed contents { card with commands } = commands.posted.job.bytes contents :=
      owed_of_behind new
    rw [all, posted, Ticket.job_pack _ _ fits]

end SdBridge.Card
