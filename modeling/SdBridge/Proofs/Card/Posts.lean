import Mathlib.Data.List.Nodup
import Mathlib.Logic.Function.Iterate
import SdBridge.Proofs.Card.Coherence

/-!
Tickets tell posts apart. A ticket is its generation and its job, nothing less; generations go round
all numbers of 28 bits except zero, so a ticket does not come back before as many posts as there are
such numbers.
-/
namespace SdBridge.Card

namespace Job

def Narrow : Job → Prop
  | .readBlock lba | .readBlocks lba => lba.toNat < 2 ^ 32
  | _ => True

theorem Narrow.fits {job : Job} (narrow : job.Narrow) : job.payload ≤ Ticket.payloadMask := by
  cases job with
  | readBlock lba | readBlocks lba =>
    have mask : Ticket.payloadMask.toNat = 2 ^ 32 - 1 := by decide
    rw [UInt64.le_iff_toNat_le, mask]
    exact Nat.le_sub_one_of_lt narrow
  | sdStatus wideBus => cases wideBus <;> decide
  | idle | scr => decide

end Job

namespace Ticket

variable {generation generation' : UInt32} {job job' : Job}

theorem generation_pack (short : generation.toNat < 2 ^ 28) (fits : job.payload ≤ payloadMask) :
    (pack generation job).generation = generation := by
  apply UInt32.toNat_inj.1
  rw [toNat_generation_pack _ _ fits, Nat.mod_eq_of_lt short]

/-- Nothing of a ticket is lost. -/
theorem pack_inj (short : generation.toNat < 2 ^ 28) (short' : generation'.toNat < 2 ^ 28)
    (narrow : job.Narrow) (narrow' : job'.Narrow)
    (same : pack generation job = pack generation' job') :
    generation = generation' ∧ job = job' := by
  constructor
  · rw [← generation_pack short narrow.fits, same, generation_pack short' narrow'.fits]
  · rw [← job_pack generation job narrow.fits, same, job_pack _ _ narrow'.fits]

theorem pack_ne_idle (short : generation.toNat < 2 ^ 28) (narrow : job.Narrow)
    (used : generation ≠ 0) : pack generation job ≠ idle := by
  intro same
  have none : idle.generation = 0 := by decide
  rw [← same, generation_pack short narrow.fits] at none
  exact used none

end Ticket

section Count

variable {start : UInt32}

/-- Counting on is going round the non-zero numbers of 28 bits. -/
theorem toNat_nextGeneration_eq (short : start.toNat < 2 ^ 28) :
    (nextGeneration start).toNat = start.toNat % (2 ^ 28 - 1) + 1 := by
  rw [toNat_nextGeneration]
  split <;> omega

theorem toNat_iterate_nextGeneration (short : start.toNat < 2 ^ 28) (n : Nat) :
    (nextGeneration^[n + 1] start).toNat = (start.toNat + n) % (2 ^ 28 - 1) + 1 := by
  induction n with
  | zero => exact toNat_nextGeneration_eq short
  | succ n ih =>
    have before : (nextGeneration^[n + 1] start).toNat < 2 ^ 28 := by omega
    rw [Function.iterate_succ_apply', toNat_nextGeneration_eq before, ih]
    omega

/-- In a row that is no longer than a round no generation comes twice. -/
theorem nodup_iterate_nextGeneration (short : start.toNat < 2 ^ 28) {length : Nat}
    (few : length ≤ 2 ^ 28 - 1) (first : Nat) :
    ((List.range' first length).map fun n => nextGeneration^[n + 1] start).Nodup := by
  refine List.Nodup.map_on ?_ List.nodup_range'
  intro i amongI j amongJ same
  have insideI := List.mem_range'_1.1 amongI
  have insideJ := List.mem_range'_1.1 amongJ
  have numbers := congrArg UInt32.toNat same
  rw [toNat_iterate_nextGeneration short, toNat_iterate_nextGeneration short] at numbers
  omega

theorem iterate_nextGeneration_ne_zero (n : Nat) : nextGeneration^[n + 1] start ≠ 0 := by
  rw [Function.iterate_succ_apply']
  exact nextGeneration_ne_zero _

end Count

/-- Tickets with the generations that come after a given one. -/
def InTurn (start : UInt32) : List Ticket → Prop
  | [] => True
  | ticket :: rest =>
    ticket.generation = nextGeneration start ∧ InTurn (nextGeneration start) rest

/-- Of no more tickets in a row than there are generations, no two are the same. -/
def Apart (tickets : List Ticket) : Prop :=
  ∀ before row after, tickets = before ++ row ++ after → row.length ≤ 2 ^ 28 - 1 → row.Nodup

section InTurn

variable {start : UInt32} {tickets : List Ticket}

theorem InTurn.getElem (inTurn : InTurn start tickets) (i : Nat) (inside : i < tickets.length) :
    tickets[i].generation = nextGeneration^[i + 1] start := by
  induction tickets generalizing start i with
  | nil => cases inside
  | cons ticket rest ih =>
    obtain ⟨first, others⟩ := inTurn
    cases i with
    | zero => exact first
    | succ i =>
      rw [Function.iterate_succ_apply]
      exact ih others i (Nat.lt_of_succ_lt_succ inside)

theorem InTurn.apart (short : start.toNat < 2 ^ 28) (inTurn : InTurn start tickets) :
    Apart tickets := by
  rintro before row after rfl few
  have generations : row.map Ticket.generation =
      (List.range' before.length row.length).map fun n => nextGeneration^[n + 1] start := by
    refine List.ext_getElem (by simp) fun k inside _ => ?_
    rw [List.length_map] at inside
    have here := inTurn.getElem (before.length + k) (by simp; omega)
    simpa [inside] using here
  refine List.Nodup.of_map Ticket.generation ?_
  rw [generations]
  exact nodup_iterate_nextGeneration short few before.length

end InTurn

namespace Commands

def postAll : List Job → Commands → Except (Failure ProtocolError) (List Ticket)
  | [], _ => .ok []
  | job :: rest, c =>
    match c.post job with
    | .ok c => (postAll rest c).map (c.posted :: ·)
    | .error failure => .error failure

/-- The tickets that commands post, oldest first. Each command comes with the ticket that the data
half has finished by then. -/
def ticketsPosted : List (Ticket × Request) → Commands → List Ticket
  | [], _ => []
  | (finished, request) :: rest, c =>
    let c' := (c.dispatch finished request).2
    let later := ticketsPosted rest c'
    if c'.generation = c.generation then later else c'.posted :: later

variable {c : Commands}

theorem inTurn_postAll {jobs : List Job} (narrow : ∀ job ∈ jobs, job.Narrow) :
    ∃ tickets, c.postAll jobs = .ok tickets ∧ tickets.map Ticket.job = jobs ∧
      InTurn c.generation tickets := by
  induction jobs generalizing c with
  | nil => exact ⟨[], rfl, rfl, trivial⟩
  | cons job rest ih =>
    obtain ⟨first, others⟩ := List.forall_mem_cons.1 narrow
    have next := toNat_nextGeneration_lt c.generation
    obtain ⟨tickets, posted, jobs, inTurn⟩ := ih (c := c.issued job) others
    refine ⟨.pack (nextGeneration c.generation) job :: tickets, ?_, ?_, ?_, inTurn⟩
    · rw [postAll, post_eq_ok first.fits]
      simp only [posted]
      rfl
    · rw [List.map_cons, Ticket.job_pack _ _ first.fits, jobs]
    · exact Ticket.generation_pack next first.fits

/-- A command that posts nothing leaves the count alone, and one that posts a job counts on. -/
theorem inTurn_ticketsPosted (short : c.generation.toNat < 2 ^ 28)
    (commands : List (Ticket × Request)) : InTurn c.generation (c.ticketsPosted commands) := by
  induction commands generalizing c with
  | nil => trivial
  | cons command rest ih =>
    obtain ⟨finished, request⟩ := command
    obtain ⟨result, c', answer⟩ : ∃ result c', (c.sync finished).answer request = (result, c') :=
      ⟨_, _, rfl⟩
    simp only [ticketsPosted, dispatch, answer]
    cases (effect_of_answer answer).posting with
    | nothing posted generation state =>
      rw [sync_generation] at generation
      rw [if_pos generation]
      exact generation ▸ ih (generation ▸ short)
    | posts posted generation fits inRange state =>
      rw [sync_generation] at generation
      have next : c'.generation.toNat < 2 ^ 28 := generation ▸ toNat_nextGeneration_lt c.generation
      have other : c'.generation ≠ c.generation := fun same =>
        nextGeneration_ne short (congrArg UInt32.toNat (generation.symm.trans same))
      rw [if_neg other]
      refine ⟨?_, generation ▸ ih next⟩
      rw [posted, Ticket.generation_pack next fits, generation]

end Commands

/-- A ticket gives back its job, and no two of `2 ^ 28 - 1` tickets in a row are the same, whatever
they were posted by. -/
theorem tickets_apart :
    (∀ (generation : UInt32) (job : Job),
      generation ≠ 0 → generation.toNat < 2 ^ 28 → job.Narrow →
      ∃ ticket, Ticket.issue generation job = .ok ticket ∧ ticket.job = job ∧ ticket ≠ .idle ∧
        ∀ (generation' : UInt32) (job' : Job), generation'.toNat < 2 ^ 28 → job'.Narrow →
          Ticket.issue generation' job' = .ok ticket → generation' = generation ∧ job' = job) ∧
    (∀ start : UInt32, start.toNat < 2 ^ 28 →
      (∀ n, nextGeneration^[n + 1] start ≠ 0) ∧
        ∀ first length, length ≤ 2 ^ 28 - 1 →
          ((List.range' first length).map fun n => nextGeneration^[n + 1] start).Nodup) ∧
    ∀ c : Commands, c.generation.toNat < 2 ^ 28 →
      (∀ jobs : List Job, (∀ job ∈ jobs, job.Narrow) →
        ∃ tickets, c.postAll jobs = .ok tickets ∧ tickets.map Ticket.job = jobs ∧
          Apart tickets) ∧
      ∀ commands, Apart (c.ticketsPosted commands) := by
  refine ⟨fun generation job used short narrow => ?_, fun start short => ⟨?_, ?_⟩,
    fun c short => ⟨?_, ?_⟩⟩
  · refine ⟨_, Ticket.issue_eq_ok _ narrow.fits, Ticket.job_pack _ _ narrow.fits,
      Ticket.pack_ne_idle short narrow used, ?_⟩
    intro generation' job' short' narrow' issued
    rw [Ticket.issue_eq_ok _ narrow'.fits] at issued
    exact Ticket.pack_inj short' short narrow' narrow (Except.ok.inj issued)
  · exact fun n => iterate_nextGeneration_ne_zero n
  · exact fun first length few => nodup_iterate_nextGeneration short few first
  · intro jobs narrow
    obtain ⟨tickets, posted, given, inTurn⟩ := Commands.inTurn_postAll (c := c) narrow
    exact ⟨tickets, posted, given, inTurn.apart short⟩
  · exact fun commands => (Commands.inTurn_ticketsPosted short commands).apart short

/-- The count goes from its last number to one, and the card is reset before and after that. -/
theorem tickets_apart_wrapping :
    let last : Commands := { Commands.ofImage 4 {} with generation := 0x0ffffffe }
    let resets : List (Ticket × Request) := [(.idle, ⟨0, 0, 0⟩), (.idle, ⟨0, 0, 0⟩)]
    last.ticketsPosted resets = [.pack 0x0fffffff .idle, .pack 1 .idle] ∧
      (last.ticketsPosted resets).Nodup ∧
      (∃ ticket, Ticket.issue 1 (.readBlocks 0xffffffff) = .ok ticket ∧
        ticket.job = .readBlocks 0xffffffff ∧ ticket ≠ .idle) ∧
      ∃ tickets, last.postAll [.scr, .scr, .readBlock 0xffffffff] = .ok tickets ∧
        tickets.Nodup := by
  intro last resets
  have short : last.generation.toNat < 2 ^ 28 := by decide
  obtain ⟨issued, -, apart⟩ := tickets_apart
  obtain ⟨posts, commands⟩ := apart last short
  obtain ⟨ticket, found, given, posted, -⟩ := issued 1 (.readBlocks 0xffffffff) (by decide)
    (by decide) (by decide : (0xffffffff : UInt64).toNat < 2 ^ 32)
  obtain ⟨tickets, collected, jobs, distinct⟩ := posts [.scr, .scr, .readBlock 0xffffffff]
    (by simp [Job.Narrow])
  have three : tickets.length = 3 := by simpa using congrArg List.length jobs
  refine ⟨by decide, commands resets [] _ [] (by simp) (by decide), ⟨ticket, found, given, posted⟩,
    tickets, collected, distinct [] tickets [] (by simp) (by omega)⟩

end SdBridge.Card
