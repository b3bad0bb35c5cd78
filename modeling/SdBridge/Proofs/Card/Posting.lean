import SdBridge.Proofs.Card.Answer
import SdBridge.Proofs.Image.Contents

/-!
What answering a command does to the words that the halves of a card share. An answer posts at most
one job; a job with bytes to hand out is posted exactly when the data state is entered, and every
job posted in the data state ends it.
-/
namespace SdBridge.Card

namespace Job

def InRange (sectors : UInt64) : Job → Prop
  | .readBlock lba | .readBlocks lba => lba < sectors
  | _ => True

def bytes (contents : Image.Contents) : Job → List UInt8
  | .idle => []
  | .readBlock lba => (contents.sector lba).toList
  | .readBlocks lba => contents.onwards lba
  | .sdStatus wideBus => (Card.sdStatus wideBus).toList
  | .scr => Card.scr.toList

def length (sectors : UInt64) : Job → Nat
  | .idle => 0
  | .readBlock _ => Image.sectorSize
  | .readBlocks lba => Image.sectorSize * (sectors.toNat - lba.toNat)
  | .sdStatus _ => 64
  | .scr => 8

@[simp] theorem length_idle (sectors : UInt64) : Job.idle.length sectors = 0 := rfl

theorem length_bytes (contents : Image.Contents) (job : Job) :
    (job.bytes contents).length = job.length contents.sectors := by
  cases job <;> simp [bytes, length, Image.Contents.length_onwards]

theorem length_eq_zero_iff {sectors : UInt64} {job : Job} (inRange : job.InRange sectors) :
    job.length sectors = 0 ↔ job = .idle := by
  cases job with
  | readBlocks lba =>
    have inside := UInt64.lt_iff_toNat_lt.1 (show lba < sectors from inRange)
    simp only [length, Image.sectorSize, reduceCtorEq, iff_false]
    omega
  | _ => simp [length]

end Job

namespace Commands

/-- The job that a command posts if it is accepted and posts one. The bus width is the one in
force when the command arrives. -/
def jobOf (isApp wideBus : Bool) (request : Request) : Job :=
  match isApp, request.command.toNat with
  | true, 13 => .sdStatus wideBus
  | true, 51 => .scr
  | _, 17 => .readBlock request.argument.toUInt64
  | _, 18 => .readBlocks request.argument.toUInt64
  | _, _ => .idle

inductive Posting (job : Job) (c c' : Commands) : Prop where
  | nothing (posted : c'.posted = c.posted) (generation : c'.generation = c.generation)
      (state : c'.state = .sendingData → c.state = .sendingData)
  | posts (posted : c'.posted = .pack c'.generation job)
      (generation : c'.generation = nextGeneration c.generation)
      (fits : job.payload ≤ Ticket.payloadMask) (inRange : job.InRange c.sectors)
      (state : c'.state = .sendingData ↔ job ≠ .idle)

/-- No error waits to be reported, an illegal command excepted. -/
def Calm (c : Commands) : Prop := c.status = 0 ∨ c.status = Status.illegalCommand

/-- The effect of a command on the command half, as far as the data half can tell. -/
structure Effect (job : Job) (c c' : Commands) : Prop where
  sectors : c'.sectors = c.sectors
  posting : Posting job c c'
  calm : c.Calm → c'.Calm

variable {request : Request} {c c' : Commands} {reply : Reply}

theorem calm_of_reported {bits : UInt32} (calm : c.Calm)
    (known : bits ∈ [0, Status.blockLengthError, Status.outOfRange, Status.writeProtectViolation])
    (status : c'.status = (c.status ||| bits) &&& ~~~Status.errors) : c'.Calm := by
  refine .inl (status.trans ?_)
  rcases calm with calm | calm
  all_goals simp only [List.mem_cons, List.not_mem_nil, or_false] at known
  all_goals rcases known with rfl | rfl | rfl | rfl
  all_goals rw [calm]; decide

theorem calm_of_eq (calm : c.Calm) (status : c'.status = c.status) : c'.Calm := by
  simpa only [Calm, status] using calm

theorem calm_of_cleared (calm : c.Calm) (status : c'.status = c.status &&& ~~~Status.errors) :
    c'.Calm :=
  calm_of_reported calm (List.mem_cons_self : (0 : UInt32) ∈ _) (by simpa using status)

theorem readJob_inRange {sectors : UInt64} (range : request.argument.toUInt64 < sectors) :
    (readJob request).InRange sectors := by
  unfold readJob
  split <;> exact range

theorem jobOf_eq_readJob (isApp : Bool) (wideBus : Bool) (index : request.command.toNat ∈ [17, 18]) :
    jobOf isApp wideBus request = readJob request := by
  simp only [List.mem_cons, List.not_mem_nil, or_false] at index
  rcases index with index | index <;> cases isApp <;> simp [jobOf, readJob, index]

/-- Commands that post nothing and stay out of the data state. -/
theorem effect_of_unposted {job : Job} (sectors : c'.sectors = c.sectors)
    (posted : c'.posted = c.posted) (generation : c'.generation = c.generation)
    (state : c'.state = .sendingData → c.state = .sendingData) (calm : c.Calm → c'.Calm) :
    Effect job c c' :=
  ⟨sectors, .nothing posted generation state, calm⟩

/-- Commands that post the idle job leave the data state. -/
theorem effect_of_idle {job : Job} (idle : job = .idle) (sectors : c'.sectors = c.sectors)
    (posted : c'.posted = .pack c'.generation .idle)
    (generation : c'.generation = nextGeneration c.generation) (state : c'.state ≠ .sendingData)
    (calm : c.Calm → c'.Calm) : Effect job c c' := by
  subst idle
  exact ⟨sectors, .posts posted generation (by decide) trivial (by simpa using state), calm⟩

theorem effect_of_accepts (isApp : Bool)
    (other : isApp = true → ∀ command : AppCommand, request.command.toNat ≠ command.index)
    (accepts : Accepts request c reply c') : Effect (jobOf isApp c.wideBus request) c c' := by
  cases accepts
  case reset index =>
    exact effect_of_idle (by cases isApp <;> simp [jobOf, index]) rfl rfl rfl (by rintro ⟨⟩)
      fun _ => .inl rfl
  case deselect index _ _ =>
    exact effect_of_idle (by cases isApp <;> simp [jobOf, index]) rfl rfl rfl (by rintro ⟨⟩)
      fun calm => calm_of_eq calm rfl
  case stop index _ =>
    exact effect_of_idle (by cases isApp <;> simp [jobOf, index]) rfl rfl rfl (by rintro ⟨⟩)
      fun calm => calm_of_cleared calm rfl
  case read index state range =>
    rw [jobOf_eq_readJob isApp _ index]
    refine ⟨rfl, .posts rfl rfl (readJob_fits request) (readJob_inRange range) ?_,
      fun calm => calm_of_cleared calm rfl⟩
    simp only [readJob, true_iff]
    split <;> rintro ⟨⟩
  case identify => exact effect_of_unposted rfl rfl rfl (by rintro ⟨⟩) fun calm => calm_of_eq calm rfl
  case select => exact effect_of_unposted rfl rfl rfl (by rintro ⟨⟩) fun calm => calm_of_cleared calm rfl
  case address =>
    -- Left open, the new address is computed whenever a field of the state is looked at.
    generalize nextRca c.rca = rca
    exact effect_of_unposted rfl rfl rfl (by rintro ⟨⟩) fun calm => calm_of_cleared calm rfl
  case ignore | voltage | capacity | identity =>
    exact effect_of_unposted rfl rfl rfl id fun calm => calm_of_eq calm rfl
  case status | blockLength | announce =>
    exact effect_of_unposted rfl rfl rfl id fun calm => calm_of_cleared calm rfl
  case otherLength | outside | write =>
    exact effect_of_unposted rfl rfl rfl id fun calm =>
      calm_of_reported calm (by simp) rfl

theorem effect_of_acceptsApp (accepts : AcceptsApp request c reply c') :
    Effect (jobOf true c.wideBus request) c c' := by
  cases accepts
  case plain index accepts => exact effect_of_accepts true (fun _ => index) accepts
  case width =>
    exact effect_of_unposted rfl rfl rfl id fun calm => calm_of_cleared calm rfl
  case operate => exact effect_of_unposted rfl rfl rfl (by rintro ⟨⟩) fun calm => calm_of_eq calm rfl
  case inquire => exact effect_of_unposted rfl rfl rfl id fun calm => calm_of_eq calm rfl
  case status index _ =>
    rw [show jobOf true c.wideBus request = .sdStatus c.wideBus by simp [jobOf, index]]
    exact ⟨rfl, .posts rfl rfl (by cases c.wideBus <;> decide) trivial (by simp),
      fun calm => calm_of_cleared calm rfl⟩
  case scr index _ =>
    rw [show jobOf true c.wideBus request = .scr by simp [jobOf, index]]
    exact ⟨rfl, .posts rfl rfl (by decide) trivial (by simp),
      fun calm => calm_of_cleared calm rfl⟩

theorem effect_of_prepared {job : Job} (effect : Effect job c.prepared c') : Effect job c c' := by
  refine ⟨effect.sectors, ?_, effect.calm⟩
  cases effect.posting with
  | nothing posted generation state => exact .nothing posted generation state
  | posts posted generation fits inRange state =>
    exact .posts posted generation fits inRange state

theorem calm_noted {cause : ProtocolError} (calm : c.Calm)
    (status : c'.status = noted cause c.status) : c'.Calm := by
  cases cause with
  | illegalCommand command =>
    refine .inr (status.trans ?_)
    rcases calm with none | illegal
    · simp [noted, none]
    · simp [noted, illegal]
  | wrongState | outOfRange => exact calm_of_eq calm status

/-- The effect of any answer, refusals and faults included. -/
theorem effect_of_answer {result : Except (Failure ProtocolError) Reply}
    (answer : c.answer request = (result, c')) :
    Effect (jobOf (c.readsAsApp request) c.wideBus request) c c' := by
  have answered := answered request c
  rw [answer] at answered
  cases answered with
  | plain plain accepts =>
    rw [plain]
    exact effect_of_prepared (effect_of_accepts false nofun accepts)
  | app app accepts =>
    rw [app]
    exact effect_of_prepared (effect_of_acceptsApp accepts)
  | refused => exact effect_of_unposted rfl rfl rfl id fun calm => calm_noted calm rfl
  | faulted => exact effect_of_unposted rfl rfl rfl id fun calm => calm_of_eq calm rfl

end Commands
end SdBridge.Card
