import Mathlib.Order.Bounds.Basic
import SdBridge.Proofs.Card.Dialogue
import SdBridge.Proofs.Card.Read
import SdBridge.Proofs.Image.Reliable
import SdBridge.Proofs.Register.Word

/-!
The size that a card states of itself, against the sectors that it lets a host read. The stated size
comes in units of 1024 sectors and in a field of 22 bits, so that it may fall short of the image; it
never goes beyond.
-/
namespace SdBridge.Card

/-- The size in sectors that a card specific data register states: one unit of 1024 sectors more than
its field of 22 bits counts, which ends with the tenth byte. -/
def statedSectors (register : Vector UInt8 16) : Nat :=
  (register[7].toNat % 2 ^ 6 * 2 ^ 16 + register[8].toNat * 2 ^ 8 + register[9].toNat + 1) * 1024

theorem toNat_capacityField (sectors : UInt64) :
    (capacityField sectors).toNat = min (sectors.toNat / 1024 - 1) 0x3fffff := by
  have short : min (sectors.toNat / 1024 - 1) 0x3fffff < 2 ^ 32 := by omega
  exact UInt32.toNat_ofNat_of_lt short

/-- Three bytes hold the field whole, since its uppermost bits are never cut off. -/
theorem statedSectors_csd (sectors : UInt64) :
    statedSectors (csd sectors) = (min (sectors.toNat / 1024 - 1) 0x3fffff + 1) * 1024 := by
  obtain ⟨capacity, same⟩ : ∃ capacity, capacity = capacityField sectors := ⟨_, rfl⟩
  have field := toNat_capacityField sectors
  have upper : (csd sectors)[7] = (capacity >>> 16).toUInt8 &&& 0x3f := by rw [same]; rfl
  have middle : (csd sectors)[8] = (capacity >>> 8).toUInt8 := by rw [same]; rfl
  have lower : (csd sectors)[9] = capacity.toUInt8 := by rw [same]; rfl
  have masked : ((capacity >>> 16).toUInt8 &&& 0x3f).toNat =
      (capacity >>> 16).toUInt8.toNat % 2 ^ 6 := by
    rw [UInt8.toNat_and]
    exact Nat.and_two_pow_sub_one_eq_mod _ 6
  rw [statedSectors, upper, middle, lower, masked, toNat_byte capacity (n := 16) (by decide),
    toNat_byte capacity (n := 8) (by decide), UInt32.toNat_toUInt8]
  rw [← same] at field
  omega

/-- No larger multiple of 1024 fits both the image and an argument of 32 bits. -/
theorem isGreatest_statedSectors {sectors : UInt64} (large : 1024 ≤ sectors.toNat) :
    IsGreatest {size | 1024 ∣ size ∧ size ≤ min sectors.toNat (2 ^ 32)}
      (statedSectors (csd sectors)) := by
  rw [statedSectors_csd]
  constructor
  · exact ⟨Nat.dvd_mul_left .., by omega⟩
  · rintro size ⟨⟨units, rfl⟩, fits⟩
    omega

namespace Commands

variable {request : Request} {c c' : Commands} {reply : Reply}

theorem sync_csd (finished : Ticket) : (c.sync finished).csd = c.csd := by
  simp only [sync]
  split <;> rfl

theorem csd_of_accepts (accepts : Accepts request c reply c') : c'.csd = c.csd := by
  cases accepts
  case address =>
    generalize nextRca c.rca = rca
    rfl
  all_goals rfl

/-- No command changes the register that states the size. -/
theorem answer_csd (request : Request) (c : Commands) : (c.answer request).2.csd = c.csd := by
  have answered := answered request c
  generalize (c.answer request).1 = result at answered
  generalize (c.answer request).2 = after at answered ⊢
  cases answered with
  | plain _ accepts => exact csd_of_accepts (c := c.prepared) accepts
  | app _ accepts =>
    cases accepts
    case plain accepts => exact csd_of_accepts (c := c.prepared) accepts
    all_goals rfl
  | refused _ => rfl
  | faulted _ => rfl

/-- An addressed card in the stand-by state sends the register and tells the size in bytes, as long
as a word can hold it. -/
theorem answer_sendCsd (index : request.command.toNat = 9) (state : c.state = .standby)
    (addressed : c.addressed request.argument = true) {bytes : UInt64}
    (size : checkedMul c.sectors Image.sectorSize.toUInt64 = .ok bytes) :
    c.answer request = (.ok (.long c.csd), { c.prepared with pending := some (.getSize bytes) }) := by
  obtain ⟨reply, c', answer, accepts⟩ := accepted_of_state (c := c) .sendCsd index
    (by decide) (by simp [state, Command.states]) fun _ => lt_of_checkedMul size
  rw [answer]
  cases accepts with
  | capacity _ _ other same =>
    cases same.symm.trans size
    rfl
  | ignore _ foreign =>
    have own : c.addressed request.argument = false := foreign (by omega)
    rw [own] at addressed
    contradiction
  | outside other | read other | write other => simp [index] at other
  | _ => omega

theorem reply_of_accepts_sendCsd (index : request.command.toNat = 9)
    (accepts : Accepts request c reply c') : reply = .silent ∨ reply = .long c.csd := by
  cases accepts
  case capacity => exact .inr rfl
  case ignore => exact .inl rfl
  all_goals simp_all

/-- The command for the register is answered by the register, or by nothing at all. -/
theorem reply_of_sendCsd (index : request.command.toNat = 9)
    (answer : (c.answer request).1 = .ok reply) : reply = .silent ∨ reply = .long c.csd := by
  have answered := answered request c
  rw [answer] at answered
  generalize (c.answer request).2 = after at answered
  cases answered with
  | plain _ accepts => exact reply_of_accepts_sendCsd (c := c.prepared) index accepts
  | app _ accepts =>
    cases accepts
    case plain accepts => exact reply_of_accepts_sendCsd (c := c.prepared) index accepts
    all_goals omega

end Commands

/-- What every card knows of its image, and that it owes the host no error of an earlier command but
for an illegal one. -/
structure Informed (sectors : UInt64) (c : Commands) : Prop where
  image : c.sectors = sectors
  register : c.csd = Card.csd sectors
  calm : c.Calm

theorem Informed.sync {sectors : UInt64} {c : Commands} (informed : Informed sectors c)
    (finished : Ticket) : Informed sectors (c.sync finished) where
  image := (Commands.sync_sectors finished c).trans informed.image
  register := (Commands.sync_csd finished).trans informed.register
  calm := Commands.calm_of_eq informed.calm (Commands.sync_status finished c)

theorem Informed.answer {sectors : UInt64} {c : Commands} (informed : Informed sectors c)
    (request : Request) : Informed sectors (c.answer request).2 where
  image := (Commands.effect_of_answer rfl).sectors.trans informed.image
  register := (Commands.answer_csd request c).trans informed.register
  calm := Commands.Effect.calm (Commands.effect_of_answer rfl) informed.calm

/-- What is still owed from an earlier command is not that a sector was out of range. -/
theorem word_outOfRange {c : Commands} (calm : c.Calm) :
    Status.word c.status 0 .transfer &&& Status.outOfRange = 0 := by
  rcases calm with none | illegal
  · rw [none]
    decide
  · rw [illegal]
    decide

/-- The size of an image of a whole number of sectors in bytes is found again. -/
theorem checkedMul_of_sectorsOfSize {size sectors : UInt64}
    (whole : Image.sectorsOfSize size = .ok sectors) :
    checkedMul sectors Image.sectorSize.toUInt64 = .ok size := by
  have product := Image.toNat_sectorsOfSize whole
  have unit : (Image.sectorSize.toUInt64).toNat = Image.sectorSize := rfl
  have small : sectors.toNat * (Image.sectorSize.toUInt64).toNat < UInt64.size := by
    rw [unit, product]
    exact size.toNat_lt
  rw [checkedMul_eq_ok small]
  congr 1
  apply UInt64.toNat_inj.1
  rw [UInt64.toNat_mul, unit, product]
  exact Nat.mod_eq_of_lt size.toNat_lt

section Informed

variable {β : Type} {card : Card β} {sectors : UInt64} {request : Request} {response : Response}

/-- A card sends the register that it was made with. -/
theorem Informed.dispatch_sendCsd (informed : Informed sectors card.commands)
    (index : request.command.toNat = 9)
    (long : (card.dispatch request response).result = .ok longResponse) :
    (card.dispatch request response).response = csd sectors := by
  rcases answer : (card.commands.sync card.data.finished).answer request with
    ⟨failure | reply, commands⟩
  · rw [dispatch_of_failure answer] at long
    cases long
  · rw [dispatch_of_answer answer] at long ⊢
    rcases Commands.reply_of_sendCsd index (congrArg Prod.fst answer) with rfl | rfl
    · cases long
    · rw [(informed.sync _).register]
      exact Reply.writeTo_long _ response

/-- In the stand-by state an addressed card sends it, and tells the size of the image in bytes. -/
theorem Informed.dispatch_standby (informed : Informed sectors card.commands)
    (index : request.command.toNat = 9)
    (state : (card.commands.sync card.data.finished).state = .standby)
    (addressed : (card.commands.sync card.data.finished).addressed request.argument = true)
    {size : UInt64} (whole : Image.sectorsOfSize size = .ok sectors) :
    (card.dispatch request response).result = .ok longResponse ∧
      (card.dispatch request response).state.takeBlockRequest.1 = some (.getSize size) := by
  have bytes : checkedMul (card.commands.sync card.data.finished).sectors
      Image.sectorSize.toUInt64 = .ok size := by
    rw [(informed.sync _).image]
    exact checkedMul_of_sectorsOfSize whole
  rw [dispatch_of_answer (Commands.answer_sendCsd index state addressed bytes)]
  exact ⟨rfl, rfl⟩

/-- In the transfer state a sector that exists is read, and none is said to be out of range. -/
theorem Informed.dispatch_read (informed : Informed sectors card.commands)
    (index : request.command.toNat = 17)
    (state : (card.commands.sync card.data.finished).state = .transfer)
    (range : request.argument.toUInt64 < sectors) :
    ∃ word, (card.dispatch request response).result = .ok shortResponse ∧
      (card.dispatch request response).response = (Reply.short word).writeTo response ∧
      word &&& Status.outOfRange = 0 ∧
      (card.dispatch request response).state.commands.state = .sendingData ∧
      (card.dispatch request response).state.commands.posted.job =
        .readBlock request.argument.toUInt64 := by
  have synced := informed.sync card.data.finished
  have among : request.command.toNat ∈ [17, 18] := by simp [index]
  have answer := Commands.answer_read among state (by rwa [synced.image])
  rw [dispatch_of_answer answer]
  refine ⟨_, rfl, rfl, ?_, rfl, ?_⟩
  · rw [state]
    exact word_outOfRange synced.calm
  · refine (Ticket.job_pack _ _ (Commands.readJob_fits request)).trans ?_
    simp [Commands.readJob, index]

end Informed

/-- The states that a card comes to by calls to it, in any order. -/
inductive Reachable {β : Type} [Image.Store β] (image : β) (identity : Identity) : Card β → Prop where
  | fresh : Reachable image identity (ofImage image identity)
  | dispatch {card} (request : Request) (response : Response) :
    Reachable image identity card → Reachable image identity (card.dispatch request response).state
  | takeBlockRequest {card} :
    Reachable image identity card → Reachable image identity card.takeBlockRequest.2
  | dataReady {card} :
    Reachable image identity card → Reachable image identity card.dataReady.state
  | nextByte {card} :
    Reachable image identity card → Reachable image identity card.nextByte.state

variable {β : Type} [Image.Store β] {image : β} {identity : Identity} {card : Card β}

theorem Reachable.informed (reachable : Reachable image identity card) :
    Informed (Image.Store.sectorCount image) card.commands := by
  induction reachable with
  | fresh => exact ⟨rfl, rfl, .inl rfl⟩
  | dispatch request response _ before =>
    rw [dispatch_state]
    exact (before.sync _).answer request
  | takeBlockRequest _ before => exact ⟨before.image, before.register, before.calm⟩
  | dataReady _ before => exact before
  | nextByte _ before => exact before

/-- The stated size is the largest number of whole units that neither the image nor an argument
exceeds, and every sector below it can be read. -/
theorem stated_size (reachable : Reachable image identity card) :
    let sectors := Image.Store.sectorCount image
    let synced := card.commands.sync card.data.finished
    (1024 ≤ sectors.toNat →
      IsGreatest {size | 1024 ∣ size ∧ size ≤ min sectors.toNat (2 ^ 32)}
          (statedSectors (csd sectors)) ∧
        statedSectors (csd sectors) ≤ sectors.toNat ∧
        ∀ request response, request.command.toNat = 17 → synced.state = .transfer →
          request.argument.toNat < statedSectors (csd sectors) →
          ∃ word, (card.dispatch request response).result = .ok shortResponse ∧
            (card.dispatch request response).response = (Reply.short word).writeTo response ∧
            word &&& Status.outOfRange = 0 ∧
            (card.dispatch request response).state.commands.state = .sendingData ∧
            (card.dispatch request response).state.commands.posted.job =
              .readBlock request.argument.toUInt64) ∧
      (∀ request response, request.command.toNat = 9 →
        (card.dispatch request response).result = .ok longResponse →
        (card.dispatch request response).response = csd sectors) ∧
      ∀ request response size, request.command.toNat = 9 → synced.state = .standby →
        synced.addressed request.argument = true → Image.sectorsOfSize size = .ok sectors →
        (card.dispatch request response).result = .ok longResponse ∧
        (card.dispatch request response).state.takeBlockRequest.1 = some (.getSize size) ∧
        size.toNat = sectors.toNat * 512 := by
  intro sectors synced
  have informed := reachable.informed
  refine ⟨fun large => ?_, ?_, ?_⟩
  · have greatest := isGreatest_statedSectors large
    have within : statedSectors (csd sectors) ≤ sectors.toNat :=
      Nat.le_trans greatest.1.2 (Nat.min_le_left _ _)
    refine ⟨greatest, within, fun request response index state below => ?_⟩
    refine informed.dispatch_read index state (UInt64.lt_iff_toNat_lt.2 ?_)
    rw [UInt32.toNat_toUInt64]
    exact Nat.lt_of_lt_of_le below within
  · intro request response index long
    exact informed.dispatch_sendCsd index long
  · intro request response size index state addressed whole
    obtain ⟨result, told⟩ := informed.dispatch_standby index state addressed whole
    exact ⟨result, told, (Image.toNat_sectorsOfSize whole).symm⟩

def asked (requests : List Request) (card : Card β) : Card β :=
  requests.foldl (fun card request => (card.dispatch request (Vector.replicate 16 0)).state) card

theorem Reachable.asked (reachable : Reachable image identity card) (requests : List Request) :
    Reachable image identity (card.asked requests) := by
  induction requests generalizing card with
  | nil => exact reachable
  | cons request rest ih => exact ih (reachable.dispatch request _)

/-- An image of a unit and a half states one unit, all of which can be read. -/
theorem stated_size_identified :
    let image : Image.Memory := ⟨.zeros (1536 * 512)⟩
    let buffer : Response := Vector.replicate 16 0
    let identified := (ofImage image).asked [⟨55, 0, 0⟩, ⟨41, ocrVoltageWindow, 0⟩, ⟨2, 0, 0⟩, ⟨3, 0, 0⟩]
    let selected := identified.asked [⟨7, 0x45670000, 0⟩]
    let capacity := identified.dispatch ⟨9, 0x45670000, 0⟩ buffer
    let last := selected.dispatch ⟨17, 1023, 0⟩ buffer
    capacity.result = .ok 16 ∧ statedSectors capacity.response = 1024 ∧
      capacity.state.takeBlockRequest.1 = some (.getSize 786432) ∧
      last.result = .ok 4 ∧ last.state.commands.posted.job = .readBlock 1023 := by
  intro image buffer identified selected capacity last
  have count : Image.Store.sectorCount image = 1536 := by decide +kernel
  have large : 1024 ≤ (Image.Store.sectorCount image).toNat := by
    rw [count]
    decide
  have standby : Reachable image {} identified := Reachable.fresh.asked _
  have transfer : Reachable image {} selected := standby.asked _
  obtain ⟨-, register, size⟩ := stated_size standby
  obtain ⟨-, -, read⟩ := (stated_size transfer).1 large
  obtain ⟨result, told, -⟩ := size ⟨9, 0x45670000, 0⟩ buffer 786432 (by decide) (by decide +kernel)
    (by decide +kernel) (by rw [count]; rfl)
  obtain ⟨word, answered, -, -, -, job⟩ := read ⟨17, 1023, 0⟩ buffer (by decide) (by decide +kernel)
    (by rw [statedSectors_csd, count]; decide +kernel)
  have sector : (1023 : UInt32).toUInt64 = 1023 := by decide
  have stated : statedSectors capacity.response = 1024 := by
    rw [register _ _ (by decide) result, statedSectors_csd, count]
    decide
  have first : last.state.commands.posted.job = .readBlock 1023 := by
    rw [job, sector]
  exact ⟨result, stated, told, answered, first⟩

end SdBridge.Card
