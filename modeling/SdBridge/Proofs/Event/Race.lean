import SdBridge.Proofs.Event.Consumer

/-!
One producer and one consumer at the same ring, access by access in any order. The words are read
as they were written last, which is what the fences and orderings of the ring are for; that they do
it is not shown here.
-/
namespace SdBridge.Event.Ring

inductive Activity where
  | resting
  | taking (program : Run (Option Taken × Consumer))
  | releasing (taken : Taken) (program : Run Consumer)

structure Race where
  capacity : Nat
  world : World
  producer : Run UInt64
  /-- The consumer's own words as they were when it rested last. -/
  consumer : Consumer
  activity : Activity := .resting
  /-- The records taken so far. They may be handed back, each as often as one likes. -/
  taken : List Taken := []
  /-- The records that were handed back and were at the tail then. -/
  released : List Taken := []
  faults : List Fault := []

inductive Turn where
  | produce
  /-- The consumer begins to take a record, and looks so many times at most. -/
  | take (attempts : Nat)
  /-- The consumer begins to hand back one of the records taken so far. -/
  | release (index : Nat)
  | consume

namespace Race

def start (ring : Ring) (records : List Record) : Race where
  capacity := ring.capacity
  world := ⟨ring.shared, 0⟩
  producer := publishing ring.capacity ring.head records
  consumer := ring.consumer

def took (r : Race) : Run (Option Taken × Consumer) → Race
  | .done (taken?, consumer) =>
    { r with consumer, activity := .resting, taken := r.taken ++ taken?.toList }
  | .fail fault => { r with activity := .resting, faults := r.faults ++ [fault] }
  | program => { r with activity := .taking program }

def gaveBack (r : Race) (taken : Taken) : Run Consumer → Race
  | .done consumer =>
    { r with consumer, activity := .resting, released := r.released ++ [taken] }
  | .fail fault => { r with activity := .resting, faults := r.faults ++ [fault] }
  | program => { r with activity := .releasing taken program }

/-- Take a turn. The consumer begins nothing new before it is done. -/
def turn : Turn → Race → Race
  | .produce, r =>
    let (producer, world) := r.producer.step World.perform r.world
    { r with producer, world }
  | .take attempts, r =>
    match r.activity with
    | .resting => { r with activity := .taking (Ring.taking r.capacity attempts r.consumer) }
    | _ => r
  | .release index, r =>
    match r.activity, r.taken[index]? with
    | .resting, some taken => { r with activity := .releasing taken (releasing taken r.consumer) }
    | _, _ => r
  | .consume, r =>
    match r.activity with
    | .resting => r
    | .taking program =>
      let (program, world) := program.step World.perform r.world
      { r with world }.took program
    | .releasing taken program =>
      let (program, world) := program.step World.perform r.world
      { r with world }.gaveBack taken program

def run (ring : Ring) (records : List Record) (turns : List Turn) : Race :=
  turns.foldl (fun r turn => r.turn turn) (start ring records)

theorem run_append (ring : Ring) (records : List Record) (turns : List Turn) (turn : Turn) :
    run ring records (turns ++ [turn]) = (run ring records turns).turn turn := by
  simp [run, List.foldl_append]

def Working (records : List Record) (r : Race) : Prop :=
  match r.activity with
  | .resting => r.consumer.Rests r.capacity records r.released.length r.world
  | .taking program =>
    program.Upholds World.perform (World.Ahead r.capacity records) (World.Passes r.capacity)
      (fun (taken?, c) w => c.Rests r.capacity records r.released.length w ∧
        ∀ taken, taken? = some taken → c.Holds records taken w) r.world
  | .releasing taken program =>
    program = releasing taken r.consumer ∧ taken ∈ r.taken ∧
      r.consumer.Rests r.capacity records r.released.length r.world

structure Fair (records : List Record) (r : Race) : Prop where
  sound : r.world.Sound r.capacity records
  producer : r.producer.Upholds World.perform World.Untouched (World.Ahead r.capacity records)
    (fun _ _ => True) r.world
  working : r.Working records
  taken : ∀ taken ∈ r.taken, taken.cursor.toNat < r.world.shared.head.toNat ∧
    records[taken.cursor.toNat]? = some taken.record
  ordered : (r.released.map Taken.cursor).Pairwise (· < ·)
  below : ∀ taken ∈ r.released, taken.cursor < r.world.shared.tail
  overwritten : ∀ n < r.world.shared.tail.toNat, (∀ taken ∈ r.released, taken.cursor.toNat ≠ n) →
    n + r.capacity < r.world.begun
  faults : ∀ fault ∈ r.faults, ∃ released tail, fault = .foreignRelease released tail

variable {records : List Record} {r : Race}

theorem fair_start {capacity : Nat} {ring : Ring} (made : Ring.ofCapacity capacity = .ok ring)
    (few : records.length < 2 ^ 64 - 1) :
    Fair records (start ring records) ∧ ring.capacity = capacity ∧ 0 < capacity ∧
      capacity < 2 ^ 64 := by
  simp only [Ring.ofCapacity, zeroed] at made
  split at made
  · split at made
    · rename_i large fits
      cases made
      have pos : 0 < capacity := by omega
      have sound : World.Sound capacity records ⟨{ slots := Array.replicate capacity .empty }, 0⟩ :=
        ⟨Array.size_replicate, Nat.le_refl _, Nat.zero_le _,
          fun n before => absurd before (Nat.not_lt_zero n),
          fun n _ before => absurd before (Nat.not_lt_zero n)⟩
      have size : Ring.capacity { shared := { slots := Array.replicate capacity .empty } } =
          capacity := Array.size_replicate
      have none {α : Type} {holds : α → Prop} : ∀ a ∈ ([] : List α), holds a := by simp
      refine ⟨⟨?_, ?_, ?_, none, .nil, none, fun n before => absurd before (Nat.not_lt_zero n),
        none⟩, size, pos, ?_⟩
      · simpa only [start, size] using sound
      · simp only [start, size]
        exact World.upholds_publishing pos few rfl rfl sound rfl rfl
      · simp only [Working, start, size]
        exact ⟨sound, rfl, Nat.le_refl _, rfl⟩
      · simp only [Slot.bytes, textWords, largestObject] at fits
        omega
    · cases made
  · cases made

/-- What the producer does is what the consumer relies on. -/
theorem Fair.produce (fair : Fair records r) : Fair records (r.turn .produce) := by
  obtain ⟨producer, ahead⟩ :=
    fair.producer.step (World.Untouched.refl r.world) (World.Ahead.refl r.world)
  simp only [turn]
  generalize r.producer.step World.perform r.world = step at producer ahead
  refine ⟨ahead.sound fair.sound, producer, ?_, ?_, fair.ordered, ?_, ?_, fair.faults⟩
  · have working := fair.working
    simp only [Working] at working ⊢
    split at working
    · exact working.ahead ahead
    · exact working.wait (fun _ _ _ => World.Ahead.trans) ahead
    · exact ⟨working.1, working.2.1, working.2.2.ahead ahead⟩
  · intro taken found
    exact ⟨Nat.lt_of_lt_of_le (fair.taken taken found).1 ahead.head, (fair.taken taken found).2⟩
  · simpa only [ahead.tail] using fair.below
  · intro n below other
    rw [ahead.tail] at below
    exact Nat.lt_of_lt_of_le (fair.overwritten n below other) ahead.begun

theorem Fair.take (fair : Fair records r) (pos : 0 < r.capacity) (fits : r.capacity < 2 ^ 64)
    (attempts : Nat) : Fair records (r.turn (.take attempts)) := by
  have working := fair.working
  simp only [turn]
  split
  · rename_i resting
    simp only [Working, resting] at working
    exact ⟨fair.sound, fair.producer, upholds_taking pos fits attempts working, fair.taken,
      fair.ordered, fair.below, fair.overwritten, fair.faults⟩
  · exact fair

theorem Fair.release (fair : Fair records r) (index : Nat) :
    Fair records (r.turn (.release index)) := by
  have working := fair.working
  simp only [turn]
  split
  · rename_i taken resting found
    simp only [Working, resting] at working
    exact ⟨fair.sound, fair.producer, ⟨rfl, List.mem_of_getElem? found, working⟩, fair.taken,
      fair.ordered, fair.below, fair.overwritten, fair.faults⟩
  · exact fair

/-- An access on the way to a record, or the last one. -/
theorem Fair.consume_taking (fair : Fair records r) {program : Run (Option Taken × Consumer)}
    (busy : r.activity = .taking program) : Fair records (r.turn .consume) := by
  have working := fair.working
  simp only [Working, busy] at working
  obtain ⟨working, passes⟩ := working.step (World.Ahead.refl r.world) (World.Passes.refl r.world)
  simp only [turn, busy]
  generalize program.step World.perform r.world = step at working passes
  obtain ⟨program, world⟩ := step
  dsimp only at working passes
  have untouched := passes.untouched
  have sound := fair.sound.untouched untouched
  have producer : r.producer.Upholds World.perform World.Untouched
      (World.Ahead r.capacity records) (fun _ _ => True) world :=
    fair.producer.wait (fun _ _ _ => World.Untouched.trans) untouched
  have taken : ∀ taken ∈ r.taken, taken.cursor.toNat < world.shared.head.toNat ∧
      records[taken.cursor.toNat]? = some taken.record := by
    simpa only [untouched.head] using fair.taken
  have below : ∀ taken ∈ r.released, taken.cursor < world.shared.tail := fun taken found =>
    UInt64.lt_iff_toNat_lt.2 (Nat.lt_of_lt_of_le
      (UInt64.lt_iff_toNat_lt.1 (fair.below taken found)) passes.tail_le)
  have overwritten : ∀ n < world.shared.tail.toNat,
      (∀ taken ∈ r.released, taken.cursor.toNat ≠ n) → n + r.capacity < world.begun := by
    intro n under other
    by_cases before : n < r.world.shared.tail.toNat
    · rw [untouched.begun]
      exact fair.overwritten n before other
    · exact passes.overwritten n (Nat.not_lt.1 before) under
  cases program with
  | done result =>
    obtain ⟨taken?, consumer⟩ := result
    obtain ⟨rests, holds⟩ := working world (World.Ahead.refl world)
    refine ⟨sound, producer, rests, ?_, fair.ordered, below, overwritten, fair.faults⟩
    intro found member
    rcases List.mem_append.1 member with old | new
    · exact taken found old
    · have holds := holds found (by simpa using new)
      exact ⟨holds.published, holds.record⟩
  | fail fault => exact working.not_fail.elim
  | call access next =>
    exact ⟨sound, producer, working, taken, fair.ordered, below, overwritten, fair.faults⟩

/-- A record at the tail is handed back by one store, which moves the tail past it. -/
theorem Fair.giveBack (fair : Fair records r) (rests :
      r.consumer.Rests r.capacity records r.released.length r.world) {taken : Taken}
    (found : taken ∈ r.taken) (here : taken.cursor = r.consumer.tail)
    (next : (r.consumer.tail + 1).toNat = r.consumer.tail.toNat + 1) :
    Fair records { r with
      world := ⟨r.world.shared.store .tail (r.consumer.tail + 1), r.world.begun⟩
      consumer := { r.consumer with tail := r.consumer.tail + 1 }
      activity := .resting
      released := r.released ++ [taken] } := by
  have tail := rests.tail
  have published := (fair.taken taken found).1
  have untouched : World.Untouched r.world
      ⟨r.world.shared.store .tail (r.consumer.tail + 1), r.world.begun⟩ := ⟨rfl, rfl, rfl⟩
  refine ⟨fair.sound.untouched untouched,
    fair.producer.wait (fun _ _ _ => World.Untouched.trans) untouched, ⟨?_, rfl, ?_, ?_⟩,
    fair.taken, ?_, ?_, ?_, fair.faults⟩
  · exact fair.sound.untouched untouched
  · rw [here] at published
    exact Nat.le_trans (Nat.le_of_eq next) published
  · have := rests.counted
    simp only [List.length_append, List.length_singleton]
    omega
  · rw [List.map_append, List.pairwise_append]
    refine ⟨fair.ordered, by simp, ?_⟩
    intro cursor old last new
    obtain ⟨earlier, member, rfl⟩ := List.mem_map.1 old
    simp only [List.map_cons, List.map_nil, List.mem_singleton] at new
    rw [new, here, ← tail]
    exact fair.below earlier member
  · intro released member
    change released.cursor < r.consumer.tail + 1
    rw [UInt64.lt_iff_toNat_lt, next]
    rcases List.mem_append.1 member with old | new
    · have := UInt64.lt_iff_toNat_lt.1 (fair.below released old)
      rw [tail] at this
      omega
    · rw [List.mem_singleton.1 new, here]
      omega
  · intro n under other
    change n < (r.consumer.tail + 1).toNat at under
    have last : n ≠ r.consumer.tail.toNat := by
      rw [← here]
      exact fun same => other taken (by simp) same.symm
    refine fair.overwritten n (by rw [tail]; omega) fun released member => ?_
    exact other released (List.mem_append_left _ member)

/-- Handing back takes one store, or fails at once. -/
theorem Fair.consume_releasing (fair : Fair records r) (few : records.length < 2 ^ 64 - 1)
    {taken : Taken} {program : Run Consumer} (busy : r.activity = .releasing taken program) :
    Fair records (r.turn .consume) := by
  have working := fair.working
  simp only [Working, busy] at working
  obtain ⟨same, found, rests⟩ := working
  simp only [turn, busy, same]
  by_cases here : taken.cursor = r.consumer.tail
  · have bound := Nat.le_trans rests.tail_le (Nat.le_trans fair.sound.head_le fair.sound.begun_le)
    have next : (r.consumer.tail + 1).toNat = r.consumer.tail.toNat + 1 := by
      rw [UInt64.toNat_add, UInt64.toNat_one]
      omega
    have stepped : (Ring.releasing taken r.consumer).step World.perform r.world =
        (.done { r.consumer with tail := r.consumer.tail + 1 },
          ⟨r.world.shared.store .tail (r.consumer.tail + 1), r.world.begun⟩) := by
      rw [Ring.releasing, if_pos here,
        checkedAdd_eq_ok (by simp only [UInt64.toNat_one, UInt64.size]; omega)]
      rfl
    simp only [stepped, gaveBack]
    exact fair.giveBack rests found here next
  · have stepped : (Ring.releasing taken r.consumer).step World.perform r.world =
        (.fail (.foreignRelease taken.cursor.toNat r.consumer.tail.toNat), r.world) := by
      rw [Ring.releasing, if_neg here]
      rfl
    simp only [stepped, gaveBack]
    refine ⟨fair.sound, fair.producer, rests, fair.taken, fair.ordered, fair.below,
      fair.overwritten, ?_⟩
    intro fault member
    rcases List.mem_append.1 member with old | new
    · exact fair.faults fault old
    · exact ⟨_, _, List.mem_singleton.1 new⟩

theorem capacity_turn (turn : Turn) (r : Race) : (r.turn turn).capacity = r.capacity := by
  cases turn with
  | produce => rfl
  | take attempts | release index =>
    simp only [Race.turn]
    split <;> rfl
  | consume =>
    simp only [Race.turn]
    split
    · rfl
    · unfold took
      split <;> rfl
    · unfold gaveBack
      split <;> rfl

theorem fair_run {capacity : Nat} {ring : Ring} (made : Ring.ofCapacity capacity = .ok ring)
    (few : records.length < 2 ^ 64 - 1) (turns : List Turn) :
    Fair records (run ring records turns) ∧ (run ring records turns).capacity = capacity := by
  obtain ⟨fresh, size, pos, fits⟩ := fair_start made few
  induction turns using List.reverseRecOn with
  | nil => exact ⟨fresh, size⟩
  | append_singleton turns turn before =>
    rw [run_append]
    obtain ⟨fair, same⟩ := before
    refine ⟨?_, by rw [capacity_turn, same]⟩
    cases turn with
    | produce => exact fair.produce
    | take attempts => exact fair.take (by omega) (by omega) attempts
    | release index => exact fair.release index
    | consume =>
      cases busy : (run ring records turns).activity with
      | resting => simpa only [Race.turn, busy] using fair
      | taking program => exact fair.consume_taking busy
      | releasing taken program => exact fair.consume_releasing few busy

/-- Every record taken is the one published under its number, and every record passed is handed back
or counted as lost. -/
theorem records_accounted {capacity : Nat} {ring : Ring}
    (made : Ring.ofCapacity capacity = .ok ring) (few : records.length < 2 ^ 64 - 1)
    (turns : List Turn) :
    let r := run ring records turns
    (∀ taken ∈ r.taken,
        (records.take r.world.shared.head.toNat)[taken.cursor.toNat]? = some taken.record) ∧
      (r.released.map Taken.cursor).Pairwise (· < ·) ∧
      (∀ n < r.world.shared.tail.toNat, (∀ taken ∈ r.released, taken.cursor.toNat ≠ n) →
        n + capacity < r.world.begun) ∧
      (r.activity = .resting → r.consumer.tail = r.world.shared.tail ∧
        r.consumer.tail.toNat = r.released.length + r.consumer.lost.toNat ∧
        ∀ taken ∈ r.released, taken.cursor < r.consumer.tail) ∧
      (∀ fault, r.producer ≠ .fail fault) ∧
      ∀ fault ∈ r.faults, ∃ released tail, fault = .foreignRelease released tail := by
  intro r
  obtain ⟨fair, size⟩ : Fair records r ∧ r.capacity = capacity := fair_run made few turns
  refine ⟨?_, fair.ordered, ?_, ?_, ?_, fair.faults⟩
  · intro taken found
    obtain ⟨published, record⟩ := fair.taken taken found
    rw [List.getElem?_take_of_lt published, record]
  · intro n below other
    rw [← size]
    exact fair.overwritten n below other
  · intro resting
    have rests := fair.working
    simp only [Working, resting] at rests
    exact ⟨rests.tail.symm, rests.counted, rests.tail ▸ fair.below⟩
  · intro fault failed
    have producer := fair.producer
    rw [failed] at producer
    exact producer.not_fail

/-- Three records for two slots. The consumer is at the first one when the third overwrites it,
gives it up, takes the second and hands it back. -/
def lapped : List Turn :=
  List.replicate 11 Turn.produce ++ [Turn.take 3] ++ List.replicate 4 Turn.consume ++
    List.replicate 22 Turn.produce ++ List.replicate 19 Turn.consume ++
    [Turn.release 0, Turn.consume]

def numbered (n : UInt64) : Record := ⟨.debug, .empty, n, n⟩

def twoSlots : Ring := { shared := { slots := Array.replicate 2 .empty } }

theorem records_accounted_lapped :
    let records := [numbered 0, numbered 1, numbered 2]
    let r := run twoSlots records lapped
    r.released = [⟨1, 1, numbered 1⟩] ∧ r.consumer.lost = 1 ∧
      ∀ taken ∈ r.taken,
        (records.take r.world.shared.head.toNat)[taken.cursor.toNat]? = some taken.record := by
  have made : Ring.ofCapacity 2 = .ok twoSlots := rfl
  have few : [numbered 0, numbered 1, numbered 2].length < 2 ^ 64 - 1 := by decide
  have accounted := records_accounted made few lapped
  exact ⟨by decide +kernel, by decide +kernel, accounted.1⟩

end Race
end SdBridge.Event.Ring
