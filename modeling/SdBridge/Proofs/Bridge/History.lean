import SdBridge.Proofs.Bridge.Steady
import SdBridge.Register.Hardware

/-!
Histories of a bridge: passes of the two loops and changes that the hardware makes to registers, in
any order. Every pass is taken as a whole.
-/
namespace SdBridge.Bridge

variable {β : Type} [Image.Store β] {contents : Image.Contents} {posts : Nat}
  {b b' : Bridge (Card β)}

def postsWith (posts : Nat) (b b' : Bridge (Card β)) : Nat :=
  posts + if b'.engine.commands.posted = b.engine.commands.posted then 0 else 1

theorem steady_dispatch (steady : Steady contents posts b) {request : Request}
    {response : Response} (engine : b'.engine = (b.engine.dispatch request response).state)
    (registers : b'.registers = b.registers) (buffer : b'.buffer = b.buffer)
    (few : postsWith posts b b' < 2 ^ 28) : Steady contents (postsWith posts b b') b' := by
  obtain ⟨jobs, length, coherent⟩ := steady.card
  have count : (Card.Commands.postsAfter jobs request b.engine.commands
      (b.engine.dispatch request response).state.commands).length = postsWith posts b b' := by
    simp only [Card.Commands.postsAfter, postsWith, engine]
    split <;> simp [length]
  have after := coherent.dispatch request response (count ▸ few)
  have data : b'.engine.data = b.engine.data := by
    rw [engine, Card.dispatch_state]
  refine ⟨registers ▸ steady.size, registers ▸ steady.status, buffer ▸ steady.roomy,
    ⟨_, count, engine ▸ after⟩, data ▸ steady.shown, ?_⟩
  rw [engine, Card.dispatch_state]
  have synced : (b.engine.commands.sync b.engine.data.finished).Calm :=
    Card.Commands.calm_of_eq steady.calm (Card.Commands.sync_status ..)
  exact (Card.Commands.effect_of_answer rfl).calm synced

theorem dispatched_state {π : Type} (b : Bridge π) (a : SdBridge.Answer π) :
    (b.dispatched a).2 = { b with engine := a.state } := by
  simp only [dispatched]
  split <;> rfl

/-- The bridge is steady, with one post more if there was a post on the way from another state. -/
def Reached (contents : Image.Contents) (posts : Nat) (b b' : Bridge (Card β)) : Prop :=
  postsWith posts b b' < 2 ^ 28 → Steady contents (postsWith posts b b') b'

theorem reached_refl (steady : Steady contents posts b) : Reached contents posts b b := by
  intro _
  rw [postsWith, if_pos rfl]
  exact steady

theorem reached_perform (access : Access) (b' : Bridge (Card β)) (plain : Plain access)
    (reached : Reached contents posts b b') : Reached contents posts b (perform access b').2 := by
  have count : postsWith posts b (perform access b').2 = postsWith posts b b' := by
    rw [postsWith, posted_perform access b' plain rfl, postsWith]
  intro few
  rw [count] at few ⊢
  exact steady_perform access b' plain (reached few)

theorem reached_dispatch (steady : Steady contents posts b) (request : Request)
    (response : Response) : Reached contents posts b (perform (.dispatch request response) b).2 := by
  have state : (perform (.dispatch request response) b).2 =
      { b with engine := (b.engine.dispatch request response).state } := dispatched_state b _
  rw [state]
  intro few
  exact steady_dispatch steady rfl rfl rfl few

theorem Reached.of_posted {a : Bridge (Card β)} (reached : Reached contents posts a b')
    (same : a.engine.commands.posted = b.engine.commands.posted) :
    Reached contents posts b b' := by
  rwa [Reached, postsWith, ← same]

/-- An exchange makes at most one post, wherever it stops. -/
theorem reached_exchange (steady : Steady contents posts b) (status : StatusWord) (c : Commander) :
    Reached contents posts b ((c.exchange status).run perform b).2 := by
  rw [Commander.exchange_eq]
  have read : (Loop.readRegister Offset.argument).Within Plain := Program.within_access trivial
  refine Program.run_bind_keeps (Program.run_keeps reached_perform read (reached_refl steady)) ?_
  intro argument b₁ ran
  have posted₁ := posted_of_run ran read
  have steady₁ : Steady contents posts { b₁ with inFlight := true } :=
    (steady_of_run ran read steady).congr rfl rfl rfl
  refine Program.holds_access_bind rfl ?_
  have dispatched : Reached contents posts b
      ((Loop.dispatch ⟨status.commandIndex, argument, status.crc7⟩ c.response).run perform
        { b₁ with inFlight := true }).2 := by
    rw [Loop.dispatch, Program.run_access]
    exact Reached.of_posted (reached_dispatch steady₁ _ _) posted₁
  refine Program.run_bind_keeps dispatched ?_
  rintro ⟨result, response⟩ b₃ ran
  rw [ran] at dispatched
  have rest : (do
      Loop.setInFlight false
      Commander.conclude status.commandIndex result { c with response }).Within Plain :=
    Program.within_bind (Program.within_access trivial) fun _ =>
      Program.within_mono plain_of_aside (Commander.aside_conclude ..)
  exact Program.run_keeps reached_perform rest dispatched

/-- So does a pass of the command loop. -/
theorem reached_poll (steady : Steady contents posts b) (c : Commander) :
    Reached contents posts b (c.poll.run perform b).2 := by
  rw [Commander.poll_eq]
  have read : (Loop.readRegister Offset.status).Within Plain := Program.within_access trivial
  refine Program.run_bind_keeps (Program.run_keeps reached_perform read (reached_refl steady)) ?_
  intro word b₁ ran
  have posted₁ := posted_of_run ran read
  have steady₁ := steady_of_run ran read steady
  split
  · refine Program.holds_access_bind rfl ?_
    have exchanged := reached_exchange (b := { b₁ with clock := b₁.clock.tail })
      (steady₁.congr rfl rfl rfl) ⟨word⟩ c
    refine Program.run_bind_keeps (exchanged.of_posted posted₁) ?_
    rintro ⟨done, answered, c'⟩ b₂ ran
    rw [ran] at exchanged
    have rest : (do
        Commander.acknowledge (answered ||| Commander.completion ⟨word⟩)
        c'.report (b₁.clock.headD 0) ⟨word⟩ done : Loop (Outcome × Commander)).Within Plain :=
      Program.within_bind
        (Program.within_mono plain_of_aside (Commander.aside_acknowledge _)) fun _ =>
        Program.within_mono plain_of_telling (Commander.telling_report ..)
    exact Program.run_keeps reached_perform rest (exchanged.of_posted posted₁)
  · have idle := Program.within_mono plain_of_aside (Commander.aside_idle ⟨word⟩ c)
    exact (Program.run_keeps reached_perform idle (reached_refl steady₁)).of_posted posted₁

inductive Act where
  | hardware (offset : Nat) (value : UInt32)
  | poll
  | pump

structure Loops (β : Type) where
  bridge : Bridge (Card β)
  commander : Commander
  settings : TransferSettings
  posts : Nat := 0
  /-- The blocks sent, oldest first, each with the state after its pass. -/
  blocks : List (Transfer × Bridge (Card β)) := []

namespace Loops

/-- A pass that ends in a fault has done what it did until then. -/
def act : Act → Loops β → Loops β
  | .hardware offset value, s =>
    { s with bridge := { s.bridge with registers := s.bridge.registers.force offset value } }
  | .poll, s =>
    let (result, bridge) := s.commander.poll.run perform s.bridge
    let posts := postsWith s.posts s.bridge bridge
    match result with
    | .ok (_, commander) => { s with bridge, posts, commander }
    | .error _ => { s with bridge, posts }
  | .pump, s =>
    let (result, bridge) := (Transfer.pump s.settings).run perform s.bridge
    match result with
    | .ok transfer =>
      let blocks := if transfer.isEmpty then s.blocks else s.blocks ++ [(transfer, bridge)]
      { s with bridge, blocks }
    | .error _ => { s with bridge }

def run (acts : List Act) (s : Loops β) : Loops β := acts.foldl (fun s a => s.act a) s

variable {s : Loops β}

theorem run_append (acts : List Act) (a : Act) (s : Loops β) :
    s.run (acts ++ [a]) = (s.run acts).act a := by
  simp [run, List.foldl_append]

theorem bridge_poll (s : Loops β) :
    (s.act .poll).bridge = (s.commander.poll.run perform s.bridge).2 := by
  simp only [act]
  split <;> rfl

theorem posts_poll (s : Loops β) :
    (s.act .poll).posts = postsWith s.posts s.bridge (s.act .poll).bridge := by
  simp only [act]
  split <;> rfl

theorem bridge_pump (s : Loops β) :
    (s.act .pump).bridge = ((Transfer.pump s.settings).run perform s.bridge).2 := by
  simp only [act]
  split <;> rfl

theorem posts_pump (s : Loops β) : (s.act .pump).posts = s.posts := by
  simp only [act]
  split <;> rfl

theorem posts_le_act (a : Act) (s : Loops β) : s.posts ≤ (s.act a).posts := by
  cases a with
  | hardware offset value => exact Nat.le_refl _
  | poll =>
    rw [posts_poll]
    exact Nat.le_add_right _ _
  | pump => exact Nat.le_of_eq (posts_pump s).symm

theorem settings_act (a : Act) (s : Loops β) : (s.act a).settings = s.settings := by
  cases a with
  | hardware offset value => rfl
  | poll | pump =>
    simp only [act]
    split <;> rfl

theorem steady_act (steady : Steady contents s.posts s.bridge) (a : Act)
    (few : (s.act a).posts < 2 ^ 28) : Steady contents (s.act a).posts (s.act a).bridge := by
  cases a with
  | hardware offset value => exact steady.withRegisters (by simp) (by simp)
  | poll =>
    rw [posts_poll, bridge_poll] at few ⊢
    exact reached_poll steady s.commander few
  | pump =>
    rw [posts_pump, bridge_pump]
    exact Program.run_keeps steady_perform
      (Program.within_mono plain_of_quiet (Transfer.quiet_pump s.settings)) steady

structure Fresh (image : β) (s : Loops β) : Prop where
  size : Offset.size ≤ 4 * s.bridge.registers.words.size
  status : s.bridge.registers.clearOnOne = [Offset.status]
  roomy : Roomy s.bridge.buffer
  card : ∃ identity, s.bridge.engine = Card.ofImage image identity
  posts : s.posts = 0

theorem Fresh.steady {image : β} (fresh : s.Fresh image) (shown : contents.ShownBy image) :
    Steady contents s.posts s.bridge := by
  obtain ⟨identity, card⟩ := fresh.card
  have size := fresh.size
  refine ⟨?_, fresh.status, fresh.roomy, ⟨[], ?_, ?_⟩, ?_, ?_⟩
  · simp only [Offset.size] at size
    omega
  · rw [fresh.posts, List.length_nil]
  · rw [card, ← shown.sectorCount]
    exact Card.coherent_ofImage image identity
  · rw [card]
    exact shown
  · rw [card]
    exact .inl rfl

theorem Fresh.steady_run {image : β} (fresh : s.Fresh image) (shown : contents.ShownBy image)
    (acts : List Act) (few : (s.run acts).posts < 2 ^ 28) :
    Steady contents (s.run acts).posts (s.run acts).bridge := by
  induction acts using List.reverseRecOn with
  | nil => exact fresh.steady shown
  | append_singleton acts a before =>
    rw [run_append] at few ⊢
    exact steady_act (before (Nat.lt_of_le_of_lt (posts_le_act a _) few)) a few

end Loops
end SdBridge.Bridge
