import SdBridge.Proofs.Card.Dialogue

/-!
Application prefixes. Two marks in the command half say how the next command is read: one for a
prefix, one for an application command that was refused. Both are spent on the next command,
whichever it is.
-/
namespace SdBridge.Card

/-- A prefix that the card takes: any in the idle state, later one with its address. -/
def Exchange.Announces (x : Exchange) : Prop :=
  x.index = 55 ∧ (x.before.state = .idle ∨ x.before.addressed x.request.argument = true)

namespace Commands

variable {request : Request} {c c' : Commands} {reply : Reply}

/-- A prefix is never refused. Without the address of the card it is passed over in silence. -/
theorem answer_announce (index : request.command.toNat = 55) (c : Commands) :
    ∃ reply c', c.answer request = (.ok reply, c') ∧
      (¬(c.state = .idle ∨ c.addressed request.argument = true) → reply = .silent) := by
  obtain ⟨reply, c', answer, accepts⟩ := accepted_of_state (c := c) .appCommand index (by decide)
    (by cases c.state <;> decide) nofun
  refine ⟨reply, c', answer, fun foreign => ?_⟩
  cases accepts with
  | ignore => rfl
  | announce _ own => exact absurd own foreign
  | outside other | read other | write other => simp [index] at other
  | _ => omega

/-- The marks after a plain command was accepted. -/
theorem marks_of_accepts (accepts : Accepts request c.prepared reply c') : c'.refused = none ∧
    (c'.appExpected = true ↔ request.command.toNat = 55 ∧
      (c.state = .idle ∨ c.addressed request.argument = true)) := by
  cases accepts with
  | announce index addressed => exact ⟨rfl, iff_of_true rfl ⟨index, addressed⟩⟩
  | ignore index foreign unselected begun =>
    refine ⟨rfl, iff_of_false Bool.false_ne_true ?_⟩
    rintro ⟨index, taken⟩
    have other : c.addressed request.argument = false := foreign (by omega)
    rw [other] at taken
    exact taken.elim (begun index) Bool.false_ne_true
  | outside index | write index | read index =>
    simp only [List.mem_cons, List.not_mem_nil, or_false] at index
    exact ⟨rfl, iff_of_false Bool.false_ne_true (by omega)⟩
  | address index =>
    generalize nextRca c.prepared.rca = rca
    exact ⟨rfl, iff_of_false Bool.false_ne_true (by omega)⟩
  | _ index => exact ⟨rfl, iff_of_false Bool.false_ne_true (by omega)⟩

theorem marks_of_acceptsApp (accepts : AcceptsApp request c.prepared reply c') :
    c'.refused = none ∧ (c'.appExpected = true ↔ request.command.toNat = 55 ∧
      (c.state = .idle ∨ c.addressed request.argument = true)) := by
  cases accepts with
  | plain other accepts => exact marks_of_accepts accepts
  | _ index => exact ⟨rfl, iff_of_false Bool.false_ne_true (by omega)⟩

theorem readsAsApp_of_none (none : c.refused = none) (next : Request) :
    c.readsAsApp next = c.appExpected := by
  simp [readsAsApp, none]

/-- A refused command is read again as it was, and no other command is. -/
theorem readsAsApp_declined_iff {cause : ProtocolError} {next : Request} :
    (c.declined request cause).readsAsApp next = true ↔
      c.readsAsApp request = true ∧ next = request := by
  have remembered : (c.declined request cause).readsAsApp next =
      ((if c.readsAsApp request then some request else none) == some next) :=
    Bool.false_or _
  rw [remembered]
  cases c.readsAsApp request
  · simp
  · rw [if_pos rfl, beq_iff_eq, Option.some.injEq, and_iff_right rfl]
    exact eq_comm

end Commands

namespace Exchange

variable {x : Exchange} {next : Request}

theorem Announces.accepted (announces : x.Announces) : x.Accepted := by
  obtain ⟨reply, after, answer, -⟩ := Commands.answer_announce announces.1 x.before
  exact ⟨reply, by rw [result, answer]⟩

/-- A prefix for another card. -/
theorem silent_of_foreign (index : x.index = 55) (foreign : ¬x.Announces) :
    x.result = .ok .silent := by
  obtain ⟨reply, after, answer, silent⟩ := Commands.answer_announce index x.before
  rw [result, answer, silent fun taken => foreign ⟨index, taken⟩]

/-- How the command after another is read. -/
theorem readsAsApp_after : x.after.readsAsApp next = true ↔
    x.Announces ∨ x.isApp = true ∧ x.Refused ∧ next = x.request := by
  have answered := x.answered
  generalize result : x.result = answer at answered
  generalize x.after = after at answered ⊢
  cases answered with
  | plain plain accepts =>
    obtain ⟨none, expected⟩ := Commands.marks_of_accepts accepts
    have other : ¬x.isApp = true := by simp [isApp, plain]
    rw [Commands.readsAsApp_of_none none, or_iff_left (mt And.left other)]
    exact expected
  | app app accepts =>
    obtain ⟨none, expected⟩ := Commands.marks_of_acceptsApp accepts
    have other : ¬x.Refused := not_refused_of_accepted ⟨_, result⟩
    rw [Commands.readsAsApp_of_none none, or_iff_left fun same => other same.2.1]
    exact expected
  | refused refused =>
    have cause : x.Refused := ⟨_, result⟩
    have other : ¬x.Announces := fun announces => not_refused_of_accepted announces.accepted cause
    rw [or_iff_right other, Commands.readsAsApp_declined_iff, and_iff_right cause]
    exact Iff.rfl
  | faulted fault =>
    have other : ¬x.Announces := by
      rintro announces
      obtain ⟨reply, accepted⟩ := announces.accepted
      rw [result] at accepted
      contradiction
    have noCause : ¬x.Refused := by
      rintro ⟨cause, refused⟩
      rw [result] at refused
      simp at refused
    simp [Commands.readsAsApp, Commands.prepared, other, noCause]

/-- An exchange is what a handler made of it. A handler that failed left no trace, neither in the
command half nor in the buffer. -/
inductive DoneBy (x : Exchange) (work : Work Nat) : Prop where
  | replied (reply : Reply) (result : x.result = .ok reply)
    (run : ∀ response, work ⟨x.before.prepared, response⟩ =
      .ok reply.length ⟨x.after, reply.writeTo response⟩)
  | failed (failure : Failure ProtocolError) (result : x.result = .error failure)
    (run : ∀ response, work ⟨x.before.prepared, response⟩ =
      .error failure ⟨x.before.prepared, response⟩)

/-- An exchange went in one of the ways of accepting a command or failed for one of the reasons. -/
def Went (x : Exchange) (accepts : Reply → Commands → Prop)
    (rejects : Failure ProtocolError → Prop) : Prop :=
  match x.result with
  | .ok reply => accepts reply x.after
  | .error failure => rejects failure

def WentPlain (x : Exchange) : Prop :=
  x.Went (Commands.Accepts x.request x.before.prepared)
    (Commands.Rejects x.request x.before.prepared)

def WentApp (x : Exchange) : Prop :=
  x.Went (Commands.AcceptsApp x.request x.before.prepared)
    (Commands.RejectsApp x.request x.before.prepared)

theorem doneBy_handlerOf (x : Exchange) : x.DoneBy (Commands.handlerOf x.request x.before) := by
  cases Commands.handles_meant x.request x.before with
  | @replies reply c' _ run =>
    have answer := Commands.answer_of_run (Commands.handle_of_replies run)
    refine .replied reply (by rw [result, answer]) ?_
    rwa [after, answer]
  | @fails failure _ run =>
    have answer := Commands.answer_of_run (Commands.handle_of_fails run)
    exact .failed failure (by rw [result, answer]) run

theorem went (x : Exchange) : (x.isApp = true → x.WentApp) ∧ (x.isApp = false → x.WentPlain) := by
  have answered := x.answered
  rw [isApp, WentApp, WentPlain, Went, Went]
  generalize x.result = result at answered ⊢
  generalize x.after = after at answered ⊢
  cases answered with
  | plain plain accepts => simpa [plain] using accepts
  | app app accepts => simpa [app] using accepts
  | refused rejects | faulted rejects =>
    rw [Commands.RejectsAs] at rejects
    constructor
    · intro app
      rwa [if_pos app] at rejects
    · intro plain
      rwa [plain] at rejects

end Exchange

namespace Dialogue

variable {β : Type} [Image.Store β]

def Marked (past : List Exchange) (c : Commands) : Prop :=
  ∀ request, c.readsAsApp request = true ↔ ∃ last, past.getLast? = some last ∧
    (last.Announces ∨ last.isApp = true ∧ last.Refused ∧ request = last.request)

theorem marked_run (image : β) (identity : Identity) (turns : List Turn) :
    Marked (run image identity turns).exchanges (run image identity turns).commands ∧
      ∀ k x, (run image identity turns).exchanges[k]? = some x →
        Marked ((run image identity turns).exchanges.take k) x.before := by
  apply holds_run
  · intro request
    simp [Commands.readsAsApp, Commands.ofImage]
  · intro past c finished marked request
    rw [← marked request]
    simp only [Commands.sync]
    split <;> exact Iff.rfl
  · intro past c request marked next
    simp only [List.getLast?_concat, Option.some.injEq, exists_eq_left']
    exact Exchange.readsAsApp_after (x := ⟨request, c⟩)

/-- A prefix that the card took covers one command, and the same command again if it is refused. -/
theorem prefix_covers_one (image : β) (identity : Identity) (turns : List Turn) :
    let d := run image identity turns
    (∀ x, d.exchanges[0]? = some x → x.isApp = false) ∧
      (∀ k x next, d.exchanges[k]? = some x → d.exchanges[k + 1]? = some next →
        (next.isApp = true ↔
          x.Announces ∨ x.isApp = true ∧ x.Refused ∧ next.request = x.request) ∧
        (x.Announces → x.Accepted) ∧
        (x.Resets ∨ (x.index = 55 ∧ ¬x.Announces) ∨ (x.isApp = true ∧ x.Accepted ∧ x.index ≠ 55) →
          next.isApp = false)) ∧
      ∀ x ∈ d.exchanges,
        x.DoneBy (if x.isApp then Commands.app x.request else Commands.plain x.request) ∧
          (x.isApp = true → x.WentApp) ∧ (x.isApp = false → x.WentPlain) := by
  intro d
  obtain ⟨-, past⟩ := marked_run image identity turns
  refine ⟨fun x listed => ?_, fun k x next listed after => ?_,
    fun x _ => ⟨x.doneBy_handlerOf, x.went⟩⟩
  · have marked := past 0 x listed x.request
    rw [← Bool.not_eq_true, Exchange.isApp, marked]
    simp
  · have marked := past (k + 1) next after next.request
    have last : (d.exchanges.take (k + 1)).getLast? = some x := by
      rw [List.take_add_one, listed, Option.toList_some, List.getLast?_concat]
    simp only [d] at last
    simp only [last, Option.some.injEq, exists_eq_left'] at marked
    refine ⟨marked, Exchange.Announces.accepted, fun calm => ?_⟩
    rw [← Bool.not_eq_true]
    refine mt marked.1 ?_
    rintro (announces | ⟨app, refused, -⟩)
    · rcases calm with resets | ⟨-, foreign⟩ | ⟨-, -, other⟩
      · exact absurd (resets.symm.trans announces.1) (by simp)
      · exact foreign announces
      · exact other announces.1
    · have accepted : x.Accepted := by
        rcases calm with resets | ⟨index, foreign⟩ | ⟨-, accepted, -⟩
        · exact resets.accepted
        · exact ⟨_, x.silent_of_foreign index foreign⟩
        · exact accepted
      exact Exchange.not_refused_of_accepted accepted refused

/-- The bus width is asked for too early, twice, and once more after a reset. Then the card is
powered up. -/
def earlyWidth : List Turn :=
  let command (index : UInt8) (argument : UInt32) : List Turn :=
    [.sync ⟨index, argument, 0⟩, .answer]
  command 55 0 ++ command 6 2 ++ command 6 2 ++ command 0 0 ++ command 6 2 ++ command 55 0 ++
    command 41 ocrVoltageWindow

theorem prefix_covers_one_earlyWidth :
    let d := run Handshake.blank {} earlyWidth
    (∃ x next, d.exchanges[1]? = some x ∧ d.exchanges[2]? = some next ∧ x.Refused ∧
      next.isApp = true) ∧ (∃ next, d.exchanges[4]? = some next ∧ next.isApp = false) ∧
    (∃ x ∈ d.exchanges, x.result = .error (.error (.illegalCommand 6)) ∧ x.WentPlain) ∧
    ∃ x ∈ d.exchanges, x.result =
      .ok (.short (ocrVoltageWindow ||| ocrPoweredUp ||| ocrHighCapacity)) ∧ x.WentApp := by
  intro d
  obtain ⟨-, each, done⟩ := prefix_covers_one Handshake.blank {} earlyWidth
  have first : (d.exchanges[1]?.map fun x => (x.request, x.isApp, x.result)) =
      some (⟨6, 2, 0⟩, true, .error (.error (.wrongState 6 "idle"))) := by decide +kernel
  have second : (d.exchanges[2]?.map fun x => x.request) = some ⟨6, 2, 0⟩ := by decide +kernel
  have third : (d.exchanges[3]?.map fun x => x.index) = some 0 := by decide +kernel
  have fourth : (d.exchanges[4]?.map fun x => (x.isApp, x.result)) =
      some (false, .error (.error (.illegalCommand 6))) := by decide +kernel
  have sixth : (d.exchanges[6]?.map fun x => (x.isApp, x.result)) =
      some (true, .ok (.short (ocrVoltageWindow ||| ocrPoweredUp ||| ocrHighCapacity))) := by
    decide +kernel
  obtain ⟨late, listed, said⟩ := Option.map_eq_some_iff.1 fourth
  rw [Prod.mk.injEq] at said
  refine ⟨?_, ?_, ⟨late, List.mem_of_getElem? listed, said.2, ?_⟩, ?_⟩
  · obtain ⟨x, listed, same⟩ := Option.map_eq_some_iff.1 first
    obtain ⟨next, after, again⟩ := Option.map_eq_some_iff.1 second
    rw [Prod.mk.injEq, Prod.mk.injEq] at same
    obtain ⟨request, app, result⟩ := same
    have refused : x.Refused := ⟨_, result⟩
    refine ⟨x, next, listed, after, refused, ?_⟩
    exact (each 1 x next listed after).1.2 (.inr ⟨app, refused, again.trans request.symm⟩)
  · obtain ⟨x, before, resets⟩ := Option.map_eq_some_iff.1 third
    exact ⟨late, listed, (each 3 x late before listed).2.2 (.inl resets)⟩
  · exact (done late (List.mem_of_getElem? listed)).2.2 said.1
  · obtain ⟨x, listed, said⟩ := Option.map_eq_some_iff.1 sixth
    rw [Prod.mk.injEq] at said
    have among := List.mem_of_getElem? listed
    exact ⟨x, among, said.2, (done x among).2.1 said.1⟩

end Dialogue
end SdBridge.Card
