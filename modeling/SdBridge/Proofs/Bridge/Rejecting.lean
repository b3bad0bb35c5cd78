import Mathlib.Data.List.SplitBy
import SdBridge.Proofs.Bridge.Course
import SdBridge.Proofs.Bridge.Notice
import SdBridge.Rehearsal.Engine

/-!
How often a dropped exchange is told. The host leaves its command latched until it runs into its time
limit, so that pass after pass drops the same exchange; only the first of these passes tells it.
-/
namespace SdBridge

section Blocks

variable {α β : Type} {l : List α} {a x : α}

/-- An element that goes with the last one joins the last block. -/
theorem splitBy_append_of_last {r : α → α → Bool} (last : l.getLast? = some x)
    (joins : r x a = true) : ∃ first block, l.splitBy r = first ++ [block] ∧ block.getLast? = some x ∧
      (l ++ [a]).splitBy r = first ++ [block ++ [a]] := by
  have nonempty : l.splitBy r ≠ [] := by
    rw [List.splitBy_ne_nil]
    rintro rfl
    cases last
  obtain ⟨first, block, blocks⟩ := (List.eq_nil_or_concat' (l.splitBy r)).resolve_left nonempty
  have listed : ∀ m ∈ first ++ [block], m ∈ l.splitBy r := fun m member => blocks ▸ member
  have full : block ≠ [] := List.ne_nil_of_mem_splitBy (listed block (by simp))
  have joined : l = first.flatten ++ block := by
    rw [← List.flatten_splitBy r l, blocks, List.flatten_append, List.flatten_singleton]
  rw [joined, List.getLast?_append_of_ne_nil _ full] at last
  refine ⟨first, block, blocks, last, List.splitBy_eq_iff.2 ⟨?flat, ?filled, ?within, ?apart⟩⟩
  case flat => rw [joined, List.flatten_append, List.flatten_singleton, List.append_assoc]
  case filled =>
    intro member
    rcases List.mem_append.1 member with old | new
    · exact List.nil_notMem_splitBy r l (listed [] (List.mem_append_left _ old))
    · simp at new
  case within =>
    intro m member
    rcases List.mem_append.1 member with old | new
    · exact List.isChain_of_mem_splitBy (listed m (List.mem_append_left _ old))
    · have chain := List.isChain_of_mem_splitBy (listed block (by simp))
      rw [List.mem_singleton.1 new, List.isChain_append]
      refine ⟨chain, List.isChain_singleton a, fun y ends z next => ?_⟩
      rw [← Option.mem_unique last ends, ← Option.some.inj next]
      exact joins
  case apart =>
    have apart := List.isChain_getLast_head_splitBy r l
    rw [blocks, List.isChain_append] at apart
    refine List.isChain_append.2 ⟨apart.1, List.isChain_singleton _, ?_⟩
    rintro p before - ⟨⟩
    obtain ⟨here, there, other⟩ := apart.2.2 p before block rfl
    exact ⟨here, List.append_ne_nil_of_left_ne_nil there _, by rwa [List.head_append_of_ne_nil there]⟩

variable [DecidableEq β] {key : α → Option β}

/-- How many blocks there are of elements in a row that have the same key. -/
def keyedBlocks (key : α → Option β) (l : List α) : Nat :=
  (l.splitBy fun p q => key p == key q).countP fun block => block.all fun p => (key p).isSome

/-- A further element starts a block if it has a key and the one before has not the same. -/
theorem keyedBlocks_append (l : List α) (a : α) : keyedBlocks key (l ++ [a]) = keyedBlocks key l +
    if (key a).isSome ∧ l.getLast?.bind key ≠ key a then 1 else 0 := by
  by_cases joins : ∃ x ∈ l.getLast?, key x = key a
  · obtain ⟨x, last, same⟩ := joins
    obtain ⟨first, block, before, ends, after⟩ := splitBy_append_of_last
      (r := fun p q => key p == key q) last (beq_iff_eq.2 same)
    have listed : x ∈ block := List.mem_of_getLast? ends
    have alike : ((block ++ [a]).all fun p => (key p).isSome) =
        block.all fun p => (key p).isSome := by
      rw [List.all_append, List.all_cons, List.all_nil, Bool.and_true, ← same,
        Bool.and_eq_left_iff_imp]
      exact fun all => List.all_eq_true.1 all x listed
    have known : l.getLast?.bind key = key a := by
      rw [Option.mem_def.1 last, Option.bind_some, same]
    have goesOn : ¬((key a).isSome = true ∧ l.getLast?.bind key ≠ key a) :=
      fun starts => starts.2 known
    rw [if_neg goesOn, keyedBlocks, keyedBlocks, before, after, List.countP_append,
      List.countP_append, List.countP_singleton, List.countP_singleton, alike]
    rfl
  · have starts : ∀ x ∈ l.getLast?, (key x == key a) = false := fun x last =>
      beq_eq_false_iff_ne.2 fun same => joins ⟨x, last, same⟩
    have single : keyedBlocks key [a] = if (key a).isSome then 1 else 0 := by
      rw [keyedBlocks, List.splitBy_of_isChain (List.cons_ne_nil a []) (List.isChain_singleton a),
        List.countP_singleton, List.all_cons, List.all_nil, Bool.and_true]
    have other : (key a).isSome ∧ l.getLast?.bind key ≠ key a ↔ (key a).isSome := by
      refine ⟨And.left, fun keyed => ⟨keyed, fun same => ?_⟩⟩
      rw [← same] at keyed
      obtain ⟨k, found⟩ := Option.isSome_iff_exists.1 keyed
      obtain ⟨x, last, known⟩ := Option.bind_eq_some_iff.1 found
      exact joins ⟨x, last, known.trans (found.symm.trans same)⟩
    rw [keyedBlocks, List.splitBy_append_cons [] starts, List.countP_append, ← keyedBlocks,
      ← keyedBlocks, single]
    simp only [other]
end Blocks

def Event.Kind.isRejection : Event.Kind → Bool
  | .badResponseLength | .protocolEngineError => true
  | _ => false

namespace Bridge

def Access.isRejection : Access → Bool
  | .publish record => record.kind.isRejection
  | _ => false

/-- What identifies the exchange that a pass dropped, if it dropped one: STATUS but for the
completion bit. -/
def Outcome.rejected? (o : Outcome) : Option UInt32 := o.exchange.bind (·.dropped? o.status)

namespace Pass

def rejected? (pass : Pass) : Option UInt32 := pass.outcome.rejected?

def rejections (pass : Pass) : Nat := pass.accesses.countP Access.isRejection

end Pass

section Counting

open Commander

def rejectionsIn (notices : List Notice) : Nat := notices.countP fun n => n.kind.isRejection

theorem rejectionsIn_append (first second : List Notice) :
    rejectionsIn (first ++ second) = rejectionsIn first + rejectionsIn second := List.countP_append

theorem rejectionsIn_blockNotices (block : Option BlockRequest) :
    rejectionsIn (blockNotices block) = 0 := by
  rcases block with none | ⟨_ | _ | _⟩ <;> rfl

theorem rejectionsIn_completionNotices (status : StatusWord) (slow : UInt8) :
    rejectionsIn (completionNotices status slow) = 0 := by
  rw [completionNotices]
  split
  · split <;> rfl
  · rfl

/-- An exchange is told as dropped if it is not the one that was dropped last. -/
theorem rejectionsIn_notices (done : Exchange) (status : StatusWord) (last : Option UInt32)
    (block : Option BlockRequest) : rejectionsIn (done.notices status last block) =
      if (done.dropped? status).isSome ∧ last ≠ done.dropped? status then 1 else 0 := by
  cases done with
  | answered command length =>
    rw [Exchange.notices, rejectionsIn_append, rejectionsIn_append, rejectionsIn_blockNotices]
    split <;> rfl
  | rejected command why =>
    rw [Exchange.notices, rejectionsIn_append, rejectionsIn_blockNotices]
    by_cases again : last = some (rejectionKey status)
    · rw [if_neg fun other => other again, if_neg fun other => other.2 again]
      rfl
    · rw [if_pos again, if_pos ⟨rfl, again⟩]
      cases why <;> rfl

end Counting

/-- The account of a program that counts the dropped exchanges it tells of. -/
def tally (access : Access) (_ : Access.Answer access) (n : Nat) : Nat :=
  n + if access.isRejection then 1 else 0

/-- How many dropped exchanges a program has told of in the end, given its result. -/
abbrev Loop.Tells {α : Type} (p : Loop α) (post : Nat → α → Prop) (n : Nat) : Prop :=
  p.Conducts tally (fun _ _ => True) post n

section Telling

variable {n : Nat}

theorem tells_of_silent {α : Type} {p : Loop α}
    (silent : p.Within fun access => access.isRejection = false) :
    p.Tells (fun n' _ => n' = n) n := by
  refine Program.conducts_of_within silent fun access kind => ⟨trivial, fun _ => ?_⟩
  rw [tally, kind]
  rfl

theorem tells_access_bind {access : Access} (silent : access.isRejection = false) {α : Type}
    {k : Access.Answer access → Loop α} {post : Nat → α → Prop}
    (rest : ∀ answer, (k answer).Tells post n) :
    Loop.Tells (@Program.access _ Access.Answer access >>= k) post n := by
  refine Program.conducts_access_bind fun answer => ⟨trivial, ?_⟩
  rw [tally, silent]
  exact rest answer

theorem tells_tellAll (notices : List Notice) :
    (Loop.tellAll notices).Tells (fun n' _ => n' = n + rejectionsIn notices) n := by
  induction notices generalizing n with
  | nil => exact Program.conducts_pure rfl
  | cons notice rest ih =>
    rw [Loop.tellAll, Loop.publish, bind_assoc]
    refine tells_access_bind rfl fun time => ?_
    refine Program.conducts_access_bind fun _ => ⟨trivial, ?_⟩
    refine Program.conducts_mono ih ?_
    rintro n' - rfl
    rw [tally, rejectionsIn, rejectionsIn, List.countP_cons, Nat.add_assoc, Nat.add_comm (ite _ _ _)]
    rfl

theorem tells_writeAll (writes : List RegisterWrite) :
    (Loop.writeAll writes).Tells (fun n' _ => n' = n) n := by
  induction writes with
  | nil => exact Program.conducts_pure rfl
  | cons w rest ih => exact tells_access_bind rfl fun _ => ih

theorem tells_tellArrival (done : Exchange) (seen : UInt64) :
    (done.tellArrival seen).Tells (fun n' _ => n' = n) n := by
  cases done with
  | answered command length => exact tells_of_silent (Program.within_access rfl)
  | rejected command why => exact Program.conducts_pure rfl

namespace Commander

variable (status : StatusWord) (c : Commander)

def Once (c : Commander) (n n' : Nat) (out : Outcome × Commander) : Prop :=
  n' = n + (if out.1.rejected?.isSome ∧ c.lastRejected ≠ out.1.rejected? then 1 else 0) ∧
    out.2.lastRejected = out.1.rejected?

theorem once_report (seen : UInt64) (done : Exchange) :
    (c.report seen status done).Tells (c.Once n) n := by
  rw [report_eq]
  refine tells_access_bind rfl fun block => ?_
  refine Program.conducts_bind (tells_tellArrival done seen) ?_
  rintro _ - rfl
  refine Program.conducts_bind (tells_tellAll _) ?_
  rintro _ - rfl
  refine Program.conducts_pure ⟨?_, rfl⟩
  rw [rejectionsIn_append, rejectionsIn_notices, rejectionsIn_completionNotices]
  rfl

theorem once_serve : (c.serve status).Tells (c.Once n) n := by
  refine tells_access_bind rfl fun seen => ?_
  refine tells_access_bind rfl fun argument => ?_
  refine tells_access_bind rfl fun _ => ?_
  refine tells_access_bind rfl fun (result, response) => ?_
  refine tells_access_bind rfl fun _ => ?_
  refine Program.conducts_bind (tells_writeAll _) ?_
  rintro _ - rfl
  exact once_report status { c with response } seen _

theorem once_idle : (c.idle status).Tells (c.Once n) n := by
  rw [idle_eq]
  refine Program.conducts_bind (tells_writeAll _) ?_
  rintro _ - rfl
  refine Program.conducts_bind (tells_tellAll _) ?_
  rintro _ - rfl
  refine Program.conducts_pure ⟨?_, rfl⟩
  rw [rejectionsIn_completionNotices]
  rfl

theorem once_poll : c.poll.Tells (c.Once n) n := by
  rw [poll_eq_serve]
  refine tells_access_bind rfl fun word => ?_
  split
  · exact once_serve ⟨word⟩ c
  · exact once_idle ⟨word⟩ c

end Commander
end Telling

variable {π : Type}

/-- The account of a pass, read off its transcript. -/
theorem once_of_run [Responder π] [ByteSource π] {c c' : Commander} {b b' : Bridge π}
    {outcome : Outcome} {accesses : List Access}
    (ran : c.poll.run transcribed (b, []) = (.ok (outcome, c'), b', accesses)) :
    c.Once 0 (Pass.rejections ⟨outcome, accesses⟩) (outcome, c') := by
  have tracks : ∀ access (s : Bridge π × List Access) answer s',
      transcribed access s = (.ok answer, s') → s'.2.countP Access.isRejection =
        tally access answer (s.2.countP Access.isRejection) := by
    intro access s answer s' performed
    rw [Program.account_of_noting performed, transcribe, List.countP_append, List.countP_singleton]
    rfl
  exact Program.Conducts.of_run tracks (Commander.once_poll c) ran

namespace Course

structure Reported (t : Course π) : Prop where
  last : t.commander.lastRejected = t.passes.getLast?.bind Pass.rejected?
  each : ∀ earlier pass later, t.passes = earlier ++ pass :: later → pass.rejections =
    if pass.rejected?.isSome ∧ earlier.getLast?.bind Pass.rejected? ≠ pass.rejected? then 1 else 0
  total : (t.passes.map Pass.rejections).sum = keyedBlocks Pass.rejected? t.passes

/-- Only the commander and the passes matter. -/
theorem Reported.congr {t t' : Course π} (reported : Reported t)
    (commander : t'.commander = t.commander) (passes : t'.passes = t.passes) : Reported t' := by
  obtain ⟨last, each, total⟩ := reported
  constructor <;> rw [passes]
  · rw [commander, last]
  · exact each
  · exact total

variable [Responder π] [ByteSource π] {t : Course π}

theorem Reported.poll (reported : Reported t) : Reported t.poll := by
  cases met : t.fault with
  | some fault =>
    rw [poll_of_fault met]
    exact reported
  | none =>
    rcases ran : t.commander.poll.run transcribed (t.bridge, []) with ⟨fault | ⟨outcome, c⟩, b, k⟩
    · rw [poll_eq_of_error met ran]
      exact reported.congr rfl rfl
    · obtain ⟨count, kept⟩ := once_of_run ran
      rw [reported.last, Nat.zero_add] at count
      rw [poll_eq_of_ok met ran]
      constructor
      case last =>
        rw [List.getLast?_append, List.getLast?_singleton]
        exact kept
      case each =>
        -- either this pass, or one of those before it
        intro earlier pass later split
        rcases List.eq_nil_or_concat' later with rfl | ⟨between, final, rfl⟩
        · obtain ⟨rfl, same⟩ := List.append_inj' split rfl
          cases same
          exact count
        · rw [← List.cons_append, ← List.append_assoc] at split
          exact reported.each earlier pass between (List.append_inj' split rfl).1
      case total =>
        rw [List.map_append, List.sum_append, reported.total, keyedBlocks_append, List.map_singleton,
          List.sum_singleton, count]
        rfl

theorem Reported.act (reported : Reported t) (act : Act) : Reported (t.act act) := by
  cases act with
  | poll => exact reported.poll
  | hardware signal | take | release taken => exact reported.congr rfl rfl

theorem Reported.run (reported : Reported t) (acts : List Act) : Reported (run acts t) := by
  induction acts generalizing t with
  | nil => exact reported
  | cons act rest ih => exact ih (reported.act act)

end Course
end Bridge
end SdBridge
