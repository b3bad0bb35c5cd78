import SdBridge.Options.CommandLine
import SdBridge.Proofs.Options.Values

/-!
Command lines of options in any order around an image. A value may stand behind its option or be
joined to it, and is checked later in the one case than in the other; but what has been given, once
all that waits is checked, depends only on the options that were there.
-/
namespace SdBridge.Options

/-- A text that is not taken for an option: it does not begin with a dash, or is nothing else. -/
def Plain (text : String) : Prop := text.toList.head? = some '-' → text = "-"

instance (text : String) : Decidable (Plain text) := inferInstanceAs (Decidable (_ → _))

inductive Choice where
  /-- An option with a value, which an equals sign may join to it. -/
  | parameter (p : Parameter) (text : String) (joined : Bool)
  | switch (s : Switch)
  deriving DecidableEq

namespace Choice

def arguments : Choice → List String
  | .parameter p text true => ["--" ++ p.name ++ "=" ++ text]
  | .parameter p text false => ["--" ++ p.name, text]
  | .switch s => ["--" ++ s.name]

/-- What is given, whichever way it is spelled. -/
def respelled : Choice → Choice
  | .parameter p text _ => .parameter p text false
  | .switch s => .switch s

def subject : Choice → Subject
  | .parameter p _ _ => .parameter p
  | .switch s => .switch s

def textOf (p : Parameter) : Choice → Option String
  | .parameter q text _ => if q = p then some text else none
  | .switch _ => none

/-- A value that is well-formed and is not taken for an option. -/
def Proper : Choice → Prop
  | .parameter p text _ => Plain text ∧ ∃ value, Writes p text value
  | .switch _ => True

end Choice

def Parameter.valueOf? (p : Parameter) (text : String) : Option Value := (p.read text).toOption

theorem Parameter.valueOf?_eq_some_iff {p : Parameter} {text : String} {value : Value} :
    p.valueOf? text = some value ↔ Writes p text value := by
  rw [← read_eq_ok_iff, valueOf?]
  cases p.read text <;> simp [Except.toOption]

section Names

theorem find?_parameter (p : Parameter) : Parameter.all.find? (·.name == p.name) = some p := by
  cases p <;> rfl

theorem find?_switch (s : Switch) : Parameter.all.find? (·.name == s.name) = none ∧
    Switch.all.find? (·.name == s.name) = some s := by
  cases s <;> exact ⟨rfl, rfl⟩

structure Nameable (name : String) : Prop where
  some : name.toList ≠ []
  plain : '=' ∉ name.toList

theorem nameable_parameter (p : Parameter) : Nameable p.name := by
  cases p <;> exact ⟨by decide, by decide⟩

theorem nameable_switch (s : Switch) : Nameable s.name := by
  cases s <;> exact ⟨by decide, by decide⟩

variable {name : String}

/-- A name without an equals sign is not cut, whatever follows it. -/
theorem Nameable.cutAtEquals_append (nameable : Nameable name) (rest : List Char) :
    cutAtEquals (name.toList ++ rest) =
      (String.ofList (name.toList ++ rest.takeWhile (· ≠ '=')),
        match rest.dropWhile (· ≠ '=') with
        | _ :: value => .some (String.ofList value)
        | [] => none) := by
  have all : ∀ c ∈ name.toList, decide (c ≠ '=') = true := fun c found =>
    decide_eq_true fun same => nameable.plain (same ▸ found)
  rw [cutAtEquals, List.takeWhile_append_of_pos all, List.dropWhile_append_of_pos all]
  cases rest.dropWhile (· ≠ '=') <;> rfl

/-- Behind two dashes stands a name, as long as anything does. -/
theorem of_dashes {argument : String} {body : List Char} (some : body ≠ [])
    (shown : argument.toList = '-' :: '-' :: body) :
    Form.of argument = .long (cutAtEquals body).1 (cutAtEquals body).2 := by
  cases body with
  | nil => exact absurd rfl some
  | cons c rest => simp only [Form.of, shown]

theorem Nameable.of_name (nameable : Nameable name) : Form.of ("--" ++ name) = .long name none := by
  have alone := nameable.cutAtEquals_append []
  simp only [List.takeWhile_nil, List.dropWhile_nil, List.append_nil, String.ofList_toList] at alone
  rw [of_dashes nameable.some (by simp), alone]

theorem Nameable.of_joined (nameable : Nameable name) (text : String) :
    Form.of ("--" ++ name ++ "=" ++ text) = .long name (.some text) := by
  have joined := nameable.cutAtEquals_append ('=' :: text.toList)
  simp only [List.takeWhile_cons, List.dropWhile_cons, ne_eq, not_true_eq_false, decide_false,
    Bool.false_eq_true, if_false, List.append_nil, String.ofList_toList] at joined
  have shown : ("--" ++ name ++ "=" ++ text).toList =
      '-' :: '-' :: (name.toList ++ '=' :: text.toList) := by simp
  rw [of_dashes (by simp) shown, joined]

theorem Plain.form {text : String} (plain : Plain text) : Form.of text = .plain := by
  have alone {rest : List Char} (shown : text.toList = '-' :: rest) : rest = [] := by
    rw [plain (by rw [shown]; rfl)] at shown
    simpa [eq_comm] using shown
  rw [Form.of]
  split
  · rename_i shown
    cases alone shown
  · rename_i shown
    cases alone shown
  · rename_i shown
    cases alone shown
  · rfl

end Names

structure Given.Shows (choices : List Choice) (g : Given) : Prop where
  value : ∀ p, g.value? p = (choices.findSome? (Choice.textOf p)).bind p.valueOf?
  has : ∀ s, g.has s = true ↔ .switch s ∈ choices

theorem findSome?_textOf_eq_none_iff {choices : List Choice} {p : Parameter} :
    choices.findSome? (Choice.textOf p) = none ↔
      Subject.parameter p ∉ choices.map Choice.subject := by
  rw [List.findSome?_eq_none_iff, List.mem_map]
  constructor
  · rintro none ⟨choice, found, same⟩
    have here := none choice found
    cases choice with
    | parameter q text joined =>
      cases same
      simp [Choice.textOf] at here
    | switch s => cases same
  · intro fresh choice found
    cases choice with
    | parameter q text joined =>
      have other : q ≠ p := fun same => fresh ⟨_, found, congrArg Subject.parameter same⟩
      exact if_neg other
    | switch s => rfl

namespace Given

variable {choices : List Choice} {g : Given}

theorem value?_append (p q : Parameter) (value : Value) :
    value? { g with values := g.values ++ [(p, value)] } q =
      (g.value? q).or (if p = q then some value else none) := by
  simp only [value?, List.find?_append]
  cases g.values.find? (·.1 == q) with
  | some entry => rfl
  | none => by_cases same : p = q <;> simp [same]

theorem has_append (s t : Switch) :
    has { g with switches := g.switches ++ [s] } t = (g.has t || s == t) := by
  simp [has, beq_eq_decide, eq_comm]

theorem shows_nil : Shows [] {} := ⟨fun _ => rfl, fun _ => by simp [has]⟩

/-- A value is taken for an option that has none. -/
theorem Shows.assign (shows : g.Shows choices) {p : Parameter} {text : String} {value : Value}
    (joined : Bool) (fresh : Subject.parameter p ∉ choices.map Choice.subject)
    (writes : Writes p text value) :
    ∃ g', g.assign p text = .ok g' ∧ g'.Shows (choices ++ [.parameter p text joined]) ∧
      g'.image = g.image := by
  have absent := findSome?_textOf_eq_none_iff.2 fresh
  have unset : g.value? p = none := by rw [shows.value, absent, Option.bind_none]
  have read : p.read text = .ok value := read_eq_ok_iff.2 writes
  refine ⟨{ g with values := g.values ++ [(p, value)] }, ?_, ⟨fun q => ?_, fun s => ?_⟩, rfl⟩
  · simp [Given.assign, unset, read, Except.map]
  · rw [value?_append, shows.value, List.findSome?_append]
    by_cases same : p = q
    · subst same
      have valued : p.valueOf? text = some value := Parameter.valueOf?_eq_some_iff.2 writes
      simp [absent, Choice.textOf, valued]
    · simp [Choice.textOf, same]
  · have kept : Given.has { g with values := g.values ++ [(p, value)] } s = g.has s := rfl
    rw [kept, shows.has, List.mem_append]
    simp

theorem Shows.turnOn (shows : g.Shows choices) {s : Switch}
    (fresh : Subject.switch s ∉ choices.map Choice.subject) :
    ∃ g', g.turnOn s = .ok g' ∧ g'.Shows (choices ++ [.switch s]) ∧ g'.image = g.image := by
  have absent : .switch s ∉ choices := fun found => fresh (List.mem_map_of_mem found)
  have off : ¬g.has s = true := mt (shows.has s).1 absent
  refine ⟨{ g with switches := g.switches ++ [s] }, if_neg off, ⟨fun p => ?_, fun t => ?_⟩, rfl⟩
  · have kept : Given.value? { g with switches := g.switches ++ [s] } p = g.value? p := rfl
    have none : [Choice.switch s].findSome? (Choice.textOf p) = none := rfl
    rw [kept, shows.value, List.findSome?_append, none, Option.or_none]
  · rw [has_append, Bool.or_eq_true, shows.has, List.mem_append, List.mem_singleton,
      Choice.switch.injEq, beq_iff_eq, eq_comm (a := s)]

end Given

namespace CommandLine

/-- How far a command line was read: to some choices and perhaps an image, once what waits is
checked. -/
structure Stands (choices : List Choice) (image : Option String) (c : CommandLine) : Prop where
  settles : ∃ given : Given, c.settle = .ok { given, hasImage := image.isSome } ∧
    given.Shows choices ∧ given.image = image
  mayName : c.onlyPlain = false

variable {choices : List Choice} {image : Option String} {c : CommandLine}

theorem take_long (mayName : c.onlyPlain = false) {argument name : String} {value : Option String}
    (form : Form.of argument = .long name value) : c.take argument = c.takeLong name value := by
  simp [take, mayName, form]

theorem take_plain (mayName : c.onlyPlain = false) {argument : String}
    (plain : Plain argument) : c.take argument = c.takePlain argument := by
  simp [take, mayName, plain.form]

theorem Stands.take_parameter (stands : c.Stands choices image) {p : Parameter} {text : String}
    {value : Value} (joined : Bool) (fresh : Subject.parameter p ∉ choices.map Choice.subject)
    (plain : Plain text) (writes : Writes p text value) :
    ∃ c', (Choice.parameter p text joined).arguments.foldlM take c = .ok c' ∧
      c'.Stands (choices ++ [.parameter p text joined]) image := by
  obtain ⟨given, settled, shows, shown⟩ := stands.settles
  obtain ⟨after, assigned, shows', shown'⟩ := shows.assign joined fresh writes
  cases joined with
  | true =>
    have long := (nameable_parameter p).of_joined text
    refine ⟨{ given := after, hasImage := image.isSome }, ?_,
      ⟨after, rfl, shows', shown'.trans shown⟩, rfl⟩
    simp only [Choice.arguments, List.foldlM_cons, List.foldlM_nil,
      take_long stands.mayName long, takeLong, find?_parameter, settled]
    simp [bind, Except.bind, assigned, pure, Except.pure]
  | false =>
    have long := (nameable_parameter p).of_name
    refine ⟨{ given, pending := some (.parameter p (some text)), hasImage := image.isSome }, ?_,
      ⟨after, ?_, shows', shown'.trans shown⟩, rfl⟩
    · simp only [Choice.arguments, List.foldlM_cons, List.foldlM_nil,
        take_long stands.mayName long, takeLong, find?_parameter, settled]
      simp only [bind, Except.bind, pure, Except.pure]
      rw [take_plain rfl plain]
      rfl
    · simp [settle, assigned, Except.map]

theorem Stands.take_switch (stands : c.Stands choices image) {s : Switch}
    (fresh : Subject.switch s ∉ choices.map Choice.subject) :
    ∃ c', (Choice.switch s).arguments.foldlM take c = .ok c' ∧
      c'.Stands (choices ++ [.switch s]) image := by
  obtain ⟨given, settled, shows, shown⟩ := stands.settles
  obtain ⟨after, turned, shows', shown'⟩ := shows.turnOn fresh
  have long := (nameable_switch s).of_name
  refine ⟨{ given := after, hasImage := image.isSome }, ?_,
    ⟨after, rfl, shows', shown'.trans shown⟩, rfl⟩
  simp only [Choice.arguments, List.foldlM_cons, List.foldlM_nil, take_long stands.mayName long,
    takeLong, find?_switch, settled]
  simp [bind, Except.bind, turned, pure, Except.pure]

/-- What can be checked does not wait for a value, and was seen before. -/
theorem settle_keeps {d : CommandLine} (settled : c.settle = .ok d) :
    c.hasImage = d.hasImage ∧ ∀ p, c.pending ≠ some (.parameter p none) := by
  rw [settle] at settled
  split at settled
  · rename_i pending
    cases settled
    exact ⟨rfl, by simp [pending]⟩
  · cases settled
  · rename_i p text pending
    cases assigned : c.given.assign p text with
    | error error => simp [assigned, Except.map] at settled
    | ok given =>
      rw [assigned] at settled
      cases settled
      exact ⟨rfl, by simp [pending]⟩
  · cases settled
  · rename_i path some pending
    cases settled
    exact ⟨rfl, by simp [pending]⟩

theorem takePlain_of_complete (complete : ∀ p, c.pending ≠ some (.parameter p none))
    (argument : String) : c.takePlain argument = c.takeImage argument := by
  rw [takePlain]
  split
  · rename_i p pending
    exact absurd pending (complete p)
  · rfl

theorem Stands.take_image (stands : c.Stands choices none) {path : String} (some : path ≠ "")
    (plain : Plain path) : ∃ c', c.take path = .ok c' ∧ c'.Stands choices (.some path) := by
  obtain ⟨given, settled, shows, -⟩ := stands.settles
  obtain ⟨first, complete⟩ := settle_keeps settled
  refine ⟨{ given, pending := .some (.image path), hasImage := true }, ?_,
    ⟨{ given with image := path }, ?_, ⟨shows.value, shows.has⟩, rfl⟩, rfl⟩
  · rw [take_plain stands.mayName plain, takePlain_of_complete complete, takeImage, first, settled]
    rfl
  · rw [settle]
    split
    all_goals simp_all

/-- Choices are taken one after the other, as long as no option comes twice. -/
theorem Stands.take_choices (stands : c.Stands choices image) {more : List Choice}
    (once : ((choices ++ more).map Choice.subject).Nodup)
    (proper : ∀ choice ∈ more, choice.Proper) :
    ∃ c', (more.flatMap Choice.arguments).foldlM take c = .ok c' ∧
      c'.Stands (choices ++ more) image := by
  induction more generalizing choices c with
  | nil => exact ⟨c, rfl, by rwa [List.append_nil]⟩
  | cons choice rest ih =>
    obtain ⟨here, others⟩ := List.forall_mem_cons.1 proper
    have fresh : choice.subject ∉ choices.map Choice.subject := by
      rw [List.map_append, List.map_cons, List.nodup_append] at once
      intro found
      exact once.2.2 _ found _ List.mem_cons_self rfl
    have next : ∃ c', choice.arguments.foldlM take c = .ok c' ∧
        c'.Stands (choices ++ [choice]) image := by
      cases choice with
      | parameter p text joined =>
        obtain ⟨plain, value, writes⟩ := here
        exact stands.take_parameter joined fresh plain writes
      | switch s => exact stands.take_switch fresh
    obtain ⟨c₁, taken, stands₁⟩ := next
    obtain ⟨c₂, rest, stands₂⟩ := ih stands₁ (by simpa using once) others
    refine ⟨c₂, ?_, by simpa using stands₂⟩
    rw [List.flatMap_cons, List.foldlM_append, taken]
    exact rest

end CommandLine

structure Line where
  before : List Choice := []
  image : String
  after : List Choice := []

namespace Line

def choices (l : Line) : List Choice := l.before ++ l.after

def arguments (l : Line) : List String :=
  l.before.flatMap Choice.arguments ++ l.image :: l.after.flatMap Choice.arguments

/-- A line with a path of an image, and with no option twice. Neither the path nor a value is taken
for an option. -/
structure Proper (l : Line) : Prop where
  image : l.image ≠ "" ∧ Plain l.image
  once : (l.choices.map Choice.subject).Nodup
  values : ∀ choice ∈ l.choices, choice.Proper

/-- A command line gives its image and its choices, in whichever order they stand. -/
theorem Proper.read {l : Line} (proper : l.Proper) : ∃ given : Given,
    CommandLine.read l.arguments = .ok given ∧ given.Shows l.choices ∧ given.image = l.image := by
  have start : ({} : CommandLine).Stands [] none := ⟨⟨{}, rfl, Given.shows_nil, rfl⟩, rfl⟩
  have once := proper.once
  have values (choice : Choice) (found : choice ∈ l.before ∨ choice ∈ l.after) : choice.Proper :=
    proper.values choice (List.mem_append.2 found)
  have onceBefore : (([] ++ l.before).map Choice.subject).Nodup := by
    rw [choices, List.map_append] at once
    exact (List.nodup_append.1 once).1
  obtain ⟨c₁, first, stands₁⟩ := start.take_choices onceBefore fun choice found =>
    values choice (.inl found)
  obtain ⟨c₂, image, stands₂⟩ := stands₁.take_image proper.image.1 proper.image.2
  obtain ⟨c₃, last, stands₃⟩ := stands₂.take_choices once fun choice found =>
    values choice (.inr found)
  obtain ⟨given, settled, shows, shown⟩ := stands₃.settles
  refine ⟨given, ?_, shows, shown⟩
  have all : l.arguments.foldlM CommandLine.take {} = .ok c₃ := by
    rw [arguments, List.foldlM_append, first]
    change (l.image :: l.after.flatMap Choice.arguments).foldlM CommandLine.take c₁ = .ok c₃
    rw [List.foldlM_cons, image]
    exact last
  rw [CommandLine.read, all]
  change (do return (← c₃.settle).given) = _
  rw [settled]
  rfl

end Line
end SdBridge.Options
