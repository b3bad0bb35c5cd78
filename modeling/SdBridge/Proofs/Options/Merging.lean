import Mathlib.Data.List.Nodup
import SdBridge.Proofs.Options.Variables

/-!
Where options come from. The command line decides what it gives, variables decide the rest as far as
they are set, and defaults what is left then. So neither the order on the command line makes a
difference, nor how values are joined, nor any variable of an option that is given.
-/
namespace SdBridge.Options

def Line.text? (l : Line) (p : Parameter) : Option String := l.choices.findSome? (Choice.textOf p)

section Sources

variable (l : Line) (e : Environment)

/-- The text that decides an option: the one given, else that of its variable. -/
def deciding (p : Parameter) : Option String := (l.text? p).or (e.lookup? p.variableName)

/-- A switch is on if it is given or its variable is true. -/
def On (s : Switch) : Prop := .switch s ∈ l.choices ∨ Raised e s

/-- The variables are well-formed, except perhaps those of options that are given. -/
structure Completes : Prop where
  values : ∀ p text, l.text? p = none → e.lookup? p.variableName = some text →
    ∃ value, Writes p text value
  switches : ∀ s name text, .switch s ∉ l.choices → s.variableName? = some name →
    e.lookup? name = some text → text = "true" ∨ text = "false"

structure Agree (e' : Environment) : Prop where
  values : ∀ p, l.text? p = none → e'.lookup? p.variableName = e.lookup? p.variableName
  switches : ∀ s name, .switch s ∉ l.choices → s.variableName? = some name →
    e'.lookup? name = e.lookup? name

/-- A field of the settings is made from the value that the deciding text writes. It has its default
if there is no such text. -/
def Sets {α β : Type} (p : Parameter) (shape : β → Value) (make : β → α) (default field : α) :
    Prop :=
  (∃ text b, deciding l e p = some text ∧ Writes p text (shape b) ∧ field = make b) ∨
    deciding l e p = none ∧ field = default

/-- Options of which each has its value from the first source that has one. -/
structure Merged (o : Options) : Prop where
  image : o.image = l.image
  device : Sets l e .device .path id Device.defaultPath o.device
  processor : Sets l e .processor .number id ({} : Settings).processor o.settings.processor
  dataPoll : Sets l e .dataPoll .number .ofMicroseconds ({} : Settings).dataPoll o.settings.dataPoll
  drainPoll :
    Sets l e .drainPoll .number .ofMicroseconds ({} : Settings).drainPoll o.settings.drainPoll
  slowCompletion : Sets l e .slowCompletion .number Nat.toUInt8 ({} : Settings).slowCompletion
    o.settings.slowCompletion
  maxTransfer : Sets l e .maxTransfer .number id ({} : Settings).transfer.maxBytes
    o.settings.transfer.maxBytes
  ringCapacity :
    Sets l e .ringCapacity .number id ({} : Settings).ringCapacity o.settings.ringCapacity
  stackSize : Sets l e .stackSize .number id ({} : Settings).stackSize o.settings.stackSize
  scratchDevice :
    Sets l e .scratchDevice .path some ({} : Settings).scratchDevice o.settings.scratchDevice
  lockMemory : o.settings.lockMemory = true ↔ On l e .lockMemory
  softwareCrc : o.settings.transfer.crcMode = .software ↔ On l e .softwareCrc
  fourBit : o.settings.transfer.busWidth = .fourBit ↔ On l e .fourBit
  noReset : o.noReset = true ↔ On l e .noReset
  bench : o.bench = true ↔ On l e .bench

structure Decides (g : Given) : Prop where
  value : ∀ p, g.value? p = (deciding l e p).bind p.valueOf?
  has : ∀ s, g.has s = true ↔ On l e s

end Sources

section Merging

variable {l : Line} {e : Environment}

theorem text?_eq_none_iff {p : Parameter} :
    l.text? p = none ↔ Subject.parameter p ∉ l.choices.map Choice.subject :=
  findSome?_textOf_eq_none_iff

theorem exists_choice_of_text? {p : Parameter} {text : String} (given : l.text? p = some text) :
    ∃ joined, .parameter p text joined ∈ l.choices := by
  obtain ⟨choice, among, shown⟩ := List.exists_of_findSome?_eq_some given
  cases choice with
  | parameter q other joined =>
    simp only [Choice.textOf] at shown
    split at shown
    · rename_i same
      cases shown
      exact ⟨joined, same ▸ among⟩
    · cases shown
  | switch s => cases shown

/-- A text that decides an option is one that the option reads. -/
theorem writes_of_deciding (proper : l.Proper) (completes : Completes l e) {p : Parameter}
    {text : String} (decides : deciding l e p = some text) : ∃ value, Writes p text value := by
  rw [deciding, Option.or_eq_some_iff] at decides
  rcases decides with given | ⟨absent, found⟩
  · obtain ⟨joined, among⟩ := exists_choice_of_text? given
    exact (proper.values _ among).2
  · exact completes.values p text absent found

def optionsOf (image : String) (g : Given) : Options :=
  { image
    device := (g.path? .device).getD Device.defaultPath
    noReset := g.has .noReset
    bench := g.has .bench
    settings := settingsOf g }

theorem optionsOf_congr {g g' : Given} (value : ∀ p, g.value? p = g'.value? p)
    (has : ∀ s, g.has s = g'.has s) (image : String) : optionsOf image g = optionsOf image g' := by
  simp only [optionsOf, settingsOf, Given.path?, Given.number?, value, has]

theorem value?_of_deciding {g : Given} (decides : Decides l e g) {p : Parameter} {text : String}
    {value : Value} (found : deciding l e p = some text) (writes : Writes p text value) :
    g.value? p = some value := by
  rw [decides.value, found, Option.bind_some, Parameter.valueOf?_eq_some_iff.2 writes]

/-- A command line is read to the end, and what it leaves open is filled in. -/
theorem read_eq_ok (proper : l.Proper) (completes : Completes l e) :
    ∃ g, Decides l e g ∧ read l.arguments e = .ok (optionsOf l.image g) := by
  obtain ⟨g₀, read₀, shows, image₀⟩ := proper.read
  have given {p : Parameter} {text : String} (found : l.text? p = some text) :
      ∃ value, p.valueOf? text = some value := by
    have decides : deciding l e p = some text := by rw [deciding, found, Option.some_or]
    obtain ⟨value, writes⟩ := writes_of_deciding proper completes decides
    exact ⟨value, Parameter.valueOf?_eq_some_iff.2 writes⟩
  have value₀ (p : Parameter) : g₀.value? p = (l.text? p).bind p.valueOf? := shows.value p
  have open₀ (p : Parameter) (unset : g₀.value? p = none) : l.text? p = none := by
    cases found : l.text? p with
    | none => rfl
    | some text =>
      obtain ⟨value, valued⟩ := given found
      rw [value₀, found, Option.bind_some, valued] at unset
      cases unset
  obtain ⟨g₁, filled₁, value₁, has₁, image₁⟩ := fillParameters_eq_ok (e := e) (g := g₀)
    fun p unset text found => completes.values p text (open₀ p unset) found
  obtain ⟨g₂, filled₂, value₂, has₂, image₂⟩ := fillSwitches_eq_ok (e := e) (g := g₁)
    fun s off name text named found => by
      refine completes.switches s name text (fun among => ?_) named found
      rw [has₁, (shows.has s).2 among] at off
      cases off
  refine ⟨g₂, ⟨fun p => ?_, fun s => ?_⟩, ?_⟩
  · rw [value₂, value₁, value₀, deciding, fallback?]
    cases found : l.text? p with
    | none => rfl
    | some text =>
      obtain ⟨value, valued⟩ := given found
      simp [valued]
  · rw [has₂, has₁, shows.has, On]
  · have image : g₂.image = some l.image := (image₂.trans image₁).trans image₀
    have filled : fill e g₀ = .ok g₂ := by
      rw [fill, filled₁]
      exact filled₂
    rw [read, read₀]
    simp only [bind, Except.bind, filled, image]
    rfl

section Sets

variable {g : Given} {p : Parameter} {α : Type} (proper : l.Proper) (completes : Completes l e)
  (decides : Decides l e g)

include proper completes decides

/-- All values of an option have one shape, and so has what was given for it. -/
theorem sets_of_shape {β : Type} {shape : β → Value} {given? : Option β}
    (shaped : ∀ text value, Writes p text value → ∃ b, value = shape b)
    (set : ∀ b, g.value? p = some (shape b) → given? = some b)
    (unset : g.value? p = none → given? = none) (make : β → α) (default : α) :
    Sets l e p shape make default ((given?.map make).getD default) := by
  cases found : deciding l e p with
  | none =>
    have nothing : g.value? p = none := by rw [decides.value, found, Option.bind_none]
    rw [unset nothing]
    exact .inr ⟨found, rfl⟩
  | some text =>
    obtain ⟨value, writes⟩ := writes_of_deciding proper completes found
    obtain ⟨b, rfl⟩ := shaped text value writes
    rw [set b (value?_of_deciding decides found writes)]
    exact .inl ⟨text, b, found, writes, rfl⟩

theorem sets_number {largest : Nat} {mayBeNegated : Bool}
    (domain : p.domain = .number largest mayBeNegated) (make : Nat → α) (default : α) :
    Sets l e p .number make default (((g.number? p).map make).getD default) := by
  refine sets_of_shape proper completes decides (fun text value writes => ?_)
    (fun n set => by rw [Given.number?, set]) (fun unset => by rw [Given.number?, unset]) make default
  cases writes with
  | path other => simp [domain] at other
  | number => exact ⟨_, rfl⟩

/-- A field that is the number itself. -/
theorem sets_plain {largest : Nat} {mayBeNegated : Bool}
    (domain : p.domain = .number largest mayBeNegated) (default : Nat) :
    Sets l e p .number id default ((g.number? p).getD default) := by
  have sets := sets_number proper completes decides domain id default
  rwa [Option.map_id_fun, id] at sets

theorem sets_path (domain : p.domain = .path) (make : String → α) (default : α) :
    Sets l e p .path make default (((g.path? p).map make).getD default) := by
  refine sets_of_shape proper completes decides (fun text value writes => ?_)
    (fun path set => by rw [Given.path?, set]) (fun unset => by rw [Given.path?, unset]) make default
  cases writes with
  | number other => simp [domain] at other
  | path => exact ⟨_, rfl⟩

theorem merged_optionsOf : Merged l e (optionsOf l.image g) where
  image := rfl
  device := by
    have sets := sets_path proper completes decides (p := .device) rfl id Device.defaultPath
    rwa [Option.map_id_fun, id] at sets
  processor := sets_plain proper completes decides (p := .processor) rfl _
  dataPoll := sets_number proper completes decides (p := .dataPoll) rfl _ _
  drainPoll := sets_number proper completes decides (p := .drainPoll) rfl _ _
  slowCompletion := sets_number proper completes decides (p := .slowCompletion) rfl _ _
  maxTransfer := sets_plain proper completes decides (p := .maxTransfer) rfl _
  ringCapacity := sets_plain proper completes decides (p := .ringCapacity) rfl _
  stackSize := sets_plain proper completes decides (p := .stackSize) rfl _
  scratchDevice := by
    have sets := sets_path proper completes decides (p := .scratchDevice) rfl some none
    have same : ((g.path? .scratchDevice).map some).getD none = g.path? .scratchDevice := by
      cases g.path? .scratchDevice <;> rfl
    rwa [same] at sets
  lockMemory := decides.has .lockMemory
  softwareCrc := by
    rw [← decides.has]
    change (if g.has .softwareCrc = true then CrcMode.software else .hardware) = .software ↔ _
    simp
  fourBit := by
    rw [← decides.has]
    change (if g.has .fourBit = true then BusWidth.fourBit else .oneBit) = .fourBit ↔ _
    simp
  noReset := decides.has .noReset
  bench := decides.has .bench

end Sets

section Respelling

variable {l' : Line} {e' : Environment}

/-- The choices say what texts there are, since no option comes twice. -/
theorem text?_eq_some_iff (proper : l.Proper) {p : Parameter} {text : String} :
    l.text? p = some text ↔ .parameter p text false ∈ l.choices.map Choice.respelled := by
  rw [List.mem_map]
  constructor
  · intro given
    obtain ⟨joined, among⟩ := exists_choice_of_text? given
    exact ⟨_, among, rfl⟩
  · rintro ⟨choice, among, spelled⟩
    cases choice with
    | switch s => cases spelled
    | parameter q other joined =>
      cases spelled
      cases given : l.text? p with
      | none => exact absurd (List.mem_map_of_mem among) (text?_eq_none_iff.1 given)
      | some first =>
        obtain ⟨joined', among'⟩ := exists_choice_of_text? given
        have same := List.inj_on_of_nodup_map proper.once among' among rfl
        cases same
        rfl

theorem switch_mem_iff {s : Switch} :
    .switch s ∈ l.choices ↔ .switch s ∈ l.choices.map Choice.respelled := by
  rw [List.mem_map]
  constructor
  · exact fun among => ⟨_, among, rfl⟩
  · rintro ⟨choice, among, spelled⟩
    cases choice with
    | switch t =>
      cases spelled
      exact among
    | parameter p text joined => cases spelled

theorem subjects_respelled (choices : List Choice) :
    (choices.map Choice.respelled).map Choice.subject = choices.map Choice.subject := by
  rw [List.map_map]
  refine List.map_congr_left fun choice _ => ?_
  cases choice <;> rfl

theorem Choice.proper_respelled (choice : Choice) : choice.respelled.Proper ↔ choice.Proper := by
  cases choice <;> exact Iff.rfl

theorem proper_of_perm (proper : l.Proper) (image : l'.image = l.image)
    (same : (l'.choices.map Choice.respelled).Perm (l.choices.map Choice.respelled)) :
    l'.Proper where
  image := image ▸ proper.image
  once := by
    rw [← subjects_respelled, (same.map _).nodup_iff, subjects_respelled]
    exact proper.once
  values choice among := by
    obtain ⟨other, among, spelled⟩ := List.mem_map.1 (same.subset (List.mem_map_of_mem among))
    rw [← choice.proper_respelled, ← spelled, other.proper_respelled]
    exact proper.values other among

theorem text?_of_perm (proper : l.Proper) (proper' : l'.Proper)
    (same : (l'.choices.map Choice.respelled).Perm (l.choices.map Choice.respelled))
    (p : Parameter) : l'.text? p = l.text? p := by
  apply Option.ext
  intro text
  rw [text?_eq_some_iff proper, text?_eq_some_iff proper', same.mem_iff]

/-- Nothing depends on the order and the spelling of the choices, nor on the variables of options
that are given. -/
theorem read_congr (proper : l.Proper) (completes : Completes l e) (image : l'.image = l.image)
    (same : (l'.choices.map Choice.respelled).Perm (l.choices.map Choice.respelled))
    (agree : Agree l e e') : read l'.arguments e' = read l.arguments e := by
  have proper' := proper_of_perm proper image same
  have text := text?_of_perm proper proper' same
  have switch (s : Switch) : .switch s ∈ l'.choices ↔ .switch s ∈ l.choices := by
    rw [switch_mem_iff, same.mem_iff, ← switch_mem_iff]
  have completes' : Completes l' e' := by
    refine ⟨fun p t absent found => ?_, fun s name t absent named found => ?_⟩
    · rw [text] at absent
      rw [agree.values p absent] at found
      exact completes.values p t absent found
    · rw [switch] at absent
      rw [agree.switches s name absent named] at found
      exact completes.switches s name t absent named found
  have deciding' (p : Parameter) : deciding l' e' p = deciding l e p := by
    rw [deciding, deciding, text]
    cases given : l.text? p with
    | some t => rfl
    | none => rw [agree.values p given]
  have on' (s : Switch) : On l' e' s ↔ On l e s := by
    rw [On, On, switch]
    by_cases given : .switch s ∈ l.choices
    · simp [given]
    · have raised : Raised e' s ↔ Raised e s := exists_congr fun name =>
        and_congr_right fun named => by rw [agree.switches s name given named]
      rw [raised]
  obtain ⟨g, decides, result⟩ := read_eq_ok proper completes
  obtain ⟨g', decides', result'⟩ := read_eq_ok proper' completes'
  rw [result, result', image]
  refine congrArg Except.ok (optionsOf_congr (fun p => ?_) (fun s => ?_) l.image)
  · rw [decides.value, decides'.value, deciding']
  · rw [Bool.eq_iff_iff, decides.has, decides'.has, on']

end Respelling

end Merging

/-- Each option has the value given on the line, else that of its variable, else its default,
however the line is ordered and spelled. -/
theorem options_merged {l : Line} {e : Environment} (proper : l.Proper)
    (completes : Completes l e) :
    (∃ o, read l.arguments e = .ok o ∧ Merged l e o) ∧
      ∀ (l' : Line) (e' : Environment), l'.image = l.image →
        (l'.choices.map Choice.respelled).Perm (l.choices.map Choice.respelled) →
        Agree l e e' → read l'.arguments e' = read l.arguments e := by
  constructor
  · obtain ⟨g, decides, result⟩ := read_eq_ok proper completes
    exact ⟨_, result, merged_optionsOf proper completes decides⟩
  · exact fun l' e' image same agree => read_congr proper completes image same agree

def crossed : Line where
  before := [.parameter .slowCompletion "+080" true, .switch .softwareCrc]
  image := "card.img"
  after := [.parameter .device "/dev/uio3" false]

def shuffled : Line where
  before := [.parameter .device "/dev/uio3" true]
  image := "card.img"
  after := [.switch .softwareCrc, .parameter .slowCompletion "+080" false]

/-- Two of these variables are malformed, but their options are on both lines. -/
def surroundings : Environment :=
  [("SDPROXY_UIO", ""), ("SDPROXY_SOFTWARE_CRC", "maybe"), ("SDPROXY_RING_CAPACITY", "016"),
    ("SDPROXY_LOCK_MEMORY", "true"), ("SDPROXY_FOUR_BIT", "false")]

theorem exists_writes_of_isSome {p : Parameter} {text : String}
    (valued : (p.valueOf? text).isSome = true) : ∃ value, Writes p text value := by
  obtain ⟨value, valued⟩ := Option.isSome_iff_exists.1 valued
  exact ⟨value, Parameter.valueOf?_eq_some_iff.1 valued⟩

theorem proper_crossed : crossed.Proper where
  image := ⟨by decide, by decide⟩
  once := by decide
  values choice among := by
    have cases : choice ∈ [.parameter .slowCompletion "+080" true, .switch .softwareCrc,
      .parameter .device "/dev/uio3" false] := among
    simp only [List.mem_cons, List.not_mem_nil, or_false] at cases
    rcases cases with rfl | rfl | rfl
    · exact ⟨by decide, exists_writes_of_isSome (by decide +kernel)⟩
    · exact True.intro
    · exact ⟨by decide, exists_writes_of_isSome (by decide +kernel)⟩

theorem completes_surroundings : Completes crossed surroundings where
  values p text absent found := by
    have all : ∀ p : Parameter, crossed.text? p = none →
        (surroundings.lookup? p.variableName).all (fun t => (p.valueOf? t).isSome) = true := by
      intro p
      cases p <;> decide +kernel
    have valued := all p absent
    rw [found] at valued
    exact exists_writes_of_isSome valued
  switches s name text absent named found := by
    have all : ∀ s : Switch, .switch s ∉ crossed.choices →
        (s.variableName?.bind surroundings.lookup?).all (fun t => t = "true" ∨ t = "false") =
          true := by
      intro s
      cases s <;> decide +kernel
    have told := all s absent
    rw [named, Option.bind_some, found] at told
    simpa using told

def outcome : Options where
  image := "card.img"
  device := "/dev/uio3"
  settings :=
    { slowCompletion := 80, ringCapacity := 16, lockMemory := true,
      transfer := { crcMode := .software } }

theorem options_merged_crossed :
    crossed.Proper ∧ Completes crossed surroundings ∧ Merged crossed surroundings outcome ∧
      read ["--slow-completion=+080", "--software-crc", "card.img", "--uio", "/dev/uio3"]
        surroundings = .ok outcome ∧
      read ["--uio=/dev/uio3", "card.img", "--software-crc", "--slow-completion", "+080"]
        (surroundings.drop 2) = .ok outcome := by
  obtain ⟨⟨o, result, merged⟩, elsewhere⟩ := options_merged proper_crossed completes_surroundings
  have agree : Agree crossed surroundings (surroundings.drop 2) := by
    refine ⟨fun p => ?_, fun s name absent named => ?_⟩
    · cases p <;> decide +kernel
    · cases s <;> revert absent <;> cases named <;> decide +kernel
  have computed : read crossed.arguments surroundings = .ok outcome := by decide +kernel
  rw [computed] at result
  cases result
  exact ⟨proper_crossed, completes_surroundings, merged, computed,
    (elsewhere shuffled _ rfl (by decide) agree).trans computed⟩

end SdBridge.Options
