import SdBridge.Image.File
import SdBridge.Log.Filter
import SdBridge.Options

/-!
The start of the program: read the options, validate the settings, open the image and map the
device. It ends with everything ready, or with the first thing that went wrong.
-/
namespace SdBridge.Startup

/-- A step that went wrong, and why: each cause is behind the one before it. -/
structure Problem where
  step : String
  causes : List String

def numbered (number : Nat) : String :=
  let digits := toString number
  String.ofList (List.replicate (5 - digits.length) ' ') ++ digits ++ ": "

def indented (margin rest text : String) : String :=
  margin ++ ("\n" ++ rest).intercalate (text.splitOn "\n")

/-- What is reported of a problem. Causes are numbered if there is more than one. -/
def Problem.report (p : Problem) : String :=
  let causes := match p.causes with
    | [cause] => [indented "    " "    " cause]
    | causes => causes.mapIdx fun i cause => indented (numbered i) "       " cause
  let why := if causes = [] then "" else "\n\nCaused by:\n" ++ "\n".intercalate causes
  s!"Error: {p.step}{why}\n"

structure Ready where
  options : Options
  image : Image.File
  device : Device
  control : Window
  buffer : Window
  lines : Window

inductive Outcome where
  | refused (e : Options.Error)
  | failed (p : Problem)
  | ready (r : Ready)
  /-- A fault came before everything else. -/
  | stopped (f : Fault)

/-- The exit code of a program whose start ends like this; a running bridge never stops by
itself. -/
def Outcome.exitCode : Outcome → UInt32
  | .refused e => e.exitCode
  | .failed _ | .ready _ => 1
  | .stopped _ => 101

def target : String := "sdproxy"

def deviceTarget : String := "sdproxy_regs::uio"

def imageOpened (path : String) (sectors : UInt64) : Log.Line :=
  ⟨target, .info, "image opened", [("image", .text path), ("sectors", .number sectors)]⟩

/-- The start of a program: the log so far, and an outcome that ended it or a value. -/
abbrev Step := ExceptT Outcome (StateM (List Log.Line))

def note (line : Log.Line) : Step Unit := modify (· ++ [line])

/-- Go on with a value, or fail in a step with the causes of an error. -/
def orFail (step : String) (causes : ε → List String) : Except ε α → Step α
  | .ok a => pure a
  | .error e => throw (.failed ⟨step, causes e⟩)

def imageCauses (e : Image.Error) : List String :=
  e.message :: e.source?.toList.map IoError.message

def deviceCauses : Failure Device.Error → List String
  | .error e => e.message :: e.source?.toList.map IoError.message
  | .fault f => [f.message]

def mapRegion (tree : FileTree) (device : Device) (space : AddressSpace) (step : String)
    (region : Device.Region) : Step (Window × AddressSpace) := do
  let (mapped, entry, space) ← orFail step deviceCauses (device.map tree space region.index)
  note ⟨deviceTarget, entry⟩
  return (mapped.window, space)

def prepare (arguments : List String) (environment : Environment) (tree : FileTree) :
    Step Ready := do
  let options ← match Options.read arguments environment with
    | .ok options => pure options
    | .error e => throw (.refused e)
  orFail "invalid configuration" (fun e => [SettingsError.message e]) options.settings.validate
  let image ← orFail s!"failed to open image {options.image}" imageCauses
    (Image.File.ofPath tree options.image)
  note (imageOpened options.image image.sectors)
  let device ← orFail "failed to open UIO device" (fun e => deviceCauses (.error e))
    (Device.ofPath tree options.device)
  let (control, space) ← mapRegion tree device {} "failed to map control registers" .control
  let (buffer, space) ← mapRegion tree device space "failed to map data buffer" .buffer
  let (lines, _) ← mapRegion tree device space "failed to map GPIO lines" .lines
  return { options, image, device, control, buffer, lines }

def filterVariable : String := "RUST_LOG"

def filterOf (environment : Environment) : Except Fault Log.Filter :=
  match environment.lookup? filterVariable with
  | none => .ok .default
  | some text =>
    match Log.Filter.ofText text with
    | .ok filter => .ok filter
    | .error (.error _) => .ok .default
    | .error (.fault f) => .error f

/-- How the start ends, and the log lines that are shown. The filter is read first, even before
the options. -/
def run (arguments : List String) (environment : Environment) (tree : FileTree) :
    Outcome × List Log.Line :=
  match filterOf environment with
  | .error f => (.stopped f, [])
  | .ok filter =>
    let (result, log) := (prepare arguments environment tree).run []
    let outcome := match result with
      | .ok ready => .ready ready
      | .error outcome => outcome
    (outcome, log.filter filter.shows)

end SdBridge.Startup
