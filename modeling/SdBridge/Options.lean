import SdBridge.Device
import SdBridge.Options.CommandLine
import SdBridge.Settings

/-!
Everything the program is told at its start. The command line wins over the environment, whose
variables are not even looked at where an option was given, and both win over the defaults.
-/
namespace SdBridge

abbrev Environment := List (String × String)

def Environment.lookup? (e : Environment) (name : String) : Option String :=
  (e.find? (·.1 == name)).map (·.2)

structure Options where
  image : String
  device : String := Device.defaultPath
  /-- Leave the SD block as it is instead of resetting it. -/
  noReset : Bool := false
  bench : Bool := false
  /-- Not validated yet. -/
  settings : Settings := {}
  deriving DecidableEq

namespace Options

/-- Take the value of an option from its variable, unless it has one already. -/
def fillParameter (e : Environment) (g : Given) (p : Parameter) : Except Error Given :=
  match g.value? p, e.lookup? p.variableName with
  | none, some text => g.assign p text
  | _, _ => .ok g

def fillSwitch (e : Environment) (g : Given) (s : Switch) : Except Error Given :=
  if g.has s then .ok g
  else match s.variableName?.bind e.lookup? with
    | none | some "false" => .ok g
    | some "true" => g.turnOn s
    | some text => .error (.invalid (.switch s) text)

def fill (e : Environment) (g : Given) : Except Error Given := do
  Switch.all.foldlM (fillSwitch e) (← Parameter.all.foldlM (fillParameter e) g)

def settingsOf (g : Given) : Settings :=
  let d : Settings := {}
  { processor := (g.number? .processor).getD d.processor
    dataPoll := ((g.number? .dataPoll).map Duration.ofMicroseconds).getD d.dataPoll
    drainPoll := ((g.number? .drainPoll).map Duration.ofMicroseconds).getD d.drainPoll
    slowCompletion := ((g.number? .slowCompletion).map Nat.toUInt8).getD d.slowCompletion
    transfer :=
      { maxBytes := (g.number? .maxTransfer).getD d.transfer.maxBytes
        crcMode := if g.has .softwareCrc then .software else d.transfer.crcMode
        busWidth := if g.has .fourBit then .fourBit else d.transfer.busWidth }
    ringCapacity := (g.number? .ringCapacity).getD d.ringCapacity
    stackSize := (g.number? .stackSize).getD d.stackSize
    lockMemory := g.has .lockMemory
    scratchDevice := g.path? .scratchDevice }

def read (arguments : List String) (e : Environment) : Except Error Options := do
  let g ← fill e (← CommandLine.read arguments)
  match g.image with
  | none => throw .missingImage
  | some image =>
    return {
      image
      device := (g.path? .device).getD Device.defaultPath
      noReset := g.has .noReset
      bench := g.has .bench
      settings := settingsOf g }

end Options
end SdBridge
