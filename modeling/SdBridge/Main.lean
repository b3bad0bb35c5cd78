import SdBridge.Startup

/-!
The command line program: it looks at the files that the start needs, runs the start and reports
how it ended. The loops themselves need the memory of the device, which is mapped elsewhere.
-/
namespace SdBridge.Main

def look (tree : FileTree) (path : String) : IO FileTree := do
  try
    let bytes ← IO.FS.readBinFile path
    return tree.add path (.file (.ofByteArray bytes))
  catch
    | .inappropriateType .. => return tree.add path .directory
    | _ => return tree

def filesOf (o : Options) : List String :=
  let description := s!"{Device.classRoot}/{Device.fileName o.device}"
  [o.image, o.device] ++ ([.control, .buffer, .lines] : List Device.Region).map fun region =>
    s!"{description}/maps/map{region.index}/size"

def variableNames : List String :=
  Startup.filterVariable :: Options.Parameter.all.map (·.variableName) ++
    Options.Switch.all.filterMap (·.variableName?)

def environment : IO Environment :=
  variableNames.filterMapM fun name => return (← IO.getEnv name).map (name, ·)

def complaint (e : Options.Error) : String :=
  match e.argument?, e.value? with
  | some argument, some value => s!"error: invalid value {Text.quoted value} for {argument}"
  | some argument, none => s!"error: unexpected or missing argument {argument}"
  | none, _ => "Usage: sdproxy [OPTIONS] " ++ Options.imageShown

end SdBridge.Main

open SdBridge in
def main (arguments : List String) : IO UInt32 := do
  let present ← Main.environment
  let tree ← match Options.read arguments present with
    | .ok options => (Main.filesOf options).foldlM Main.look {}
    | .error _ => pure {}
  let (outcome, lines) := Startup.run arguments present tree
  for line in lines do IO.println line.text
  match outcome with
  | .refused e => IO.eprintln (Main.complaint e)
  | .failed problem => IO.eprint problem.report
  | .stopped f => IO.eprintln f.message
  | .ready _ => IO.eprintln "Error: device memory cannot be reached from here"
  return outcome.exitCode
