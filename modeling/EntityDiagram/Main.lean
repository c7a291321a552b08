import EntityDiagram.CommandLine

namespace EntityDiagram.Command

/-- Writes a message for the user and gives the code to end with. -/
def fail (code : UInt32) (message : String) : IO UInt32 := do
  IO.eprintln message
  return code

/-- Puts a text into the file of the command, or on the standard output. -/
def write (c : Command) (text : String) : IO UInt32 := do
  match c.output with
  | none => IO.println text
  | some path =>
    try IO.FS.writeFile path text
    catch e => return ← fail 1 s!"Failed to write {path}: {e}"
  return 0

def execute (c : Command) : IO UInt32 := do
  match ← (IO.FS.readFile c.input).toBaseIO with
  | .error e => fail 1 s!"Failed to read {c.input}: {e}"
  | .ok text =>
    match c.draw text with
    | .ok diagram => c.write diagram
    | .error e => fail 1 e.message

end EntityDiagram.Command

def main (args : List String) : IO UInt32 := do
  match EntityDiagram.Command.ofArguments args (← IO.getEnv "ENTITY_DIAGRAM_SEED") with
  | .ok (some command) => command.execute
  | .ok none =>
    IO.println EntityDiagram.Command.help
    return 0
  | .error e => EntityDiagram.Command.fail 2 s!"error: {e.message}"
