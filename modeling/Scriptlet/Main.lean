import Scriptlet.Command.Outcome

/-!
# Main: the command line

Reads the words, the environment and the file, and writes what `Command.outcome` says.
-/

namespace Scriptlet

def usage : String :=
  "Usage: scriptlet run [-s | --source] [--emit tokens|ast] INPUT\n       scriptlet help [run]\n"

def readErrorOf : IO.Error → ReadError
  | .noFileOrDirectory .. => .notFound
  | .inappropriateType _ code _ => if code = 21 then .isDirectory else .notDirectory
  | .invalidArgument .. => .nameTooLong
  | _ => .notFound

def readFile (path : String) : IO (Except ReadError String) := do
  try
    return decodeText (← IO.FS.readBinFile path)
  catch e =>
    return .error (readErrorOf e)

def refuse (r : Refusal) : IO UInt32 := do
  match r with
  | .help => IO.print usage
  | .version => IO.println "scriptlet"
  | _ => IO.eprint usage
  return r.exitCode.toUInt32

def perform (c : Command) : IO UInt32 := do
  let text ← if c.inline then pure (.ok c.input) else readFile c.input
  let term ← IO.getEnv "TERM"
  let noColour ← IO.getEnv "NO_COLOR"
  let setting : String → Option String := fun name => if name = "TERM" then term else noColour
  match c.outcome (fun _ => text) (colourWanted setting) with
  | .error _ =>
    IO.eprintln "the report cannot be drawn"
    return 101
  | .ok outcome =>
    IO.print outcome.out
    IO.eprint outcome.err
    return outcome.exitCode.toUInt32

end Scriptlet

def main (args : List String) : IO UInt32 :=
  match Scriptlet.Command.ofWords args with
  | .error r => Scriptlet.refuse r
  | .ok c => Scriptlet.perform c
