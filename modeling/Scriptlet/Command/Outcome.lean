import Scriptlet.Command
import Scriptlet.Folder
import Scriptlet.Runner

/-!
# Outcome of a command: exit code and the texts on both streams
-/

namespace Scriptlet

structure Command.Outcome where
  exitCode : Nat
  out : String
  err : String
deriving DecidableEq

/-- the last line on the error stream when a script failed -/
def failureMessage : String := "errors while running script"

/-- Diagnostics are in colour on a terminal that can show it, unless the user asks for none. -/
def colourWanted (setting : String → Option String) : Bool :=
  match setting "TERM" with
  | none => false
  | some term => term != "dumb" && (setting "NO_COLOR").isNone

namespace Command

def mode (c : Command) : Mode :=
  match c.emit with
  | none => .execute
  | some .tokens => .tokens
  | some .ast => .script

/-- A script that is given inline has no name of its own. -/
def source (read : String → Except ReadError String) (c : Command) : Except ReadError Source :=
  if c.inline then .ok (.unnamed c.input)
  else
    match read c.input with
    | .error e => .error e
    | .ok text => .ok (.ofText c.input text)

def outcomeOfStep (s : Step) : Outcome :=
  let out := String.join (s.printed.map (· ++ "\n")) ++ s.emitted
  if s.succeeded then ⟨0, out, ""⟩ else ⟨1, out, s.diagnostics ++ failureMessage ++ "\n"⟩

/-- What a command does where `read` gives the texts of files and reports are drawn by `theme`. -/
def outcomeIn (theme : Theme) (read : String → Except ReadError String) (colour : Bool)
    (c : Command) : Except Drawing.Fault Outcome :=
  match c.source read with
  | .error e => .ok ⟨1, "", e.message ++ "\n"⟩
  | .ok source =>
    match (⟨theme, colour⟩ : Runner).step source c.mode with
    | .error fault => .error fault
    | .ok step => .ok (outcomeOfStep step)

def outcome (read : String → Except ReadError String) (colour : Bool) (c : Command) :
    Except Drawing.Fault Outcome := c.outcomeIn .standard read colour

end Command

end Scriptlet
