import Scriptlet.Engine
import Scriptlet.Report.Drawing
import Scriptlet.Script.Printer

/-!
# Runner: what can be done with a source, and what is shown of it

A script is executed with an engine that has `print` and nothing else, its tokens are listed, or it
is printed as it was read.  What fails is reported in the diagnostics.
-/

namespace Scriptlet

inductive Mode where
  | execute
  | tokens
  | script
deriving DecidableEq

/-- What one step shows; it succeeded if there are no diagnostics. -/
structure Step where
  succeeded : Bool
  /-- what `print` logged -/
  printed : List String
  emitted : String
  diagnostics : String
deriving DecidableEq

structure Runner where
  theme : Theme
  colour : Bool

namespace Runner

def tokenLine (source : Source) (t : Token) : String :=
  let position := (source.position? t.span.start).getD ⟨0, 0⟩
  toString position.line ++ ":" ++ toString position.column ++ " " ++ t.kind.label ++ " "
    ++ Text.quoted t.text ++ "\n"

def tokenListing (source : Source) : String :=
  String.join ((Token.ofText source.text).map (tokenLine source))

def diagnose (r : Runner) (source : Source) (report : Report) : Except Drawing.Fault String :=
  match report.draw r.theme source with
  | .error fault => .error fault
  | .ok pieces => .ok (Piece.write r.colour pieces)

def failed (r : Runner) (source : Source) (printed : List String) (report : Report) :
    Except Drawing.Fault Step :=
  match r.diagnose source report with
  | .error fault => .error fault
  | .ok diagnostics => .ok ⟨false, printed, "", diagnostics⟩

def step (r : Runner) (source : Source) : Mode → Except Drawing.Fault Step
  | .execute =>
    let outcome := (Engine.withPrint : Engine Empty).run source.text
    match outcome.result with
    | .ok _ => .ok ⟨true, outcome.log, "", ""⟩
    | .error e => r.failed source outcome.log e.report
  | .tokens => .ok ⟨true, [], tokenListing source, ""⟩
  | .script =>
    match Script.parse source.text with
    | .ok s => .ok ⟨true, [], s.text ++ "\n", ""⟩
    | .error e => r.failed source [] e.report

/-- Steps one after the other; none changes what a later one does. -/
def steps (r : Runner) : List (Source × Mode) → Except Drawing.Fault (List Step)
  | [] => .ok []
  | (source, mode) :: rest =>
    match r.step source mode with
    | .error fault => .error fault
    | .ok s =>
      match r.steps rest with
      | .error fault => .error fault
      | .ok ss => .ok (s :: ss)

end Runner

end Scriptlet
