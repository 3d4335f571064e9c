import Scriptlet.Number.Shortest
import Scriptlet.Report
import Scriptlet.Script.Parser

/-!
# Engine: native functions under names, and the runs of scripts against them

A run starts without variables and leaves the engine as it is; only registration changes the table.
What the native functions are told is part of the outcome: `print` logs its first argument, and a
function of the host is told all of them.
-/

namespace Scriptlet

inductive ScriptError where
  | parse (e : SyntaxError)
  | runtime (e : RuntimeError)
deriving DecidableEq

namespace ScriptError

def span : ScriptError → Span
  | .parse e => e.span
  | .runtime e => e.span

def message : ScriptError → String
  | .parse e => "syntax error: " ++ e.message
  | .runtime e => "runtime error: " ++ e.message

def report : ScriptError → Report
  | .parse e => e.report
  | .runtime e => e.report

end ScriptError

/-- A native function: the one that logs, or one of the host, told from others by its `id`. -/
inductive Native (κ : Type) where
  | print
  | host (id : κ)

structure Engine (κ : Type) where
  natives : Bindings (Native κ)

namespace Engine

variable {κ : Type}

/-- without any native function, not even `print` -/
def empty : Engine κ := ⟨.empty⟩

def withPrint : Engine κ := ⟨Bindings.empty.set "print" .print⟩

def register (e : Engine κ) (name : String) (id : κ) : Engine κ :=
  ⟨e.natives.set name (.host id)⟩

def hasFunction (e : Engine κ) (name : String) : Bool := e.natives.contains name

def functionNames (e : Engine κ) : List String := e.natives.names

/-- what a call logs: the first argument of `print`, if it has one -/
def logged? (e : Engine κ) (c : Call) : Option String :=
  match e.natives.get? c.function with
  | some .print => c.args.head?.map Number.text
  | _ => none

/-- the function of the host that a call reaches, with the arguments it is told -/
def reached? (e : Engine κ) (c : Call) : Option (κ × List Number) :=
  match e.natives.get? c.function with
  | some (.host id) => some (id, c.args)
  | _ => none

/-- The variables that a script assigned, or its error, and in either case what it told the host. -/
structure Outcome (κ : Type) where
  result : Except ScriptError Environment
  log : List String
  calls : List (κ × List Number)

def Outcome.error? (o : Outcome κ) : Option ScriptError :=
  match o.result with
  | .error e => some e
  | .ok _ => none

def runScript (e : Engine κ) (s : Script) : Outcome κ :=
  let run := s.run Operator.apply e.hasFunction .empty
  { result := match run.failure with
      | some err => .error (.runtime err)
      | none => .ok run.env
    log := run.calls.filterMap e.logged?
    calls := run.calls.filterMap e.reached? }

def run (e : Engine κ) (text : String) : Outcome κ :=
  match Script.parse text with
  | .error err => ⟨.error (.parse err), [], []⟩
  | .ok s => e.runScript s

/-! ### an engine in words -/

def summary (e : Engine κ) : String :=
  "Engine \x7b natives: [" ++ String.intercalate ", " (e.functionNames.map Text.quoted) ++ "] \x7d"

def listing (e : Engine κ) : String :=
  let entry (name : String) : String := "        " ++ Text.quoted name ++ ",\n"
  let body :=
    if e.functionNames.isEmpty then "[]"
    else "[\n" ++ String.join (e.functionNames.map entry) ++ "    ]"
  "Engine \x7b\n    natives: " ++ body ++ ",\n\x7d"

end Engine

end Scriptlet
