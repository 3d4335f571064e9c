import Scriptlet.Bindings
import Scriptlet.Script

/-!
# Evaluation: values of expressions and runs of scripts

A statement either fails and changes nothing, or has one effect: a variable gets a value, or a
native function is called.  A run has the effects of its statements in order, up to the first that
fails; what it did until then stays.  The arithmetic and the set of native functions are parameters.
-/

namespace Scriptlet

abbrev Environment := Bindings Number

/-- Equality by value: `0` equals `-0`, and an environment that holds a NaN equals none. -/
def Environment.sameValues (a b : Environment) : Bool :=
  a.size == b.size
    && a.entries.all fun (n, v) => (b.get? n).any v.sameValue

/-- what the operators stand for -/
abbrev Arithmetic := Operator → Number → Number → Number

namespace RuntimeError

inductive Kind where
  | unknownFunction (name : String)
  | unknownVariable (name : String)
deriving DecidableEq

def Kind.message : Kind → String
  | .unknownFunction name => "unknown function `" ++ name ++ "`"
  | .unknownVariable name => "unknown variable `" ++ name ++ "`"

end RuntimeError

structure RuntimeError where
  kind : RuntimeError.Kind
  span : Span
deriving DecidableEq

def RuntimeError.message (e : RuntimeError) : String := e.kind.message

/-- The value of an expression, left operand first. -/
def Expr.eval (ops : Arithmetic) (env : Environment) : Expr → Except RuntimeError Number
  | .number v _ => .ok v
  | .var x _ =>
    match env.get? x.name with
    | some v => .ok v
    | none => .error ⟨.unknownVariable x.name, x.span⟩
  | .binary op l r _ =>
    match l.eval ops env with
    | .error e => .error e
    | .ok a =>
      match r.eval ops env with
      | .error e => .error e
      | .ok b => .ok (ops op a b)

/-- the values of a list of expressions, from the left, or the first failure -/
def Expr.evalAll (ops : Arithmetic) (env : Environment) :
    List Expr → Except RuntimeError (List Number)
  | [] => .ok []
  | e :: es =>
    match e.eval ops env with
    | .error err => .error err
    | .ok v =>
      match evalAll ops env es with
      | .error err => .error err
      | .ok vs => .ok (v :: vs)

structure Call where
  function : String
  args : List Number
deriving DecidableEq

inductive Effect where
  | assign (name : String) (value : Number)
  | call (c : Call)
deriving DecidableEq

/-- The arguments of a call are evaluated before its function is looked up. -/
def Statement.effect (ops : Arithmetic) (known : String → Bool) (env : Environment) :
    Statement → Except RuntimeError Effect
  | .assign x e =>
    match e.eval ops env with
    | .error err => .error err
    | .ok v => .ok (.assign x.name v)
  | .call f args =>
    match Expr.evalAll ops env args with
    | .error err => .error err
    | .ok vs =>
      if known f.name then .ok (.call ⟨f.name, vs⟩)
      else .error ⟨.unknownFunction f.name, f.span⟩

/-- The variables at the end, the calls made, and the error that ended the run, if one did. -/
structure Run where
  env : Environment
  calls : List Call
  failure : Option RuntimeError

def Run.ofBody (ops : Arithmetic) (known : String → Bool) : List Statement → Environment → Run
  | [], env => ⟨env, [], none⟩
  | st :: rest, env =>
    match st.effect ops known env with
    | .error err => ⟨env, [], some err⟩
    | .ok (.assign name v) => ofBody ops known rest (env.set name v)
    | .ok (.call c) =>
      let run := ofBody ops known rest env
      { run with calls := c :: run.calls }

def Script.run (ops : Arithmetic) (known : String → Bool) (s : Script) (env : Environment) : Run :=
  Run.ofBody ops known s.body env

end Scriptlet
