import Mathlib.Logic.Equiv.Basic
import Scriptlet.Proofs.Evaluation.Composition
import Scriptlet.Proofs.Evaluation.Variables

/-!
# Renaming: variables under other names

`rename r` puts the name `r n` for every variable `n`, and leaves the names of functions alone.  No
two variables may get one name, or a value of one would be lost under the other.

* `Bindings.get?_rename`     what is under a name is under its new name afterwards;
* `Bindings.rename_set`      a value may be set before or after, for the same bindings;
* `Expr.eval_rename`, `Statement.effect_rename`  the same values and effects under the new names;
* `Run.ofBody_rename`        so the same runs, by induction on the statements;
* `Script.run_renamed`       what this says about calls, variables and errors.
-/

namespace Scriptlet

variable {r : String → String}

/-! ## bindings -/

namespace Bindings

variable {α : Type}

def rename (r : String → String) (b : Bindings α) : Bindings α :=
  b.entries.foldr (fun p renamed => renamed.set (r p.1) p.2) empty

theorem get?_set (b : Bindings α) (name : String) (v : α) (n : String) :
    (b.set name v).get? n = if name = n then some v else b.get? n :=
  find?_place name v b.entries n

theorem get?_rename (hr : Function.Injective r) (b : Bindings α) (n : String) :
    (b.rename r).get? (r n) = b.get? n := by
  obtain ⟨l, hl⟩ := b
  show (l.foldr (fun p renamed => set renamed (r p.1) p.2) empty).get? (r n) = find? n l
  clear hl
  induction l with
  | nil => rfl
  | cons p l ih =>
    rw [List.foldr_cons, get?_set, ih, find?]
    simp only [hr.eq_iff]

/-- Under a name that is no new name there is nothing. -/
theorem get?_rename_of_ne (b : Bindings α) {m : String} (hm : ∀ n, r n ≠ m) :
    (b.rename r).get? m = none := by
  obtain ⟨l, hl⟩ := b
  show (l.foldr (fun p renamed => set renamed (r p.1) p.2) empty).get? m = none
  clear hl
  induction l with
  | nil => rfl
  | cons p l ih => rw [List.foldr_cons, get?_set, if_neg (hm p.1), ih]

theorem rename_set (hr : Function.Injective r) (b : Bindings α) (name : String) (v : α) :
    (b.set name v).rename r = (b.rename r).set (r name) v := by
  refine ext_get? fun m => ?_
  rw [get?_set]
  by_cases hm : ∃ n, r n = m
  · obtain ⟨n, rfl⟩ := hm
    rw [get?_rename hr, get?_rename hr, get?_set]
    simp only [hr.eq_iff]
  · rw [not_exists] at hm
    rw [get?_rename_of_ne _ hm, get?_rename_of_ne _ hm, if_neg (hm name)]

end Bindings

/-! ## scripts -/

section
variable (r : String → String)

def Ident.rename (x : Ident) : Ident := ⟨r x.name, x.span⟩

def Expr.rename : Expr → Expr
  | .number v s => .number v s
  | .var x s => .var (x.rename r) s
  | .binary op lhs rhs s => .binary op lhs.rename rhs.rename s

def Statement.rename : Statement → Statement
  | .assign x e => .assign (x.rename r) (e.rename r)
  | .call f args => .call f (args.map (Expr.rename r))

def Script.rename (s : Script) : Script := ⟨s.name, s.body.map (Statement.rename r)⟩

/-! ## runs -/

def RuntimeError.Kind.rename : RuntimeError.Kind → RuntimeError.Kind
  | .unknownFunction name => .unknownFunction name
  | .unknownVariable name => .unknownVariable (r name)

def RuntimeError.rename (err : RuntimeError) : RuntimeError := ⟨err.kind.rename r, err.span⟩

def Effect.rename : Effect → Effect
  | .assign name v => .assign (r name) v
  | .call c => .call c

def Run.rename (run : Run) : Run :=
  ⟨run.env.rename r, run.calls, run.failure.map (RuntimeError.rename r)⟩

end

theorem both_mapError {ε δ α β γ : Type} (g : ε → δ) (f : α → β → γ) (x : Except ε α)
    (y : Except ε β) : both f (x.mapError g) (y.mapError g) = (both f x y).mapError g := by
  cases x with
  | error err => rfl
  | ok a => cases y <;> rfl

section
variable (hr : Function.Injective r) (ops : Arithmetic) (known : String → Bool) (env : Environment)
include hr

theorem Expr.eval_rename (e : Expr) :
    (e.rename r).eval ops (env.rename r) = (e.eval ops env).mapError (RuntimeError.rename r) := by
  induction e with
  | number v s => rfl
  | var x s =>
    have hx : (env.rename r).get? (x.rename r).name = env.get? x.name := env.get?_rename hr x.name
    rw [rename, eval, eval, hx]
    cases env.get? x.name <;> rfl
  | binary op lhs rhs s ihl ihr => rw [rename, eval_binary, eval_binary, ihl, ihr, both_mapError]

theorem Expr.evalAll_rename (es : List Expr) :
    evalAll ops (env.rename r) (es.map (rename r))
      = (evalAll ops env es).mapError (RuntimeError.rename r) := by
  induction es with
  | nil => rfl
  | cons e es ih =>
    rw [List.map_cons, evalAll_cons, evalAll_cons, e.eval_rename hr, ih, both_mapError]

theorem Statement.effect_rename (st : Statement) :
    (st.rename r).effect ops known (env.rename r)
      = ((st.effect ops known env).map (Effect.rename r)).mapError (RuntimeError.rename r) := by
  cases st with
  | assign x e =>
    rw [rename, effect, effect, e.eval_rename hr]
    cases e.eval ops env <;> rfl
  | call f args =>
    rw [rename, effect, effect, Expr.evalAll_rename hr]
    cases Expr.evalAll ops env args with
    | error err => rfl
    | ok vs =>
      by_cases hf : known f.name = true
      · simp only [hf]
        rfl
      · simp only [hf]
        rfl

theorem Effect.apply_rename (eff : Effect) :
    (eff.rename r).apply (env.rename r) = (eff.apply env).rename r := by
  cases eff with
  | assign name v => exact (Bindings.rename_set hr env name v).symm
  | call c => rfl

/-- **A run is the same under the new names.** -/
theorem Run.ofBody_rename (body : List Statement) :
    ofBody ops known (body.map (Statement.rename r)) (env.rename r)
      = (ofBody ops known body env).rename r := by
  induction body generalizing env with
  | nil => rfl
  | cons st rest ih =>
    have hst := st.effect_rename hr ops known env
    rw [List.map_cons]
    cases heff : st.effect ops known env with
    | error err =>
      rw [heff] at hst
      rw [ofBody_cons_of_error heff, ofBody_cons_of_error hst]
      rfl
    | ok eff =>
      rw [heff] at hst
      have hcalls : (eff.rename r).calls = eff.calls := by cases eff <;> rfl
      rw [ofBody_cons_of_ok heff, ofBody_cons_of_ok hst, eff.apply_rename hr, ih, hcalls]
      rfl

end

/-- **Variables may have any names, those of functions too.**  A script whose variables have new
names, run from variables with these names, makes the same calls and leaves the same variables
under their new names.  It fails if and only if the script failed, at the same place: at the new
name of a variable, or at the same function. -/
theorem Script.run_renamed (hr : Function.Injective r) (ops : Arithmetic) (known : String → Bool)
    (s : Script) (env : Environment) :
    (∀ n, (env.rename r).get? (r n) = env.get? n) ∧
    (∀ m, (∀ n, r n ≠ m) → (env.rename r).get? m = none) ∧
    ((s.rename r).run ops known (env.rename r)).calls = (s.run ops known env).calls ∧
    ((s.rename r).run ops known (env.rename r)).env = (s.run ops known env).env.rename r ∧
    (((s.rename r).run ops known (env.rename r)).failure = none ↔
      (s.run ops known env).failure = none) ∧
    (∀ n span, (s.run ops known env).failure = some ⟨.unknownVariable n, span⟩ →
      ((s.rename r).run ops known (env.rename r)).failure
        = some ⟨.unknownVariable (r n), span⟩) ∧
    ∀ f span, (s.run ops known env).failure = some ⟨.unknownFunction f, span⟩ →
      ((s.rename r).run ops known (env.rename r)).failure = some ⟨.unknownFunction f, span⟩ := by
  have hrun : (s.rename r).run ops known (env.rename r) = (s.run ops known env).rename r :=
    Run.ofBody_rename hr ops known env s.body
  refine ⟨env.get?_rename hr, fun m hm => env.get?_rename_of_ne hm, ?_⟩
  rw [hrun]
  refine ⟨rfl, rfl, Option.map_eq_none_iff, fun n span h => ?_, fun f span h => ?_⟩
  · show (s.run ops known env).failure.map _ = _
    rw [h]
    rfl
  · show (s.run ops known env).failure.map _ = _
    rw [h]
    rfl

/-- With `x` and `print` swapped, `x = 1; print(x);` assigns to a variable `print` and then calls
the function `print` with it. -/
theorem Script.run_renamed_print :
    let one : Number := ⟨0x3FF0000000000000⟩
    let at0 (name : String) : Ident := ⟨name, ⟨0, 0⟩⟩
    let assignAndPrint (name : String) : Script := ⟨at0 "f",
      [.assign (at0 name) (.number one ⟨0, 0⟩), .call (at0 "print") [.var (at0 name) ⟨0, 0⟩]]⟩
    let swap := Equiv.swap "x" "print"
    (assignAndPrint "x").rename swap = assignAndPrint "print" ∧ ∀ ops,
      let run := (assignAndPrint "print").run ops (· == "print") (Bindings.empty.rename swap)
      run.calls = [⟨"print", [one]⟩] ∧ run.env.get? "print" = some one ∧ run.failure = none := by
  intro one at0 assignAndPrint swap
  have hrename : (assignAndPrint "x").rename swap = assignAndPrint "print" := by
    have hx : swap "x" = "print" := Equiv.swap_apply_left "x" "print"
    simp only [assignAndPrint, rename, Statement.rename, Expr.rename, Ident.rename, List.map_cons,
      List.map_nil, at0, hx]
  refine ⟨hrename, fun ops => ?_⟩
  obtain ⟨-, -, hcalls, henv, hfailure, -, -⟩ :=
    run_renamed swap.injective ops (· == "print") (assignAndPrint "x") .empty
  rw [hrename] at hcalls henv hfailure
  refine ⟨hcalls.trans rfl, ?_, hfailure.mpr rfl⟩
  rw [henv]
  exact (Bindings.get?_rename swap.injective _ "x").trans rfl

end Scriptlet
