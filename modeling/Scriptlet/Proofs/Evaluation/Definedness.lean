import Scriptlet.Proofs.Evaluation.Composition
import Scriptlet.Proofs.Evaluation.Variables

/-!
# Definedness: how a run ends is seen from its names, before any value is known

A pass over the statements keeps the set of the names that have a value.  A statement passes if all
its variables are in the set and, when it is a call, its function is known; an assignment adds its
name, after its own variables were looked up.

* `verdict`                  the pass;
* `Statement.effect_hinges`  one statement: it fails with its flaw, or it leaves the names that the
                             pass says;
* `Run.ofBody_verdict`       a run: it leaves the names of the pass, and ends as the pass does;
* `Run.decided_by_names`     so it fails if and only if some statement does not pass, and then with
                             the flaw of the first one.
-/

namespace Scriptlet

/-! ## the pass -/

namespace Statement

def uses : Statement → List Ident
  | .assign _ e => e.vars
  | .call _ args => args.flatMap Expr.vars

def defines (D : Finset String) : Statement → Finset String
  | .assign x _ => insert x.name D
  | .call _ _ => D

/-- the function that is called, if it is not a known one -/
def unknown? (known : String → Bool) : Statement → Option Ident
  | .assign _ _ => none
  | .call f _ => if known f.name then none else some f

/-- Why a statement does not pass: a variable that is not among the names comes before a function
that is not known. -/
def flaw? (known : String → Bool) (D : Finset String) (st : Statement) : Option RuntimeError :=
  ((undefined? D st.uses).map Ident.unknownVariable).or
    ((st.unknown? known).map Ident.unknownFunction)

def Passes (known : String → Bool) (D : Finset String) (st : Statement) : Prop :=
  (∀ x ∈ st.uses, x.name ∈ D) ∧ ∀ f args, st = .call f args → known f.name = true

theorem passes_iff {known : String → Bool} {D : Finset String} {st : Statement} :
    st.Passes known D ↔ st.flaw? known D = none := by
  have hunknown : st.unknown? known = none ↔ ∀ f args, st = .call f args → known f.name = true := by
    cases st with
    | assign x e => simp [unknown?]
    | call f args => simp [unknown?]
  rw [flaw?, Option.or_eq_none_iff, Option.map_eq_none_iff, Option.map_eq_none_iff,
    undefined?_eq_none_iff, hunknown]
  exact Iff.rfl

end Statement

def definedAfter (D : Finset String) (body : List Statement) : Finset String :=
  body.foldl Statement.defines D

/-- Every statement passes, with the names that have a value when its turn comes. -/
def PassAll (known : String → Bool) : Finset String → List Statement → Prop
  | _, [] => True
  | D, st :: rest => st.Passes known D ∧ PassAll known (st.defines D) rest

/-- The pass: the names that have a value where it ends, and why it ends before the last statement,
if it does. -/
def verdict (known : String → Bool) :
    Finset String → List Statement → Finset String × Option RuntimeError
  | D, [] => (D, none)
  | D, st :: rest =>
    match st.flaw? known D with
    | some err => (D, some err)
    | none => verdict known (st.defines D) rest

/-! ## one statement -/

/-- **A statement fails with its flaw; without one it has an effect that leaves the names as the
pass says.** -/
theorem Statement.effect_hinges (ops : Arithmetic) (known : String → Bool) (env : Environment)
    (st : Statement) :
    match st.flaw? known env.domain with
    | some err => st.effect ops known env = .error err
    | none => ∃ eff, st.effect ops known env = .ok eff ∧
        (eff.apply env).domain = st.defines env.domain := by
  cases st with
  | assign x e =>
    have he := e.eval_hinges ops env
    unfold flaw? unknown? uses effect
    dsimp only
    cases hx : undefined? env.domain e.vars with
    | some y =>
      rw [he.error hx]
      rfl
    | none =>
      obtain ⟨v, hv⟩ := he.ok hx
      rw [hv]
      exact ⟨.assign x.name v, rfl, Bindings.domain_set env x.name v⟩
  | call f args =>
    have hargs := Expr.evalAll_hinges ops env args
    unfold flaw? unknown? uses effect
    dsimp only
    cases hx : undefined? env.domain (args.flatMap Expr.vars) with
    | some y =>
      rw [hargs.error hx]
      rfl
    | none =>
      obtain ⟨vs, hvs⟩ := hargs.ok hx
      rw [hvs]
      by_cases hf : known f.name = true
      · simp only [hf, if_true]
        exact ⟨.call ⟨f.name, vs⟩, rfl, rfl⟩
      · simp only [hf]
        rfl

/-! ## all statements -/

/-- **The names that a run leaves and the error that it ends with are those of the pass.** -/
theorem Run.ofBody_verdict (ops : Arithmetic) (known : String → Bool) (body : List Statement)
    (env : Environment) :
    ((ofBody ops known body env).env.domain, (ofBody ops known body env).failure)
      = verdict known env.domain body := by
  induction body generalizing env with
  | nil => rfl
  | cons st rest ih =>
    have hst := st.effect_hinges ops known env
    unfold verdict
    cases hflaw : st.flaw? known env.domain with
    | some err =>
      rw [hflaw] at hst
      rw [ofBody_cons_of_error hst]
    | none =>
      rw [hflaw] at hst
      obtain ⟨eff, heff, hdomain⟩ := hst
      rw [ofBody_cons_of_ok heff, ← hdomain]
      exact ih (eff.apply env)

theorem verdict_of_passAll {known : String → Bool} {D : Finset String} {body : List Statement}
    (h : PassAll known D body) : verdict known D body = (definedAfter D body, none) := by
  induction body generalizing D with
  | nil => rfl
  | cons st rest ih =>
    obtain ⟨hst, hrest⟩ := h
    rw [verdict, Statement.passes_iff.mp hst]
    exact ih hrest

/-- Where not all statements pass, there is a first one that does not. -/
theorem verdict_of_not_passAll {known : String → Bool} {D : Finset String} {body : List Statement}
    (h : ¬ PassAll known D body) :
    ∃ pre st post err, body = pre ++ st :: post ∧ PassAll known D pre ∧
      st.flaw? known (definedAfter D pre) = some err ∧
      verdict known D body = (definedAfter D pre, some err) := by
  induction body generalizing D with
  | nil => exact absurd trivial h
  | cons st rest ih =>
    rw [verdict]
    cases hst : st.flaw? known D with
    | some err => exact ⟨[], st, rest, err, rfl, trivial, hst, rfl⟩
    | none =>
      have hpass := Statement.passes_iff.mpr hst
      obtain ⟨pre, st', post, err, rfl, hpre, hst', hverdict⟩ := ih fun hrest => h ⟨hpass, hrest⟩
      exact ⟨st :: pre, st', post, err, rfl, ⟨hpass, hpre⟩, hst', hverdict⟩

/-! ## what does not matter -/

def Expr.blank : Expr → Expr
  | .number _ s => .number default s
  | .var x s => .var x s
  | .binary op l r s => .binary op l.blank r.blank s

def Statement.blank : Statement → Statement
  | .assign x e => .assign x e.blank
  | .call f args => .call f (args.map Expr.blank)

theorem Expr.vars_blank (e : Expr) : e.blank.vars = e.vars := by
  induction e with
  | number v s => rfl
  | var x s => rfl
  | binary op l r s ihl ihr => rw [blank, vars, vars, ihl, ihr]

theorem Statement.flaw?_blank (known : String → Bool) (D : Finset String) (st : Statement) :
    st.blank.flaw? known D = st.flaw? known D := by
  have huses : st.blank.uses = st.uses := by
    cases st with
    | assign x e => exact e.vars_blank
    | call f args =>
      show (args.map Expr.blank).flatMap Expr.vars = args.flatMap Expr.vars
      rw [List.flatMap_map]
      exact congrArg (fun g => args.flatMap g) (funext Expr.vars_blank)
  have hunknown : st.blank.unknown? known = st.unknown? known := by cases st <;> rfl
  rw [flaw?, flaw?, huses, hunknown]

theorem Statement.defines_blank (D : Finset String) (st : Statement) :
    st.blank.defines D = st.defines D := by
  cases st <;> rfl

theorem verdict_blank (known : String → Bool) (D : Finset String) (body : List Statement) :
    verdict known D (body.map Statement.blank) = verdict known D body := by
  induction body generalizing D with
  | nil => rfl
  | cons st rest ih =>
    rw [List.map_cons, verdict, verdict, st.flaw?_blank, st.defines_blank, ih]

/-! ## the outcome of a run -/

/-- **How a run ends is decided by names alone.**  It does not fail if and only if every statement
passes, and it fails with the flaw of the first one that does not; up to there, the names that have
a value are those of the pass.  No literal, no value at the start and no operation has a part in
it. -/
theorem Run.decided_by_names (ops : Arithmetic) (known : String → Bool) (body : List Statement)
    (env : Environment) :
    ((ofBody ops known body env).failure = none ↔ PassAll known env.domain body) ∧
    (PassAll known env.domain body →
      (ofBody ops known body env).env.domain = definedAfter env.domain body) ∧
    (¬ PassAll known env.domain body →
      ∃ pre st post err, body = pre ++ st :: post ∧ PassAll known env.domain pre ∧
        st.flaw? known (definedAfter env.domain pre) = some err ∧
        (ofBody ops known body env).failure = some err ∧
        (ofBody ops known body env).env.domain = definedAfter env.domain pre) ∧
    ∀ ops' body' env', body'.map Statement.blank = body.map Statement.blank →
      env'.domain = env.domain →
      (ofBody ops' known body' env').failure = (ofBody ops known body env).failure ∧
        (ofBody ops' known body' env').env.domain = (ofBody ops known body env).env.domain := by
  have hrun := ofBody_verdict ops known body env
  have of_verdict {D : Finset String} {failure : Option RuntimeError}
      (h : verdict known env.domain body = (D, failure)) :
      (ofBody ops known body env).env.domain = D ∧
        (ofBody ops known body env).failure = failure := Prod.mk.inj (hrun.trans h)
  refine ⟨⟨fun h => ?_, fun h => (of_verdict (verdict_of_passAll h)).2⟩,
    fun h => (of_verdict (verdict_of_passAll h)).1, fun h => ?_, ?_⟩
  · by_contra hnot
    obtain ⟨_, _, _, err, -, -, -, hverdict⟩ := verdict_of_not_passAll hnot
    rw [(of_verdict hverdict).2] at h
    cases h
  · obtain ⟨pre, st, post, err, hbody, hpre, hflaw, hverdict⟩ := verdict_of_not_passAll h
    obtain ⟨hdomain, hfailure⟩ := of_verdict hverdict
    exact ⟨pre, st, post, err, hbody, hpre, hflaw, hfailure, hdomain⟩
  · intro ops' body' env' hbody hdomain
    have hrun' := ofBody_verdict ops' known body' env'
    rw [hdomain, ← verdict_blank, hbody, verdict_blank, ← hrun] at hrun'
    obtain ⟨hdomain', hfailure'⟩ := Prod.mk.inj hrun'
    exact ⟨hfailure', hdomain'⟩

end Scriptlet
