import Scriptlet.Proofs.Script.Twins

/-!
# Spanless evaluation: the spans of a script decide nothing

Twins have equal values, effects and runs.  Where they fail, they do so at names whose spans
correspond.

* `Expr.Twin.eval`, `Statement.Twin.effect`  by induction on the expression, one case a statement;
* `Script.Twin.run`                          by induction on the statements.
-/

namespace Scriptlet

variable {R : Span → Span → Prop} (ops : Arithmetic) (known : String → Bool) (env : Environment)

theorem Expr.Twin.eval {e e' : Expr} (h : e.Twin R e') :
    Both (RuntimeError.Twin R) Eq (e.eval ops env) (e'.eval ops env) := by
  induction h with
  | number v s s' => exact .ok rfl
  | @var x y hx s s' =>
    rw [Expr.eval, Expr.eval, hx.name]
    cases env.get? y.name with
    | some v => exact .ok rfl
    | none => exact .error ⟨rfl, hx.span⟩
  | binary op _ _ s s' ihl ihr =>
    rw [Expr.eval, Expr.eval]
    obtain ⟨a, hl, hl'⟩ | ⟨err, err', hl, hl', herr⟩ := ihl.eq_cases
    · obtain ⟨b, hr, hr'⟩ | ⟨err, err', hr, hr', herr⟩ := ihr.eq_cases
      · rw [hl, hl', hr, hr']
        exact .ok rfl
      · rw [hl, hl', hr, hr']
        exact .error herr
    · rw [hl, hl']
      exact .error herr

theorem evalAll_twin {es es' : List Expr} (h : List.Forall₂ (Expr.Twin R) es es') :
    Both (RuntimeError.Twin R) Eq (Expr.evalAll ops env es) (Expr.evalAll ops env es') := by
  induction h with
  | nil => exact .ok rfl
  | cons he _ ih =>
    rw [Expr.evalAll, Expr.evalAll]
    obtain ⟨v, hv, hv'⟩ | ⟨err, err', hv, hv', herr⟩ := (he.eval ops env).eq_cases
    · obtain ⟨vs, hvs, hvs'⟩ | ⟨err, err', hvs, hvs', herr⟩ := ih.eq_cases
      · rw [hv, hv', hvs, hvs']
        exact .ok rfl
      · rw [hv, hv', hvs, hvs']
        exact .error herr
    · rw [hv, hv']
      exact .error herr

theorem Statement.Twin.effect {st st' : Statement} (h : st.Twin R st') :
    Both (RuntimeError.Twin R) Eq (st.effect ops known env) (st'.effect ops known env) := by
  cases h with
  | assign hx he =>
    rw [Statement.effect, Statement.effect, hx.name]
    obtain ⟨v, hv, hv'⟩ | ⟨err, err', hv, hv', herr⟩ := (he.eval ops env).eq_cases
    · rw [hv, hv']
      exact .ok rfl
    · rw [hv, hv']
      exact .error herr
  | @call f g args args' hf hargs =>
    rw [Statement.effect, Statement.effect, hf.name]
    obtain ⟨vs, hvs, hvs'⟩ | ⟨err, err', hvs, hvs', herr⟩ := (evalAll_twin ops env hargs).eq_cases
    · rw [hvs, hvs']
      by_cases hg : known g.name = true
      · simp only [if_pos hg]
        exact .ok rfl
      · simp only [if_neg hg]
        exact .error ⟨rfl, hf.span⟩
    · rw [hvs, hvs']
      exact .error herr

/-- runs that end with equal variables after equal calls, and fail alike -/
structure Run.Twin (R : Span → Span → Prop) (run run' : Run) : Prop where
  env : run.env = run'.env
  calls : run.calls = run'.calls
  failure : Option.Rel (RuntimeError.Twin R) run.failure run'.failure

theorem ofBody_twin {body body' : List Statement} (h : List.Forall₂ (Statement.Twin R) body body') :
    (Run.ofBody ops known body env).Twin R (Run.ofBody ops known body' env) := by
  induction h generalizing env with
  | nil => exact ⟨rfl, rfl, .none⟩
  | cons hst _ ih =>
    rw [Run.ofBody, Run.ofBody]
    obtain ⟨eff, heff, heff'⟩ | ⟨err, err', heff, heff', herr⟩ :=
      (hst.effect ops known env).eq_cases
    · rw [heff, heff']
      cases eff with
      | assign name v => exact ih (env.set name v)
      | call c =>
        have hrest := ih env
        exact ⟨hrest.env, congrArg (c :: ·) hrest.calls, hrest.failure⟩
    · rw [heff, heff']
      exact ⟨rfl, rfl, .some herr⟩

/-- **Twins run alike.** -/
theorem Script.Twin.run {s s' : Script} (h : s.Twin R s') :
    (s.run ops known env).Twin R (s'.run ops known env) := ofBody_twin ops known env h.body

end Scriptlet
