import Scriptlet.Engine

/-!
# Composition: a run is the runs of its parts, one after the other, up to the first that fails

* `Run.ofBody_append`  a body in two parts: the second one runs only if the first one did not fail;
* `Run.exists_split`   where a run failed: before the failing statement all went well, and this
                       statement has no effect;
* `Run.StopsAt`        the run ends in its statement number `k`, which does nothing;
* `Script.run_stops`   a run that fails stops at one statement, and a text that is no script has no
                       effect.
-/

namespace Scriptlet

/-! ## effects -/

namespace Effect

def apply (env : Environment) : Effect → Environment
  | .assign name v => env.set name v
  | .call _ => env

def calls : Effect → List Call
  | .assign _ _ => []
  | .call c => [c]

end Effect

namespace Run

def after (cs : List Call) (r : Run) : Run := { r with calls := cs ++ r.calls }

/-- One run, and then another one from where it ended, if it did not fail. -/
def andThen (r : Run) (f : Environment → Run) : Run :=
  match r.failure with
  | some _ => r
  | none => (f r.env).after r.calls

theorem andThen_of_failure {r : Run} {err : RuntimeError} (h : r.failure = some err)
    (f : Environment → Run) : r.andThen f = r := by
  unfold andThen
  rw [h]

theorem andThen_of_none {r : Run} (h : r.failure = none) (f : Environment → Run) :
    r.andThen f = (f r.env).after r.calls := by
  unfold andThen
  rw [h]

theorem andThen_after (cs : List Call) (r : Run) (f : Environment → Run) :
    (r.after cs).andThen f = (r.andThen f).after cs := by
  cases h : r.failure with
  | some err => rw [andThen_of_failure h, andThen_of_failure (r := r.after cs) h]
  | none =>
    rw [andThen_of_none h, andThen_of_none (r := r.after cs) h]
    show (f r.env).after (cs ++ r.calls) = ((f r.env).after r.calls).after cs
    unfold after
    rw [List.append_assoc]

section
variable {ops : Arithmetic} {known : String → Bool} {env : Environment} {err : RuntimeError}
  {st : Statement} {body pre : List Statement}

theorem ofBody_cons_of_error (h : st.effect ops known env = .error err) (rest : List Statement) :
    ofBody ops known (st :: rest) env = ⟨env, [], some err⟩ := by
  rw [ofBody, h]

theorem ofBody_cons_of_ok {eff : Effect} (h : st.effect ops known env = .ok eff)
    (rest : List Statement) :
    ofBody ops known (st :: rest) env
      = (ofBody ops known rest (eff.apply env)).after eff.calls := by
  rw [ofBody, h]
  cases eff with
  | assign name v => rfl
  | call c => rfl

theorem ofBody_append (a b : List Statement) (env : Environment) :
    ofBody ops known (a ++ b) env = (ofBody ops known a env).andThen (ofBody ops known b) := by
  induction a generalizing env with
  | nil => rfl
  | cons st a ih =>
    rw [List.cons_append]
    cases hst : st.effect ops known env with
    | error err =>
      rw [ofBody_cons_of_error hst, ofBody_cons_of_error hst]
      rfl
    | ok eff => rw [ofBody_cons_of_ok hst, ofBody_cons_of_ok hst, andThen_after, ih]

/-- A part from the start does not fail if the whole does not. -/
theorem failure_of_append {a b : List Statement}
    (h : (ofBody ops known (a ++ b) env).failure = none) :
    (ofBody ops known a env).failure = none := by
  rw [ofBody_append] at h
  cases ha : (ofBody ops known a env).failure with
  | none => rfl
  | some err =>
    rw [andThen_of_failure ha, ha] at h
    exact h

/-- After statements that went well, a statement that fails ends the run and changes nothing. -/
theorem ofBody_of_error (hpre : (ofBody ops known pre env).failure = none)
    (hst : st.effect ops known (ofBody ops known pre env).env = .error err)
    (post : List Statement) :
    ofBody ops known (pre ++ st :: post) env
      = ⟨(ofBody ops known pre env).env, (ofBody ops known pre env).calls, some err⟩ := by
  rw [ofBody_append, andThen_of_none hpre, ofBody_cons_of_error hst]
  show Run.mk _ (_ ++ []) _ = _
  rw [List.append_nil]

theorem exists_split (h : (ofBody ops known body env).failure = some err) :
    ∃ pre st post, body = pre ++ st :: post ∧ (ofBody ops known pre env).failure = none ∧
      st.effect ops known (ofBody ops known pre env).env = .error err := by
  induction body generalizing env with
  | nil => cases h
  | cons st rest ih =>
    cases hst : st.effect ops known env with
    | error err' =>
      rw [ofBody_cons_of_error hst] at h
      cases h
      exact ⟨[], st, rest, rfl, rfl, hst⟩
    | ok eff =>
      rw [ofBody_cons_of_ok hst] at h
      obtain ⟨pre, st', post, rfl, hpre, hst'⟩ := ih h
      have hcons := ofBody_cons_of_ok hst pre
      exact ⟨st :: pre, st', post, rfl, by rw [hcons]; exact hpre, by rw [hcons]; exact hst'⟩

end

/-! ## where a run stops -/

section
variable (ops : Arithmetic) (known : String → Bool) (body : List Statement) (env : Environment)

/-- The first `k` statements alone do not fail, and with one more they do. -/
def BreaksAt (k : Nat) : Prop :=
  (ofBody ops known (body.take k) env).failure = none ∧
    (ofBody ops known (body.take (k + 1)) env).failure ≠ none

/-- The run breaks at `k` and nowhere else, with the error; it leaves what the first `k` statements
leave, and what comes later does not matter. -/
structure StopsAt (err : RuntimeError) (k : Nat) : Prop where
  breaks : ∀ j, BreaksAt ops known body env j ↔ j = k
  failure : (ofBody ops known (body.take (k + 1)) env).failure = some err
  env_eq : (ofBody ops known body env).env = (ofBody ops known (body.take k) env).env
  calls_eq : (ofBody ops known body env).calls = (ofBody ops known (body.take k) env).calls
  later : ∀ rest, ofBody ops known (body.take (k + 1) ++ rest) env = ofBody ops known body env

end

section
variable {ops : Arithmetic} {known : String → Bool} {body : List Statement} {env : Environment}

theorem failure_of_take_le {j k : Nat} (hjk : j ≤ k)
    (h : (ofBody ops known (body.take k) env).failure = none) :
    (ofBody ops known (body.take j) env).failure = none := by
  have htake := List.take_append_drop j (body.take k)
  rw [List.take_take, Nat.min_eq_left hjk] at htake
  rw [← htake] at h
  exact failure_of_append h

theorem BreaksAt.unique {j k : Nat} (hj : BreaksAt ops known body env j)
    (hk : BreaksAt ops known body env k) : j = k := by
  have not_lt {i l : Nat} (hi : BreaksAt ops known body env i)
      (hl : BreaksAt ops known body env l) : ¬ i < l :=
    fun hil => hi.2 (failure_of_take_le hil hl.1)
  have hjk := not_lt hj hk
  have hkj := not_lt hk hj
  omega

/-- **A run that fails stops somewhere.** -/
theorem exists_stopsAt {err : RuntimeError} (h : (ofBody ops known body env).failure = some err) :
    ∃ k, StopsAt ops known body env err k := by
  obtain ⟨pre, st, post, rfl, hpre, hst⟩ := exists_split h
  have htake : (pre ++ st :: post).take pre.length = pre := List.take_left
  have htake' : (pre ++ st :: post).take (pre.length + 1) = pre ++ [st] := by
    rw [List.take_length_add_append, List.take_succ_cons, List.take_zero]
  have hrun := ofBody_of_error hpre hst
  have hbreaks : BreaksAt ops known (pre ++ st :: post) env pre.length := by
    unfold BreaksAt
    rw [htake, htake', hrun []]
    exact ⟨hpre, nofun⟩
  refine ⟨pre.length, fun j => ⟨fun hj => hj.unique hbreaks, fun hj => hj ▸ hbreaks⟩, ?_, ?_, ?_,
    fun rest => ?_⟩
  · rw [htake', hrun []]
  · rw [htake, hrun post]
  · rw [htake, hrun post]
  · rw [htake', List.append_assoc, hrun post]
    exact hrun rest

end

end Run

def Script.upTo (s : Script) (k : Nat) : Script := ⟨s.name, s.body.take k⟩

/-- **A run that fails stops at one statement: it has the effects of those before it, and no
others.**  An engine has then called its functions as for the statements before alone; for a text
that is no script it calls none. -/
theorem Script.run_stops (text : String) :
    (∀ e, parse text = .error e →
      ∀ {κ : Type} (engine : Engine κ), engine.run text = ⟨.error (.parse e), [], []⟩) ∧
    (∀ s, parse text = .ok s → ∀ ops known env err, (s.run ops known env).failure = some err →
      ∃ k, Run.StopsAt ops known s.body env err k) ∧
    (∀ s, parse text = .ok s →
      ∀ {κ : Type} (engine : Engine κ) (err : ScriptError),
        (engine.run text).result = .error err →
        ∃ e k, err = .runtime e ∧
          Run.StopsAt Operator.apply engine.hasFunction s.body .empty e k ∧
          (engine.run text).log = (engine.runScript (s.upTo k)).log ∧
          (engine.run text).calls = (engine.runScript (s.upTo k)).calls) ∧
    ∀ ops known a b env, Run.ofBody ops known (a ++ b) env
      = (Run.ofBody ops known a env).andThen (Run.ofBody ops known b) := by
  refine ⟨?_, fun s _ ops known env err h => Run.exists_stopsAt h, ?_,
    fun ops known => Run.ofBody_append⟩
  · intro e h κ engine
    unfold Engine.run
    rw [h]
  · intro s hs κ engine err h
    unfold Engine.run at h ⊢
    rw [hs] at h ⊢
    unfold Engine.runScript at h ⊢
    dsimp only at h ⊢
    cases hfailure : (s.run Operator.apply engine.hasFunction .empty).failure with
    | none =>
      rw [hfailure] at h
      cases h
    | some e =>
      rw [hfailure] at h
      cases h
      obtain ⟨k, hk⟩ := Run.exists_stopsAt hfailure
      refine ⟨e, k, rfl, hk, ?_, ?_⟩
      · exact congrArg (List.filterMap engine.logged?) hk.calls_eq
      · exact congrArg (List.filterMap engine.reached?) hk.calls_eq

end Scriptlet
