import Scriptlet.Proofs.Evaluation.Definedness

/-!
# Reads: a run depends on the variables that it reads before it assigns them

Two environments need not be equal for a body to run alike from both.  What a statement reads after
an earlier one assigned it comes from the run itself.

* `ReadFirst`                a name that some statement reads and no earlier one assigns;
* `Agree.step`               one statement: it has the same effect in both environments, and they
                             still agree where the later statements need it;
* `Run.ofBody_of_agree`      a run: the same calls and the same failure, by induction on the
                             statements;
* `Run.get?_of_agree`        the names that the run assigned end with the same value;
* `Run.get?_of_not_assigned` all others keep what they had;
* `Script.run_of_agree`      the three together.
-/

namespace Scriptlet

/-! ## what statements read and assign -/

namespace Statement

def Reads (n : String) (st : Statement) : Prop := ∃ x ∈ st.uses, x.name = n

def Assigns (n : String) : Statement → Prop
  | .assign x _ => x.name = n
  | .call _ _ => False

end Statement

/-- A statement reads the name, and no earlier statement assigns it. -/
def ReadFirst (n : String) (body : List Statement) : Prop :=
  ∃ pre st post, body = pre ++ st :: post ∧ st.Reads n ∧ ∀ st' ∈ pre, ¬ st'.Assigns n

theorem readFirst_cons {n : String} {st : Statement} {rest : List Statement} :
    ReadFirst n (st :: rest) ↔ st.Reads n ∨ ¬ st.Assigns n ∧ ReadFirst n rest := by
  constructor
  · rintro ⟨pre, st', post, h, hreads, hpre⟩
    cases pre with
    | nil =>
      cases h
      exact .inl hreads
    | cons st'' pre =>
      cases h
      obtain ⟨hst, hpre⟩ := List.forall_mem_cons.mp hpre
      exact .inr ⟨hst, pre, st', post, rfl, hreads, hpre⟩
  · rintro (hreads | ⟨hst, pre, st', post, rfl, hreads, hpre⟩)
    · exact ⟨[], st, rest, rfl, hreads, List.forall_mem_nil _⟩
    · exact ⟨st :: pre, st', post, rfl, hreads, List.forall_mem_cons.mpr ⟨hst, hpre⟩⟩

/-! ## what a run executes -/

section
variable (ops : Arithmetic) (known : String → Bool)

/-- A run of the body comes to the statement, and the statement does not fail. -/
inductive Executed : List Statement → Environment → Statement → Prop
  | here {st : Statement} {rest : List Statement} {env : Environment} {eff : Effect}
      (h : st.effect ops known env = .ok eff) : Executed (st :: rest) env st
  | later {st st' : Statement} {rest : List Statement} {env : Environment} {eff : Effect}
      (h : st.effect ops known env = .ok eff) (hrest : Executed rest (eff.apply env) st') :
      Executed (st :: rest) env st'

def Assigned (body : List Statement) (env : Environment) (n : String) : Prop :=
  ∃ st, Executed ops known body env st ∧ st.Assigns n

end

/-! ## the same values -/

section
variable {ops : Arithmetic} {known : String → Bool} {env env' : Environment}

theorem Expr.eval_congr {e : Expr} (h : ∀ x ∈ e.vars, env.get? x.name = env'.get? x.name) :
    e.eval ops env = e.eval ops env' := by
  induction e with
  | number v s => rfl
  | var x s => rw [eval, eval, h x (List.mem_singleton_self x)]
  | binary op l r s ihl ihr =>
    obtain ⟨hl, hr⟩ := List.forall_mem_append.mp h
    rw [eval_binary, eval_binary, ihl hl, ihr hr]

theorem Expr.evalAll_congr {es : List Expr}
    (h : ∀ x ∈ es.flatMap vars, env.get? x.name = env'.get? x.name) :
    evalAll ops env es = evalAll ops env' es := by
  induction es with
  | nil => rfl
  | cons e es ih =>
    rw [List.flatMap_cons] at h
    obtain ⟨he, hes⟩ := List.forall_mem_append.mp h
    rw [evalAll_cons, evalAll_cons, eval_congr he, ih hes]

theorem Statement.effect_congr {st : Statement}
    (h : ∀ x ∈ st.uses, env.get? x.name = env'.get? x.name) :
    st.effect ops known env = st.effect ops known env' := by
  cases st with
  | assign x e => rw [effect, effect, Expr.eval_congr h]
  | call f args => rw [effect, effect, Expr.evalAll_congr h]

/-- An assignment puts its value into the variables, and a call leaves them. -/
theorem Statement.get?_apply {st : Statement} {eff : Effect}
    (h : st.effect ops known env = .ok eff) (n : String) :
    (st.Assigns n → ∃ v, ∀ other : Environment, (eff.apply other).get? n = some v) ∧
    (¬ st.Assigns n → ∀ other : Environment, (eff.apply other).get? n = other.get? n) := by
  cases st with
  | assign x e =>
    rw [effect] at h
    split at h
    · cases h
    · rename_i v hv
      cases h
      refine ⟨fun hn => ⟨v, fun other => ?_⟩, fun hn other => Bindings.get?_set_of_ne other v hn⟩
      cases hn
      exact other.get?_set_self x.name v
  | call f args =>
    rw [effect] at h
    split at h
    · cases h
    · split at h
      · cases h
        exact ⟨False.elim, fun _ _ => rfl⟩
      · cases h

end

/-! ## two runs -/

/-- The environments give the same for every name that the body reads first. -/
def Agree (body : List Statement) (env env' : Environment) : Prop :=
  ∀ n, ReadFirst n body → env.get? n = env'.get? n

section
variable {ops : Arithmetic} {known : String → Bool} {env env' : Environment} {st : Statement}
  {rest body : List Statement}

theorem Agree.symm (h : Agree body env env') : Agree body env' env :=
  fun n hn => (h n hn).symm

theorem Agree.effect_eq (h : Agree (st :: rest) env env') :
    st.effect ops known env = st.effect ops known env' :=
  Statement.effect_congr fun x hx => h x.name (readFirst_cons.mpr (.inl ⟨x, hx, rfl⟩))

/-- **One statement has the same effect, and leaves environments that agree.** -/
theorem Agree.step (h : Agree (st :: rest) env env') {eff : Effect}
    (heff : st.effect ops known env = .ok eff) :
    st.effect ops known env' = .ok eff ∧ Agree rest (eff.apply env) (eff.apply env') := by
  refine ⟨h.effect_eq.symm.trans heff, fun n hn => ?_⟩
  obtain ⟨hassigned, hkept⟩ := Statement.get?_apply heff n
  by_cases hst : st.Assigns n
  · obtain ⟨v, hv⟩ := hassigned hst
    rw [hv env, hv env']
  · rw [hkept hst env, hkept hst env']
    exact h n (readFirst_cons.mpr (.inr ⟨hst, hn⟩))

theorem Executed.of_agree {st : Statement} (hst : Executed ops known body env st)
    (h : Agree body env env') : Executed ops known body env' st := by
  induction hst generalizing env' with
  | here heff => exact .here (h.step heff).1
  | later heff _ ih =>
    obtain ⟨heff', hrest⟩ := h.step heff
    exact .later heff' (ih hrest)

theorem assigned_iff_of_agree (h : Agree body env env') (n : String) :
    Assigned ops known body env n ↔ Assigned ops known body env' n :=
  ⟨fun ⟨st, hst, hn⟩ => ⟨st, hst.of_agree h, hn⟩,
    fun ⟨st, hst, hn⟩ => ⟨st, hst.of_agree h.symm, hn⟩⟩

namespace Run

/-- **The same calls and the same failure.** -/
theorem ofBody_of_agree (h : Agree body env env') :
    (ofBody ops known body env).failure = (ofBody ops known body env').failure ∧
      (ofBody ops known body env).calls = (ofBody ops known body env').calls := by
  induction body generalizing env env' with
  | nil => exact ⟨rfl, rfl⟩
  | cons st rest ih =>
    cases heff : st.effect ops known env with
    | error err =>
      rw [ofBody_cons_of_error heff, ofBody_cons_of_error (h.effect_eq.symm.trans heff)]
      exact ⟨rfl, rfl⟩
    | ok eff =>
      obtain ⟨heff', hrest⟩ := h.step heff
      obtain ⟨hfailure, hcalls⟩ := ih hrest
      rw [ofBody_cons_of_ok heff, ofBody_cons_of_ok heff']
      exact ⟨hfailure, congrArg (eff.calls ++ ·) hcalls⟩

/-- **Where the run assigns a name, or both had the same for it, it ends with the same value.** -/
theorem get?_of_agree (h : Agree body env env') {n : String}
    (hn : Assigned ops known body env n ∨ env.get? n = env'.get? n) :
    (ofBody ops known body env).env.get? n = (ofBody ops known body env').env.get? n := by
  induction body generalizing env env' with
  | nil =>
    rcases hn with ⟨st, hst, -⟩ | hn
    · cases hst
    · exact hn
  | cons st rest ih =>
    cases heff : st.effect ops known env with
    | error err =>
      rw [ofBody_cons_of_error heff, ofBody_cons_of_error (h.effect_eq.symm.trans heff)]
      rcases hn with ⟨st', hst', -⟩ | hn
      · cases hst' with
        | here h' => cases heff.symm.trans h'
        | later h' _ => cases heff.symm.trans h'
      · exact hn
    | ok eff =>
      obtain ⟨heff', hrest⟩ := h.step heff
      rw [ofBody_cons_of_ok heff, ofBody_cons_of_ok heff']
      refine ih hrest ?_
      obtain ⟨hassigned, hkept⟩ := Statement.get?_apply heff n
      by_cases hst : st.Assigns n
      · obtain ⟨v, hv⟩ := hassigned hst
        exact .inr ((hv env).trans (hv env').symm)
      · rcases hn with ⟨st', hst', hn⟩ | hn
        · cases hst' with
          | here _ => exact absurd hn hst
          | later h' hlater =>
            cases heff.symm.trans h'
            exact .inl ⟨st', hlater, hn⟩
        · exact .inr ((hkept hst env).trans (hn.trans (hkept hst env').symm))

/-- **A name that the run does not assign keeps what it had.** -/
theorem get?_of_not_assigned {n : String} (hn : ¬ Assigned ops known body env n) :
    (ofBody ops known body env).env.get? n = env.get? n := by
  induction body generalizing env with
  | nil => rfl
  | cons st rest ih =>
    cases heff : st.effect ops known env with
    | error err => rw [ofBody_cons_of_error heff]
    | ok eff =>
      have hst : ¬ st.Assigns n := fun hst => hn ⟨st, .here heff, hst⟩
      have hrest : ¬ Assigned ops known rest (eff.apply env) n :=
        fun ⟨st', hst', hn'⟩ => hn ⟨st', .later heff hst', hn'⟩
      rw [ofBody_cons_of_ok heff]
      exact (ih hrest).trans ((Statement.get?_apply heff n).2 hst env)

end Run

end

/-- **A run depends only on the variables that it reads before it assigns them.**  From environments
that agree on these it makes the same calls, fails alike, and executes the same statements.  A name
that one of them assigned then has the same value in both; every other name has, in each, what it
had there before. -/
theorem Script.run_of_agree {s : Script} {env env' : Environment}
    (h : ∀ n, ReadFirst n s.body → env.get? n = env'.get? n) (ops : Arithmetic)
    (known : String → Bool) :
    (s.run ops known env).failure = (s.run ops known env').failure ∧
    (s.run ops known env).calls = (s.run ops known env').calls ∧
    (∀ st, Executed ops known s.body env st ↔ Executed ops known s.body env' st) ∧
    (∀ n, Assigned ops known s.body env n →
      (s.run ops known env).env.get? n = (s.run ops known env').env.get? n) ∧
    ∀ n, ¬ Assigned ops known s.body env n →
      (s.run ops known env).env.get? n = env.get? n ∧
      (s.run ops known env').env.get? n = env'.get? n := by
  have hagree : Agree s.body env env' := h
  have hrun : (s.run ops known env).failure = (s.run ops known env').failure ∧
      (s.run ops known env).calls = (s.run ops known env').calls := Run.ofBody_of_agree hagree
  obtain ⟨hfailure, hcalls⟩ := hrun
  refine ⟨hfailure, hcalls, fun st => ⟨fun hst => hst.of_agree hagree,
    fun hst => hst.of_agree hagree.symm⟩, fun n hn => Run.get?_of_agree hagree (.inl hn),
    fun n hn => ⟨Run.get?_of_not_assigned hn, Run.get?_of_not_assigned fun hn' => hn ?_⟩⟩
  exact (assigned_iff_of_agree hagree n).mpr hn'

/-- `x = y; print(x);` does not depend on `x`: where `x` is zero and `y` is one at the start, it
prints one and leaves it in `x`, as it does with no `x`. -/
theorem Script.run_of_agree_overwritten :
    let at0 (name : String) : Ident := ⟨name, ⟨0, 0⟩⟩
    let var0 (name : String) : Expr := .var (at0 name) ⟨0, 0⟩
    let s : Script := ⟨at0 "f", [.assign (at0 "x") (var0 "y"), .call (at0 "print") [var0 "x"]]⟩
    let one : Number := ⟨0x3FF0000000000000⟩
    let env : Environment := Bindings.empty.set "y" one
    let env' : Environment := env.set "x" ⟨0⟩
    (∀ n, ReadFirst n s.body → env.get? n = env'.get? n) ∧ ∀ ops,
      (s.run ops (· == "print") env').calls = [⟨"print", [one]⟩] ∧
      (s.run ops (· == "print") env').env.get? "x" = some one := by
  intro at0 var0 s one env env'
  have hread : ∀ n, ReadFirst n s.body → env.get? n = env'.get? n := by
    intro n hn
    refine (env.get?_set_of_ne ⟨0⟩ ?_).symm
    rintro rfl
    rcases readFirst_cons.mp hn with ⟨x, hx, hname⟩ | ⟨hx, -⟩
    · cases List.mem_singleton.mp hx
      exact absurd hname (by decide)
    · exact hx rfl
  refine ⟨hread, fun ops => ?_⟩
  obtain ⟨-, hcalls, -, hassigned, -⟩ := run_of_agree hread ops (· == "print")
  have hassign : (Statement.assign (at0 "x") (var0 "y")).effect ops (· == "print") env
      = .ok (.assign "x" one) := rfl
  have hprint : (Statement.call (at0 "print") [var0 "x"]).effect ops (· == "print")
      (env.set "x" one) = .ok (.call ⟨"print", [one]⟩) := by
    rw [Statement.effect, Expr.evalAll_cons, Expr.eval, env.get?_set_self]
    rfl
  have hrun : s.run ops (· == "print") env = ⟨env.set "x" one, [⟨"print", [one]⟩], none⟩ := by
    rw [run, Run.ofBody_cons_of_ok hassign]
    exact congrArg (Run.after []) (Run.ofBody_cons_of_ok hprint [])
  rw [hrun] at hcalls hassigned
  refine ⟨hcalls.symm, (hassigned "x" ⟨_, .here hassign, rfl⟩).symm.trans ?_⟩
  exact env.get?_set_self "x" one

end Scriptlet
