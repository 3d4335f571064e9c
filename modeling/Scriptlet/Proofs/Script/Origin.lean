import Scriptlet.Proofs.Evaluation.Definedness
import Scriptlet.Proofs.Evaluation.Reckoning

/-!
# Origin: the names of a script are tokens of it, and so is what a run fails at

* `ScriptPhrase.exists_statement`   every statement of a script stands for a stretch of its tokens;
* `StatementPhrase.exists_token`    a variable that a statement looks up is an identifier among its
                                    tokens, wherever there are parentheses around it;
* `ScriptPhrase.failure_pointsAt`   a run that fails does so at an identifier, which its error tells;
                                    where a function is unknown, a parenthesis comes after it.
-/

namespace Scriptlet

open Grammar

/-! ## statements and their names -/

namespace Grammar

variable {lit : Literals}

theorem Repeated.exists_of_mem {α : Type} {D : Phrase α} {us : List Token} {as : List α}
    (has : Repeated D us as) {a : α} (ha : a ∈ as) :
    ∃ pre ts post, us = pre ++ ts ++ post ∧ D ts a := by
  induction has with
  | nil => cases ha
  | @cons ts us b as hb _ ih =>
    obtain rfl | ha := List.mem_cons.mp ha
    · exact ⟨[], ts, us, rfl, hb⟩
    · obtain ⟨pre, ts', post, rfl, hts'⟩ := ih ha
      exact ⟨ts ++ pre, ts', post, by simp only [List.append_assoc], hts'⟩

/-- **Every statement of a script stands for a stretch of its tokens.** -/
theorem ScriptPhrase.exists_statement {us : List Token} {s : Script} (hs : ScriptPhrase lit us s)
    {st : Statement} (hst : st ∈ s.body) :
    ∃ pre ts post, us = pre ++ ts ++ post ∧ StatementPhrase lit ts st := by
  cases hs with
  | @mk function name opening closing brace last ts body _ _ _ _ _ hbody _ =>
    obtain ⟨pre, ts', post, rfl, hts'⟩ := hbody.exists_of_mem hst
    refine ⟨[function, name, opening, closing, brace] ++ pre, ts', post ++ [last], ?_, hts'⟩
    simp only [List.append_assoc, List.cons_append, List.nil_append]

def Among (us : List Token) (x : Ident) : Prop := ∃ t ∈ us, t.kind = .identifier ∧ x = identOf t

theorem Among.append {us : List Token} {x : Ident} (h : Among us x) (pre post : List Token) :
    Among (pre ++ us ++ post) x := by
  obtain ⟨t, ht, hx⟩ := h
  exact ⟨t, List.mem_append_left _ (List.mem_append_right _ ht), hx⟩

theorem ExprPhrase.exists_token {r : Rule} {us : List Token} {e : Expr}
    (h : ExprPhrase lit r us e) : ∀ x ∈ e.vars, Among us x := by
  intro x hx
  rw [h.vars_eq, List.mem_map] at hx
  obtain ⟨t, ht, rfl⟩ := hx
  obtain ⟨ht, hkind⟩ := List.mem_filter.mp ht
  exact ⟨t, ht, of_decide_eq_true hkind, rfl⟩

theorem ArgsPhrase.exists_token {us : List Token} {es : List Expr} (hes : ArgsPhrase lit us es) :
    ∀ x ∈ es.flatMap Expr.vars, Among us x := by
  intro x hmem
  obtain ⟨e, he, hx⟩ := List.mem_flatMap.mp hmem
  cases hes with
  | none => cases he
  | @some ts us d ds hd hds =>
    obtain rfl | he := List.mem_cons.mp he
    · exact (hd.exists_token x hx).append [] us
    · obtain ⟨pre, _, post, rfl, hlater⟩ := hds.exists_of_mem he
      obtain @⟨comma, ts', _, -, he'⟩ := hlater
      have hwhole := (he'.exists_token x hx).append (ts ++ pre ++ [comma]) post
      simpa only [List.append_assoc, List.cons_append, List.nil_append] using hwhole

theorem StatementPhrase.exists_token {us : List Token} {st : Statement}
    (hst : StatementPhrase lit us st) : ∀ x ∈ st.uses, Among us x := by
  intro x hx
  cases hst with
  | @assign var name eq semi ts e _ _ _ he _ =>
    exact (he.exists_token x hx).append [var, name, eq] [semi]
  | @call name opening closing semi ts es _ _ hes _ _ =>
    exact (hes.exists_token x hx).append [name, opening] [closing, semi]

theorem StatementPhrase.exists_call {us : List Token} {f : Ident} {args : List Expr}
    (hst : StatementPhrase lit us (.call f args)) :
    ∃ name opening rest, us = name :: opening :: rest ∧ name.kind = .identifier ∧
      f = identOf name ∧ opening.kind = .symbol '(' := by
  cases hst with
  | call hname hopening => exact ⟨_, _, _, rfl, hname, rfl, hopening⟩

end Grammar

/-! ## failures -/

namespace Statement

variable {ops : Arithmetic} {known : String → Bool} {env : Environment} {st : Statement}
  {err : RuntimeError}

theorem flaw?_of_effect (h : st.effect ops known env = .error err) :
    st.flaw? known env.domain = some err := by
  have hst := st.effect_hinges ops known env
  cases hflaw : st.flaw? known env.domain with
  | some err' =>
    rw [hflaw, h] at hst
    exact congrArg some (Except.error.inj hst).symm
  | none =>
    rw [hflaw, h] at hst
    obtain ⟨eff, heff, -⟩ := hst
    cases heff

/-- A statement fails at a variable that it looks up, or at the function that it calls. -/
theorem eq_of_effect (h : st.effect ops known env = .error err) :
    (∃ x ∈ st.uses, err = x.unknownVariable) ∨
      ∃ f args, st = .call f args ∧ err = f.unknownFunction := by
  obtain hvar | ⟨-, hfunction⟩ := Option.or_eq_some_iff.mp (flaw?_of_effect h)
  · obtain ⟨x, hx, rfl⟩ := Option.map_eq_some_iff.mp hvar
    exact .inl ⟨x, List.mem_of_find?_eq_some hx, rfl⟩
  · obtain ⟨f, hf, rfl⟩ := Option.map_eq_some_iff.mp hfunction
    cases st with
    | assign x e => cases hf
    | call g args =>
      rw [unknown?] at hf
      split at hf
      · cases hf
      · cases hf
        exact .inr ⟨_, args, rfl, rfl⟩

end Statement

/-- The error is about the token, after which the tokens `post` come. -/
structure RuntimeError.PointsAt (err : RuntimeError) (t : Token) (post : List Token) : Prop where
  identifier : t.kind = .identifier
  span_eq : err.span = t.span
  tells : err.kind = .unknownVariable t.text ∨
    err.kind = .unknownFunction t.text ∧ ∃ u rest, post = u :: rest ∧ u.kind = .symbol '('

/-- **A run that fails does so at an identifier among its tokens.** -/
theorem Grammar.ScriptPhrase.failure_pointsAt {lit : Literals} {us : List Token} {s : Script}
    (hs : ScriptPhrase lit us s) {ops : Arithmetic} {known : String → Bool} {env : Environment}
    {err : RuntimeError} (h : (s.run ops known env).failure = some err) :
    ∃ pre t post, us = pre ++ t :: post ∧ err.PointsAt t post := by
  obtain ⟨before, st, after, hbody, -, hst⟩ := Run.exists_split h
  have hmem : st ∈ s.body := by
    rw [hbody]
    exact List.mem_append_right _ List.mem_cons_self
  obtain ⟨pre, ts, post, rfl, hts⟩ := hs.exists_statement hmem
  obtain ⟨x, hx, rfl⟩ | ⟨f, args, rfl, rfl⟩ := Statement.eq_of_effect hst
  · obtain ⟨t, ht, hkind, rfl⟩ := hts.exists_token x hx
    obtain ⟨ts₁, ts₂, rfl⟩ := List.append_of_mem ht
    refine ⟨pre ++ ts₁, t, ts₂ ++ post, ?_, hkind, rfl, .inl rfl⟩
    simp only [List.append_assoc, List.cons_append]
  · obtain ⟨name, opening, rest, rfl, hkind, rfl, hopening⟩ := hts.exists_call
    refine ⟨pre, name, opening :: (rest ++ post), ?_, hkind, rfl, .inr ⟨rfl, _, _, rfl, hopening⟩⟩
    simp only [List.append_assoc, List.cons_append]

end Scriptlet
