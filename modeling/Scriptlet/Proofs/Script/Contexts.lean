import Scriptlet.Proofs.Script.Bare
import Scriptlet.Proofs.Script.Nodes

/-!
# Contexts: scripts with one place left open

A context is a script in which one expression is missing, at any depth; `C.fill e` is the script
with `e` there.  Where tokens stand for `C.fill e`, some of them stand for `e`, and any factor may be
put in their place: an operator next to it takes the whole factor, as it took `e`.

* `Script.mem_nodes_iff`       the nodes of a script are what its contexts can be filled with;
* `ExprPhrase.operation`       the tokens of an operation, with others for its two operands;
* `ExprPhrase.replaceable`     a factor in place of a node of an expression, by induction on the
                               context;
* `ScriptPhrase.replaceable`   so for the nodes of a script.
-/

namespace Scriptlet

/-! ## contexts -/

inductive Expr.Context where
  | hole
  | left (op : Operator) (lhs : Context) (rhs : Expr) (span : Span)
  | right (op : Operator) (lhs : Expr) (rhs : Context) (span : Span)

inductive Statement.Context where
  | assign (target : Ident) (value : Expr.Context)
  | call (function : Ident) (before : List Expr) (arg : Expr.Context) (after : List Expr)

structure Script.Context where
  name : Ident
  before : List Statement
  statement : Statement.Context
  after : List Statement

def Expr.Context.fill : Context → Expr → Expr
  | .hole, e => e
  | .left op lhs rhs s, e => .binary op (lhs.fill e) rhs s
  | .right op lhs rhs s, e => .binary op lhs (rhs.fill e) s

def Statement.Context.fill : Context → Expr → Statement
  | .assign x value, e => .assign x (value.fill e)
  | .call f before arg after, e => .call f (before ++ arg.fill e :: after)

def Script.Context.fill (C : Context) (e : Expr) : Script :=
  ⟨C.name, C.before ++ C.statement.fill e :: C.after⟩

/-! ## nodes -/

theorem Expr.mem_nodes_iff {d e : Expr} : d ∈ e.nodes ↔ ∃ C : Context, e = C.fill d := by
  constructor
  · intro hd
    induction e with
    | number v s => exact ⟨.hole, (List.mem_singleton.mp hd).symm⟩
    | var x s => exact ⟨.hole, (List.mem_singleton.mp hd).symm⟩
    | binary op l r s ihl ihr =>
      obtain rfl | hd | hd := mem_nodes_binary.mp hd
      · exact ⟨.hole, rfl⟩
      · obtain ⟨C, rfl⟩ := ihl hd
        exact ⟨.left op C r s, rfl⟩
      · obtain ⟨C, rfl⟩ := ihr hd
        exact ⟨.right op l C s, rfl⟩
  · rintro ⟨C, rfl⟩
    induction C with
    | hole => exact List.mem_cons_self
    | left op C r s ih => exact mem_nodes_binary.mpr (.inr (.inl ih))
    | right op l C s ih => exact mem_nodes_binary.mpr (.inr (.inr ih))

theorem Statement.mem_nodes_iff {d : Expr} {st : Statement} :
    d ∈ st.nodes ↔ ∃ C : Context, st = C.fill d := by
  constructor
  · intro hd
    cases st with
    | assign x e =>
      obtain ⟨C, rfl⟩ := Expr.mem_nodes_iff.mp hd
      exact ⟨.assign x C, rfl⟩
    | call f args =>
      obtain ⟨e, he, hde⟩ := List.mem_flatMap.mp hd
      obtain ⟨before, after, rfl⟩ := List.append_of_mem he
      obtain ⟨C, rfl⟩ := Expr.mem_nodes_iff.mp hde
      exact ⟨.call f before C after, rfl⟩
  · rintro ⟨C, rfl⟩
    cases C with
    | assign x C => exact Expr.mem_nodes_iff.mpr ⟨C, rfl⟩
    | call f before C after =>
      exact List.mem_flatMap.mpr ⟨C.fill d, List.mem_append_right _ List.mem_cons_self,
        Expr.mem_nodes_iff.mpr ⟨C, rfl⟩⟩

/-- **The nodes of a script are what its contexts can be filled with.** -/
theorem Script.mem_nodes_iff {d : Expr} {s : Script} :
    d ∈ s.nodes ↔ ∃ C : Context, s = C.fill d := by
  constructor
  · intro hd
    obtain ⟨name, body⟩ := s
    obtain ⟨st, hst, hdst⟩ := List.mem_flatMap.mp hd
    obtain ⟨before, after, rfl⟩ := List.append_of_mem hst
    obtain ⟨C, rfl⟩ := Statement.mem_nodes_iff.mp hdst
    exact ⟨⟨name, before, C, after⟩, rfl⟩
  · rintro ⟨C, rfl⟩
    exact List.mem_flatMap.mpr ⟨C.statement.fill d, List.mem_append_right _ List.mem_cons_self,
      Statement.mem_nodes_iff.mpr ⟨C.statement, rfl⟩⟩

/-! ## without spans -/

section
variable {d e : Expr} (h : d.bare = e.bare)
include h

theorem Expr.Context.bare_fill (C : Context) : (C.fill d).bare = (C.fill e).bare := by
  induction C with
  | hole => exact h
  | left op C r s ih => rw [fill, fill, bare, bare, ih]
  | right op l C s ih => rw [fill, fill, bare, bare, ih]

theorem Statement.Context.bare_fill (C : Context) : (C.fill d).bare = (C.fill e).bare := by
  cases C with
  | assign x C => rw [fill, fill, bare, bare, C.bare_fill h]
  | call f before C after =>
    rw [fill, fill, bare, bare, List.map_append, List.map_append, List.map_cons, List.map_cons,
      C.bare_fill h]

theorem Script.Context.bare_fill (C : Context) : (C.fill d).bare = (C.fill e).bare := by
  rw [fill, fill, bare, bare, List.map_append, List.map_append, List.map_cons, List.map_cons,
    C.statement.bare_fill h]

end

namespace Grammar

variable {lit : Literals}

/-! ## factors in place of expressions -/

theorem ExprPhrase.expr_of_rule {r : Rule} {us : List Token} {e : Expr}
    (h : ExprPhrase lit r us e) : ExprPhrase lit .expr us e := by
  cases r with
  | factor => exact h.expr_of_factor
  | chain level => exact h.expr_of_chain

theorem ExprPhrase.rule_of_factor {us : List Token} {e : Expr} (h : ExprPhrase lit .factor us e)
    (r : Rule) : ExprPhrase lit r us e := by
  cases r with
  | factor => exact h
  | chain level => exact (h.operand_of_factor level).chain_of_operand

/-- A stretch of the tokens stands for the expression, and when the tokens of any factor are put in
its place, all of them together are as `P` says of this factor. -/
def Replaceable (lit : Literals) (P : Phrase Expr) : Phrase Expr := fun us e =>
  ∃ pre ts post, us = pre ++ ts ++ post ∧ ExprPhrase lit .expr ts e ∧
    ∀ vs d, ExprPhrase lit .factor vs d → P (pre ++ vs ++ post) d

/-- What the tokens stand for is equal to `fill d` up to spans. -/
def Filled {α : Type} (D : Phrase α) (bare : α → α) (fill : Expr → α) : Phrase Expr :=
  fun us d => ∃ a, D us a ∧ bare a = bare (fill d)

/-- The tokens around a stretch may be any that make a `Q` out of a `P`. -/
theorem Replaceable.wrap {P Q : Phrase Expr} {us us' : List Token} {e : Expr}
    (h : Replaceable lit P us e) (pre post : List Token) (hus : us' = pre ++ us ++ post)
    (hPQ : ∀ ws d, P ws d → Q (pre ++ ws ++ post) d) : Replaceable lit Q us' e := by
  obtain ⟨pre', ts, post', rfl, hts, hP⟩ := h
  subst hus
  refine ⟨pre ++ pre', ts, post' ++ post, by simp only [List.append_assoc], hts, fun vs d hd => ?_⟩
  have hQ := hPQ _ d (hP vs d hd)
  simpa only [List.append_assoc] using hQ

/-- **The tokens of an operation, which may be in parentheses.**  With the tokens of other operands
they are an operation on these. -/
theorem ExprPhrase.operation {r : Rule} {us : List Token} {op : Operator} {a b : Expr} {s : Span}
    (h : ExprPhrase lit r us (.binary op a b s)) :
    ∃ pre ts sign ts' post, us = pre ++ (ts ++ sign :: ts') ++ post ∧
      ExprPhrase lit (.chain op.level) ts a ∧ ExprPhrase lit (.operand op.level) ts' b ∧
      ∀ vs vs' a' b', ExprPhrase lit (.chain op.level) vs a' →
        ExprPhrase lit (.operand op.level) vs' b' →
        ∃ e, ExprPhrase lit r (pre ++ (vs ++ sign :: vs') ++ post) e ∧
          e.bare = (a'.join op b').bare := by
  generalize he : Expr.binary op a b s = e at h
  induction h using ExprPhrase.leftInduction generalizing s with
  | number => cases he
  | var => cases he
  | @group opening closing us e hopening _ hclosing ih =>
    have he' : Expr.binary op a b e.span = e := by
      cases e with
      | number => cases he
      | var => cases he
      | binary op' a' b' s' =>
        cases he
        rfl
    obtain ⟨pre, ts, sign, ts', post, rfl, ha, hb, hput⟩ := ih he'
    refine ⟨opening :: pre, ts, sign, ts', post ++ [closing], by simp, ha, hb, ?_⟩
    intro vs vs' a' b' ha' hb'
    obtain ⟨e, he, hbare⟩ := hput vs vs' a' b' ha' hb'
    have hgroup := ExprPhrase.group hopening he hclosing
    exact ⟨_, by simpa using hgroup, (Expr.bare_withSpan _ e).trans hbare⟩
  | single _ ih =>
    obtain ⟨pre, ts, sign, ts', post, rfl, ha, hb, hput⟩ := ih he
    refine ⟨pre, ts, sign, ts', post, rfl, ha, hb, fun vs vs' a' b' ha' hb' => ?_⟩
    obtain ⟨e, he, hbare⟩ := hput vs vs' a' b' ha' hb'
    exact ⟨e, he.chain_of_operand, hbare⟩
  | @join level us vs a' b' sign op' ha hsign hop hb _ _ =>
    cases he
    subst hop
    refine ⟨[], us, sign, vs, [], by simp, ha, hb, fun vs vs' a' b' ha' hb' => ?_⟩
    exact ⟨_, by simpa using ha'.chain_join hsign rfl hb', rfl⟩

/-- **A factor in place of a node of an expression.** -/
theorem ExprPhrase.replaceable {C : Expr.Context} {r : Rule} {us : List Token} {e : Expr}
    (h : ExprPhrase lit r us (C.fill e)) :
    Replaceable lit (Filled (ExprPhrase lit r) Expr.bare C.fill) us e := by
  induction C generalizing r us with
  | hole =>
    refine ⟨[], us, [], by simp, h.expr_of_rule, fun vs d hd => ⟨d, ?_, rfl⟩⟩
    simpa using hd.rule_of_factor r
  | left op C rhs s ih =>
    obtain ⟨pre, ts, sign, ts', post, rfl, ha, hb, hput⟩ := h.operation
    refine (ih ha).wrap pre (sign :: ts' ++ post) (by simp) fun ws d ⟨a, ha, hbare⟩ => ?_
    obtain ⟨e', he', hbare'⟩ := hput ws ts' a rhs ha hb
    refine ⟨e', by simpa using he', ?_⟩
    rw [hbare', Expr.bare_join, hbare]
    rfl
  | right op lhs C s ih =>
    obtain ⟨pre, ts, sign, ts', post, rfl, ha, hb, hput⟩ := h.operation
    refine (ih hb).wrap (pre ++ ts ++ [sign]) post (by simp) fun ws d ⟨b, hb, hbare⟩ => ?_
    obtain ⟨e', he', hbare'⟩ := hput ts ws lhs b ha hb
    refine ⟨e', by simpa using he', ?_⟩
    rw [hbare', Expr.bare_join, hbare]
    rfl

/-! ## statements and scripts -/

theorem Repeated.replaceable {α : Type} {D : Phrase α} (bare : α → α) (fill : Expr → α) {e : Expr}
    (hD : ∀ us, D us (fill e) → Replaceable lit (Filled D bare fill) us e) {us : List Token}
    {before after : List α} (h : Repeated D us (before ++ fill e :: after)) :
    Replaceable lit (Filled (Repeated D) (List.map bare) fun d => before ++ fill d :: after)
      us e := by
  induction before generalizing us with
  | nil =>
    cases h with
    | @cons ts us _ _ ha has =>
      refine (hD ts ha).wrap [] us rfl fun ws d ⟨a, ha, hbare⟩ => ⟨a :: after, .cons ha has, ?_⟩
      rw [List.map_cons, hbare]
      rfl
  | cons b before ih =>
    cases h with
    | @cons ts us _ _ hb has =>
      refine (ih has).wrap ts [] (by simp) fun ws d ⟨as, has, hbare⟩ => ⟨b :: as, ?_, ?_⟩
      · simpa using Repeated.cons hb has
      · rw [List.map_cons, hbare]
        rfl

theorem LaterArg.replaceable {C : Expr.Context} {us : List Token} {e : Expr}
    (h : LaterArg lit us (C.fill e)) :
    Replaceable lit (Filled (LaterArg lit) Expr.bare C.fill) us e := by
  cases h with
  | @mk comma ts _ hcomma he =>
    refine he.replaceable.wrap [comma] [] (by simp) fun ws d ⟨e', he', hbare⟩ => ⟨e', ?_, hbare⟩
    simpa using LaterArg.mk hcomma he'

theorem ArgsPhrase.replaceable {C : Expr.Context} {us : List Token} {e : Expr}
    {before after : List Expr} (h : ArgsPhrase lit us (before ++ C.fill e :: after)) :
    Replaceable lit
      (Filled (ArgsPhrase lit) (List.map Expr.bare) fun d => before ++ C.fill d :: after) us e := by
  cases before with
  | nil =>
    cases h with
    | @some ts us _ _ he hes =>
      refine he.replaceable.wrap [] us rfl fun ws d ⟨e', he', hbare⟩ =>
        ⟨e' :: after, .some he' hes, ?_⟩
      rw [List.map_cons, hbare]
      rfl
  | cons b before =>
    cases h with
    | @some ts us _ _ hb hes =>
      have hrest := hes.replaceable Expr.bare C.fill fun _ => LaterArg.replaceable
      refine hrest.wrap ts [] (by simp) fun ws d ⟨es, hes, hbare⟩ => ⟨b :: es, ?_, ?_⟩
      · simpa using ArgsPhrase.some hb hes
      · rw [List.map_cons, hbare]
        rfl

theorem StatementPhrase.replaceable {C : Statement.Context} {us : List Token} {e : Expr}
    (h : StatementPhrase lit us (C.fill e)) :
    Replaceable lit (Filled (StatementPhrase lit) Statement.bare C.fill) us e := by
  cases C with
  | assign x C =>
    cases h with
    | @assign var name eq semi ts _ hvar hname heq he hsemi =>
      refine he.replaceable.wrap [var, name, eq] [semi] rfl fun ws d ⟨e', he', hbare⟩ =>
        ⟨_, .assign hvar hname heq he' hsemi, ?_⟩
      rw [Statement.bare, hbare]
      rfl
  | call f before C after =>
    cases h with
    | @call name opening closing semi ts _ hname hopening hes hclosing hsemi =>
      refine hes.replaceable.wrap [name, opening] [closing, semi] rfl fun ws d ⟨es, hes, hbare⟩ =>
        ⟨_, .call hname hopening hes hclosing hsemi, ?_⟩
      rw [Statement.bare, hbare]
      rfl

/-- **A factor in place of a node of a script.** -/
theorem ScriptPhrase.replaceable {C : Script.Context} {us : List Token} {e : Expr}
    (h : ScriptPhrase lit us (C.fill e)) :
    Replaceable lit (Filled (ScriptPhrase lit) Script.bare C.fill) us e := by
  obtain ⟨x, before, C, after⟩ := C
  cases h with
  | @mk function name opening closing brace last ts _ hfunction hname hopening hclosing hbrace hbody
      hlast =>
    have hstatements := hbody.replaceable Statement.bare C.fill fun _ => StatementPhrase.replaceable
    refine hstatements.wrap [function, name, opening, closing, brace] [last] rfl
      fun ws d ⟨body, hbody, hbare⟩ =>
        ⟨_, .mk hfunction hname hopening hclosing hbrace hbody hlast, ?_⟩
    rw [Script.bare, hbare]
    rfl

end Grammar

end Scriptlet
