import Mathlib.Data.List.Forall2
import Mathlib.Data.Option.Defs
import Scriptlet.Evaluation
import Scriptlet.Proofs.Script.Bare
import Scriptlet.Script.Printer

/-!
# Twins: scripts that differ in their spans only

A relation `R` says which spans correspond.  Twins are equal but for their spans, and the spans of
their names correspond.  The spans of expressions need not, for no error has them.

* `Token.Twin`, `Expr.Twin`, `Statement.Twin`, `Script.Twin`, `RuntimeError.Twin`
* `Script.Twin.bare_eq`  twins are equal without their spans;
* `Script.Twin.text_eq`  and are printed as the same text.
-/

namespace Scriptlet

/-- Both are values that `A` relates, or both are errors that `E` relates. -/
inductive Both {ε δ α β : Type} (E : ε → δ → Prop) (A : α → β → Prop) :
    Except ε α → Except δ β → Prop where
  | ok {a : α} {b : β} (h : A a b) : Both E A (.ok a) (.ok b)
  | error {e : ε} {d : δ} (h : E e d) : Both E A (.error e) (.error d)

theorem Both.mono {ε δ α β : Type} {E : ε → δ → Prop} {A B : α → β → Prop} {x : Except ε α}
    {y : Except δ β} (h : Both E A x y) (hAB : ∀ {a b}, A a b → B a b) : Both E B x y := by
  cases h with
  | ok h => exact .ok (hAB h)
  | error h => exact .error h

theorem Both.eq_cases {ε δ α : Type} {E : ε → δ → Prop} {x : Except ε α} {y : Except δ α}
    (h : Both E Eq x y) :
    (∃ a, x = .ok a ∧ y = .ok a) ∨ ∃ e d, x = .error e ∧ y = .error d ∧ E e d := by
  cases h with
  | @ok a b h =>
    subst h
    exact .inl ⟨a, rfl, rfl⟩
  | error h => exact .inr ⟨_, _, rfl, rfl, h⟩

section

variable (R : Span → Span → Prop)

structure Token.Twin (t u : Token) : Prop where
  kind : t.kind = u.kind
  text : t.text = u.text
  span : R t.span u.span

structure Ident.Twin (x y : Ident) : Prop where
  name : x.name = y.name
  span : R x.span y.span

inductive Expr.Twin : Expr → Expr → Prop where
  | number (v : Number) (s s' : Span) : Twin (.number v s) (.number v s')
  | var {x y : Ident} (h : x.Twin R y) (s s' : Span) : Twin (.var x s) (.var y s')
  | binary (op : Operator) {l r l' r' : Expr} (hl : Twin l l') (hr : Twin r r') (s s' : Span) :
      Twin (.binary op l r s) (.binary op l' r' s')

inductive Statement.Twin : Statement → Statement → Prop where
  | assign {x y : Ident} {e e' : Expr} (h : x.Twin R y) (he : e.Twin R e') :
      Twin (.assign x e) (.assign y e')
  | call {f g : Ident} {args args' : List Expr} (h : f.Twin R g)
      (hargs : List.Forall₂ (Expr.Twin R) args args') : Twin (.call f args) (.call g args')

structure Script.Twin (s s' : Script) : Prop where
  name : s.name.Twin R s'.name
  body : List.Forall₂ (Statement.Twin R) s.body s'.body

structure RuntimeError.Twin (err err' : RuntimeError) : Prop where
  kind : err.kind = err'.kind
  span : R err.span err'.span

end

variable {R : Span → Span → Prop}

theorem Token.Twin.describe_eq {t u : Token} (h : t.Twin R u) : t.describe = u.describe := by
  unfold describe
  rw [h.kind, h.text]

theorem Expr.Twin.withSpan {e e' : Expr} (h : e.Twin R e') (s s' : Span) :
    (e.withSpan s).Twin R (e'.withSpan s') := by
  cases h with
  | number v => exact .number v s s'
  | var hx => exact .var hx s s'
  | binary op hl hr => exact .binary op hl hr s s'

theorem Expr.Twin.join (op : Operator) {l r l' r' : Expr} (hl : l.Twin R l') (hr : r.Twin R r') :
    (Expr.join op l r).Twin R (Expr.join op l' r') := .binary op hl hr _ _

/-! ## without spans -/

theorem Ident.Twin.bare_eq {x y : Ident} (h : x.Twin R y) : x.bare = y.bare := by
  unfold bare
  rw [h.name]

theorem Expr.Twin.bare_eq {e e' : Expr} (h : e.Twin R e') : e.bare = e'.bare := by
  induction h with
  | number v s s' => rfl
  | var hx s s' => rw [bare, bare, hx.bare_eq]
  | binary op _ _ s s' ihl ihr => rw [bare, bare, ihl, ihr]

theorem map_eq_of_forall₂ {α β : Type} {S : α → α → Prop} (f : α → β) {as bs : List α}
    (h : List.Forall₂ S as bs) (hf : ∀ a b, S a b → f a = f b) : as.map f = bs.map f := by
  induction h with
  | nil => rfl
  | @cons a b _ _ hab _ ih => rw [List.map_cons, List.map_cons, hf a b hab, ih]

theorem Statement.Twin.bare_eq {st st' : Statement} (h : st.Twin R st') : st.bare = st'.bare := by
  cases h with
  | assign hx he => rw [bare, bare, hx.bare_eq, he.bare_eq]
  | call hf hargs =>
    rw [bare, bare, hf.bare_eq,
      map_eq_of_forall₂ Expr.bare hargs fun _ _ => Expr.Twin.bare_eq]

/-- **Twins are equal without their spans.** -/
theorem Script.Twin.bare_eq {s s' : Script} (h : s.Twin R s') : s.bare = s'.bare := by
  unfold bare
  rw [h.name.bare_eq, map_eq_of_forall₂ Statement.bare h.body fun _ _ => Statement.Twin.bare_eq]

/-! ## as text -/

theorem Expr.text_bare (e : Expr) : e.bare.text = e.text := by
  induction e with
  | number v s => rfl
  | var x s => rfl
  | binary op l r s ihl ihr => rw [bare, text, text, ihl, ihr]

theorem Statement.text_bare (st : Statement) : st.bare.text = st.text := by
  cases st with
  | assign x e =>
    rw [bare, text, text, e.text_bare]
    rfl
  | call f args =>
    rw [bare, text, text, List.map_map, List.map_congr_left fun e _ => e.text_bare]
    rfl

theorem Script.text_bare (s : Script) : s.bare.text = s.text := by
  have hlines : s.bare.body.map (fun st => "    " ++ st.text ++ "\n")
      = s.body.map fun st => "    " ++ st.text ++ "\n" := by
    rw [bare, List.map_map]
    refine List.map_congr_left fun st _ => ?_
    rw [Function.comp_apply, st.text_bare]
  rw [text, text, hlines]
  rfl

/-- **Twins are printed as the same text.** -/
theorem Script.Twin.text_eq {s s' : Script} (h : s.Twin R s') : s.text = s'.text := by
  rw [← s.text_bare, h.bare_eq, s'.text_bare]

end Scriptlet
