import Scriptlet.Proofs.Grammar

/-!
# Bare scripts: scripts without their spans, and what holds of all their names and literals

`bare` puts the same empty span everywhere, so that two scripts are equal up to spans if and only if
they are equal when bare.  `All P Q`: `P` holds of every name and `Q` of every literal.

* `Script.all_bare`    spans do not matter for names and literals;
* `ScriptPhrase.all`   what holds of the identifiers and numbers among some tokens holds of the
                       names and literals of the script that they are.
-/

namespace Scriptlet

/-! ## without spans -/

def Ident.bare (x : Ident) : Ident := ⟨x.name, .empty 0⟩

namespace Expr

def bare : Expr → Expr
  | .number v _ => .number v (.empty 0)
  | .var x _ => .var x.bare (.empty 0)
  | .binary op l r _ => .binary op l.bare r.bare (.empty 0)

theorem bare_withSpan (s : Span) (e : Expr) : (e.withSpan s).bare = e.bare := by
  cases e <;> rfl

theorem bare_join (op : Operator) (l r : Expr) :
    (join op l r).bare = .binary op l.bare r.bare (.empty 0) := rfl

end Expr

def Statement.bare : Statement → Statement
  | .assign x e => .assign x.bare e.bare
  | .call f args => .call f.bare (args.map Expr.bare)

def Script.bare (s : Script) : Script := ⟨s.name.bare, s.body.map Statement.bare⟩

/-! ## names and literals -/

section
variable (P : String → Prop) (Q : Number → Prop)

def Expr.All : Expr → Prop
  | .number v _ => Q v
  | .var x _ => P x.name
  | .binary _ l r _ => l.All ∧ r.All

def Statement.All : Statement → Prop
  | .assign x e => P x.name ∧ e.All P Q
  | .call f args => P f.name ∧ ∀ e ∈ args, e.All P Q

def Script.All (s : Script) : Prop := P s.name.name ∧ ∀ st ∈ s.body, st.All P Q

end

section
variable {P : String → Prop} {Q : Number → Prop}

theorem Expr.all_bare (e : Expr) : e.bare.All P Q ↔ e.All P Q := by
  induction e with
  | number v s => exact Iff.rfl
  | var x s => exact Iff.rfl
  | binary op l r s ihl ihr => exact and_congr ihl ihr

theorem Statement.all_bare (st : Statement) : st.bare.All P Q ↔ st.All P Q := by
  cases st with
  | assign x e => exact and_congr_right fun _ => e.all_bare
  | call f args =>
    refine and_congr_right fun _ => ?_
    rw [List.forall_mem_map]
    exact forall₂_congr fun e _ => e.all_bare

theorem Script.all_bare (s : Script) : s.bare.All P Q ↔ s.All P Q := by
  refine and_congr_right fun _ => ?_
  show (∀ st ∈ s.body.map Statement.bare, _) ↔ _
  rw [List.forall_mem_map]
  exact forall₂_congr fun st _ => st.all_bare

theorem Script.all_congr {f g : Script} (h : f.bare = g.bare) : f.All P Q ↔ g.All P Q := by
  rw [← f.all_bare, h, g.all_bare]

theorem Expr.all_withSpan (s : Span) (e : Expr) : (e.withSpan s).All P Q ↔ e.All P Q := by
  cases e <;> exact Iff.rfl

end

namespace Grammar

section
variable {lit : Literals} {P : String → Prop} {Q : Number → Prop}

/-- A name that the token is satisfies `P`, and a number that it is `Q`. -/
def Bears (lit : Literals) (P : String → Prop) (Q : Number → Prop) (t : Token) : Prop :=
  (t.kind = .identifier → P t.text) ∧ (t.kind = .number → ∀ v, lit t v → Q v)

theorem all_foldl_onto {ls : List Link} {e : Expr} (he : e.All P Q)
    (hls : ∀ l ∈ ls, l.operand.All P Q) : (ls.foldl Link.onto e).All P Q := by
  induction ls generalizing e with
  | nil => exact he
  | cons l ls ih =>
    obtain ⟨hl, hls⟩ := List.forall_mem_cons.mp hls
    exact ih (e := l.onto e) ⟨he, hl⟩ hls

theorem ExprPhrase.all {r : Rule} {us : List Token} {e : Expr} (he : ExprPhrase lit r us e)
    (hus : ∀ t ∈ us, Bears lit P Q t) : e.All P Q := by
  induction he with
  | number ht hv => exact (hus _ List.mem_cons_self).2 ht _ hv
  | var ht => exact (hus _ List.mem_cons_self).1 ht
  | group _ _ _ ih => exact (Expr.all_withSpan _ _).mpr (ih fun t ht => hus t (by simp [ht]))
  | chain ls _ _ _ ih ihlinks =>
    refine all_foldl_onto (ih fun t ht => hus t (List.mem_append_left _ ht)) fun l hl => ?_
    refine ihlinks l hl fun t ht => hus t (List.mem_append_right _ ?_)
    exact List.mem_flatMap.mpr ⟨l, hl, List.mem_cons_of_mem _ ht⟩

theorem Repeated.forall_value {α : Type} {D : Phrase α} {R : α → Prop} {T : Token → Prop}
    (h : ∀ {us a}, D us a → (∀ t ∈ us, T t) → R a) {us : List Token} {as : List α}
    (has : Repeated D us as) (hus : ∀ t ∈ us, T t) : ∀ a ∈ as, R a := by
  induction has with
  | nil => exact List.forall_mem_nil R
  | cons ha _ ih =>
    obtain ⟨hts, hus⟩ := List.forall_mem_append.mp hus
    exact List.forall_mem_cons.mpr ⟨h ha hts, ih hus⟩

theorem LaterArg.all {us : List Token} {e : Expr} (he : LaterArg lit us e)
    (hus : ∀ t ∈ us, Bears lit P Q t) : e.All P Q := by
  cases he with
  | mk _ he => exact he.all fun t ht => hus t (List.mem_cons_of_mem _ ht)

theorem ArgsPhrase.all {us : List Token} {es : List Expr} (hes : ArgsPhrase lit us es)
    (hus : ∀ t ∈ us, Bears lit P Q t) : ∀ e ∈ es, e.All P Q := by
  cases hes with
  | none => exact List.forall_mem_nil _
  | some he hes =>
    obtain ⟨hts, hus⟩ := List.forall_mem_append.mp hus
    refine List.forall_mem_cons.mpr ⟨he.all hts, ?_⟩
    exact hes.forall_value (R := Expr.All P Q) LaterArg.all hus

theorem StatementPhrase.all {us : List Token} {st : Statement} (hst : StatementPhrase lit us st)
    (hus : ∀ t ∈ us, Bears lit P Q t) : st.All P Q := by
  cases hst with
  | assign _ hname _ he =>
    exact ⟨(hus _ (by simp)).1 hname, he.all fun t ht => hus t (by simp [ht])⟩
  | call hname _ hes =>
    exact ⟨(hus _ (by simp)).1 hname, hes.all fun t ht => hus t (by simp [ht])⟩

/-- What holds of the identifiers and numbers among the tokens holds of the names and literals of
the script that they are. -/
theorem ScriptPhrase.all {us : List Token} {s : Script} (hs : ScriptPhrase lit us s)
    (hus : ∀ t ∈ us, Bears lit P Q t) : s.All P Q := by
  cases hs with
  | mk _ hname _ _ _ hbody =>
    exact ⟨(hus _ (by simp)).1 hname,
      hbody.forall_value (R := Statement.All P Q) StatementPhrase.all
        fun t ht => hus t (by simp [ht])⟩

end

end Grammar

end Scriptlet
