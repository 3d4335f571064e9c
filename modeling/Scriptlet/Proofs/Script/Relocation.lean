import Scriptlet.Proofs.Grammar.LeftRecursion
import Scriptlet.Proofs.Script.Expressions
import Scriptlet.Proofs.Token.Relocation

/-!
# Relocation of phrases: what tokens stand for when they stand somewhere else

* `Expr.relocate f`        the expression with all its offsets changed by `f`;
* `ExprPhrase.relocate`    tokens with changed offsets stand for the expression with changed
                           offsets, as long as no two offsets change their order;
* `ExprPhrase.eq_of`       tokens stand for one expression at most;
* `ExprPhrase.of_later`    tokens that stand for an expression, each of them `m` bytes later, do so
                           also before they are moved.
-/

namespace Scriptlet

def Ident.relocate (f : Nat → Nat) (x : Ident) : Ident := ⟨x.name, x.span.map f⟩

namespace Expr

def relocate (f : Nat → Nat) : Expr → Expr
  | .number v s => .number v (s.map f)
  | .var x s => .var (x.relocate f) (s.map f)
  | .binary op l r s => .binary op (l.relocate f) (r.relocate f) (s.map f)

def later (m : Nat) : Expr → Expr := relocate (m + ·)

variable {f : Nat → Nat}

theorem span_relocate (e : Expr) : (e.relocate f).span = e.span.map f := by
  cases e <;> rfl

theorem relocate_withSpan (s : Span) (e : Expr) :
    (e.withSpan s).relocate f = (e.relocate f).withSpan (s.map f) := by
  cases e <;> rfl

theorem relocate_join (hf : Monotone f) (op : Operator) (l r : Expr) :
    (join op l r).relocate f = join op (l.relocate f) (r.relocate f) := by
  unfold join
  rw [relocate, Span.map_union hf, span_relocate, span_relocate]

theorem relocate_relocate (f g : Nat → Nat) (e : Expr) :
    (e.relocate f).relocate g = e.relocate (g ∘ f) := by
  induction e with
  | number v s => rfl
  | var x s => rfl
  | binary op l r s ihl ihr =>
    rw [relocate, relocate, relocate, ihl, ihr]
    rfl

theorem later_comm (m n : Nat) (e : Expr) : (e.later m).later n = (e.later n).later m := by
  unfold later
  rw [relocate_relocate, relocate_relocate]
  exact congrArg (e.relocate ·) (funext fun i => Nat.add_left_comm n m i)

end Expr

namespace Grammar

variable {lit : Literals} {f : Nat → Nat} {r : Rule} {us : List Token} {e e' : Expr}

/-- **Tokens with changed offsets stand for the expression with changed offsets.** -/
theorem ExprPhrase.relocate (hf : Monotone f)
    (hlit : ∀ {t v}, lit t v → lit (t.relocate f) v) (h : ExprPhrase lit r us e) :
    ExprPhrase lit r (us.map (Token.relocate f)) (e.relocate f) := by
  induction h using ExprPhrase.leftInduction with
  | number ht hv => exact .number ht (hlit hv)
  | var ht => exact .var ht
  | group hopening he hclosing ih =>
    rw [Expr.relocate_withSpan, Span.map_union hf, List.map_cons, List.map_append]
    exact .group hopening ih hclosing
  | single he ih => exact ih.chain_of_operand
  | join ha hsign hop hb iha ihb =>
    rw [Expr.relocate_join hf, List.map_append, List.map_cons]
    exact iha.chain_join hsign hop ihb

theorem ExprPhrase.later (h : ExprPhrase exactly r us e) (m : Nat) :
    ExprPhrase exactly r (us.map (Token.later m)) (e.later m) :=
  h.relocate (fun _ _ hle => Nat.add_le_add_left hle m) id

/-- Tokens stand for one expression at most. -/
theorem ExprPhrase.eq_of (h : ExprPhrase exactly r us e) (h' : ExprPhrase exactly r us e') :
    e = e' := by
  have hends : Parser.ends r none := by
    match r with
    | .factor => trivial
    | .chain .multiplicative => exact fun _ _ => nofun
    | .chain .additive => exact ⟨fun _ _ => nofun, fun _ _ => nofun⟩
  have hread := Parser.completes_rule r [] h hends
  rw [Parser.completes_rule r [] h' hends] at hread
  cases hread
  rfl

/-- What tokens stand for that are moved, they stand for before that. -/
theorem ExprPhrase.of_later {m : Nat} (h : ExprPhrase exactly r (us.map (Token.later m)) e) :
    ∃ e', ExprPhrase exactly r us e' ∧ e = e'.later m := by
  have hback : (us.map (Token.later m)).map (Token.relocate (· - m)) = us := by
    rw [List.map_map]
    refine (List.map_congr_left fun t _ => ?_).trans (List.map_id us)
    show Token.mk _ _ ⟨m + t.span.start - m, m + t.span.stop - m⟩ = t
    rw [Nat.add_sub_cancel_left, Nat.add_sub_cancel_left]
    rfl
  have he := h.relocate (f := (· - m)) (fun _ _ hle => Nat.sub_le_sub_right hle m) id
  rw [hback] at he
  exact ⟨_, he, h.eq_of (he.later m)⟩

end Grammar

end Scriptlet
