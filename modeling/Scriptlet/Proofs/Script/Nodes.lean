import Scriptlet.Proofs.Grammar.LeftRecursion
import Scriptlet.Proofs.Token.Splicing

/-!
# Nodes: the expressions in a script, and their spans

* `Script.nodes`           all expressions of a script, at any depth;
* `ExprPhrase.span_eq`     the span of an expression goes from its first token to its last.
-/

namespace Scriptlet

/-! ## nodes -/

namespace Expr

def parts : Expr → List Expr
  | .number _ _ => []
  | .var _ _ => []
  | .binary _ l r _ => l :: l.parts ++ r :: r.parts

def nodes (e : Expr) : List Expr := e :: e.parts

theorem mem_nodes_binary {op : Operator} {l r e : Expr} {s : Span} :
    e ∈ (binary op l r s).nodes ↔ e = binary op l r s ∨ e ∈ l.nodes ∨ e ∈ r.nodes := by
  rw [nodes, List.mem_cons]
  exact or_congr_right List.mem_append

end Expr

def Statement.nodes : Statement → List Expr
  | .assign _ e => e.nodes
  | .call _ args => args.flatMap Expr.nodes

def Script.nodes (s : Script) : List Expr := s.body.flatMap Statement.nodes

namespace Grammar

variable {lit : Literals}

/-! ## the span of a node -/

theorem ExprPhrase.ne_nil {r : Rule} {us : List Token} {e : Expr} (h : ExprPhrase lit r us e) :
    us ≠ [] := by
  induction h using ExprPhrase.leftInduction with
  | number => exact List.cons_ne_nil _ _
  | var => exact List.cons_ne_nil _ _
  | group => exact List.cons_ne_nil _ _
  | single _ ih => exact ih
  | join => exact List.append_ne_nil_of_right_ne_nil _ (List.cons_ne_nil _ _)

/-- **The span of an expression goes from its first token to its last.** -/
theorem ExprPhrase.span_eq {r : Rule} {us : List Token} {e : Expr} (h : ExprPhrase lit r us e)
    {n stop : Nat} (hus : Token.Ordered n stop us) : e.span = Token.hull us := by
  induction h using ExprPhrase.leftInduction generalizing n stop with
  | number => rfl
  | var => rfl
  | @group opening closing ts e =>
    rw [← List.singleton_append, ← List.append_assoc] at hus ⊢
    rw [Expr.span_withSpan]
    exact Token.hull_union hus (List.cons_ne_nil _ _) (List.cons_ne_nil _ _)
  | single _ ih => exact ih hus
  | @join level us vs a b sign op ha _ _ hb iha ihb =>
    obtain ⟨hleft, hright⟩ := Token.ordered_append.mp hus
    obtain ⟨-, -, hright⟩ := hright
    rw [← List.singleton_append, ← List.append_assoc] at hus ⊢
    show a.span.union b.span = _
    rw [iha hleft, ihb hright, Token.hull_union hus ha.ne_nil hb.ne_nil]

end Grammar

end Scriptlet
