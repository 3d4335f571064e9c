import Scriptlet.Proofs.Script.Assigned
import Scriptlet.Proofs.Script.Contexts

/-!
# Excerpts: the text under the span of an expression is that expression

* `Script.exists_place`  where a node of a script stands in the text, and among the tokens;
* `Script.slice?_node`   the span of a node of a script covers a text whose tokens are the node;
* `Script.parse_node`    this text, assigned in a script of its own, is read as the node again.
-/

namespace Scriptlet

open Grammar Text

namespace Script

/-- **Where a node stands**: the text is what is before its span, under it and after it, the tokens
are those of these three parts, and any factor may be put in place of the ones in the middle. -/
theorem exists_place {text : String} {C : Context} {e : Expr} (h : parse text = .ok (C.fill e)) :
    ∃ a x b us ts ws m, text.toList = a ++ x ++ b ∧
      e.span = ⟨byteLength a, byteLength a + byteLength x⟩ ∧ Token.Covers 0 a us ∧
      Token.Covers (byteLength a) x ts ∧ Token.Covers m b ws ∧
      ExprPhrase exactly .expr ts e ∧ ∀ vs d, ExprPhrase exactly .factor vs d →
        Filled (ScriptPhrase exactly) Script.bare C.fill (us ++ vs ++ ws) d := by
  rw [parse_eq_ok_iff, Parser.script_eq_ok_iff] at h
  obtain ⟨us, ts, ws, htokens, hts, hfill⟩ := h.replaceable
  have hcovers := Token.covers_ofText text
  rw [htokens] at hcovers
  obtain ⟨a, x, b, htext, ha, hx, hb, hhull⟩ := hcovers.parts hts.ne_nil
  rw [Nat.zero_add] at hx hb hhull
  have hspan := (hts.span_eq hx.ordered).trans hhull
  exact ⟨a, x, b, us, ts, ws, _, htext, hspan, ha, hx, hb, hts, hfill⟩

/-- **The text under the span of a node stands for the node**, each offset less by the bytes in
front of it. -/
theorem slice?_node {text : String} {s : Script} (h : parse text = .ok s) {e : Expr}
    (he : e ∈ s.nodes) :
    ∃ x d, slice? e.span text.toList = some x ∧
      ExprPhrase exactly .expr (Token.ofText (String.ofList x)) d ∧ e = d.later e.span.start := by
  obtain ⟨C, rfl⟩ := mem_nodes_iff.mp he
  obtain ⟨a, x, b, _, ts, _, _, htext, hspan, -, hx, -, hts, -⟩ := exists_place h
  have hmoved : ts = (Token.ofText (String.ofList x)).map (Token.later (byteLength a)) := by
    show _ = (Token.allFrom ⟨0, (String.ofList x).toList⟩).map _
    rw [← Token.allFrom_later, String.toList_ofList, Nat.add_zero]
    exact hx.allFrom_eq.symm
  rw [hmoved] at hts
  obtain ⟨d, hd, hlater⟩ := hts.of_later
  exact ⟨x, d, slice?_eq_some_iff.mpr ⟨a, b, htext, hspan⟩, hd, by rw [hspan]; exact hlater⟩

/-- **The span of every expression in a script covers a text that is read as this expression
again.**  The bounds of the span lie between characters.  All spans in the two expressions differ by
the same distance, which is that between the places where the text stands. -/
theorem parse_node {text : String} {s : Script} (h : parse text = .ok s) {e : Expr}
    (he : e ∈ s.nodes) :
    ∃ x, slice? e.span text.toList = some x ∧ isBoundary e.span.start text.toList = true ∧
      isBoundary e.span.stop text.toList = true ∧
      ∃ d, parse (assigning (String.ofList x)) = .ok (assigned d) ∧
        d.later e.span.start = e.later assigningHead.utf8ByteSize := by
  obtain ⟨x, d, hslice, hd, hlater⟩ := slice?_node h he
  obtain ⟨hstart, hstop⟩ := isBoundary_of_slice? hslice
  refine ⟨x, hslice, hstart, hstop, _, parse_assigning hd, ?_⟩
  rw [Expr.later_comm, ← hlater]

/-- The right operand of `a-(b*c)` is read again from its text, parentheses included. -/
theorem parse_node_group :
    ∃ s e, parse (assigning "a-(b*c)") = .ok s ∧ e ∈ s.nodes ∧ e.span = ⟨21, 26⟩ ∧
      ∃ d, parse (assigning "(b*c)") = .ok (assigned d) ∧
        d.later 21 = e.later assigningHead.utf8ByteSize := by
  have htokens : Token.ofText "a-(b*c)" =
      [⟨.identifier, "a", ⟨0, 1⟩⟩, ⟨.symbol '-', "-", ⟨1, 2⟩⟩, ⟨.symbol '(', "(", ⟨2, 3⟩⟩,
        ⟨.identifier, "b", ⟨3, 4⟩⟩, ⟨.symbol '*', "*", ⟨4, 5⟩⟩, ⟨.identifier, "c", ⟨5, 6⟩⟩,
        ⟨.symbol ')', ")", ⟨6, 7⟩⟩] := Token.allFrom_of_lists (by decide)
  let product : Expr := .binary .mul (.var ⟨"b", ⟨3, 4⟩⟩ ⟨3, 4⟩) (.var ⟨"c", ⟨5, 6⟩⟩ ⟨5, 6⟩) ⟨2, 7⟩
  have hproduct : ExprPhrase exactly .expr
      [⟨.identifier, "b", ⟨3, 4⟩⟩, ⟨.symbol '*', "*", ⟨4, 5⟩⟩, ⟨.identifier, "c", ⟨5, 6⟩⟩]
      (product.withSpan ⟨3, 6⟩) := ExprPhrase.expr_join (.var rfl) rfl (.var rfl)
  have hgroup : ExprPhrase exactly .factor
      [⟨.symbol '(', "(", ⟨2, 3⟩⟩, ⟨.identifier, "b", ⟨3, 4⟩⟩, ⟨.symbol '*', "*", ⟨4, 5⟩⟩,
        ⟨.identifier, "c", ⟨5, 6⟩⟩, ⟨.symbol ')', ")", ⟨6, 7⟩⟩] product :=
    .group rfl hproduct rfl
  let difference : Expr := .join .sub (.var ⟨"a", ⟨0, 1⟩⟩ ⟨0, 1⟩) product
  have hdifference : ExprPhrase exactly .expr (Token.ofText "a-(b*c)") difference := by
    rw [htokens]
    exact ExprPhrase.expr_join (.var rfl) rfl hgroup
  have hparse := parse_assigning hdifference
  have hmem : product.later assigningHead.utf8ByteSize ∈
      nodes (assigned (difference.later assigningHead.utf8ByteSize)) := by decide
  obtain ⟨x, hx, -, -, d, hd, hlater⟩ := parse_node hparse hmem
  have hslice : slice? ⟨21, 26⟩ (assigning "a-(b*c)").toList = some "(b*c)".toList := by decide
  cases hslice.symm.trans hx
  exact ⟨_, _, hparse, hmem, rfl, d, hd, hlater⟩

end Script

end Scriptlet
