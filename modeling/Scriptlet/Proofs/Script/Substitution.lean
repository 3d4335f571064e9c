import Scriptlet.Proofs.Script.Contexts
import Scriptlet.Proofs.Script.Excerpt
import Scriptlet.Proofs.Script.Spanless

/-!
# Substitution: any expression in parentheses, in place of a node of a script

The text under the span of a node is taken out and another one put in its place, in parentheses.  If
this is an expression when it is assigned on its own, the new text is a script, and up to spans
nothing in it differs from the old one but the node.

* `Token.ofText_parenthesised`  the tokens of a text in parentheses;
* `Token.twins_replaced`        where it takes the place of another text, the tokens before and
                                after it are what they were;
* `Script.parse_replaced`       what is read then, for a text whose tokens are an expression;
* `Script.parse_substituted`    so for a text that is read as an expression where it is assigned,
                                and for the text of the node itself.
-/

namespace Scriptlet

open Grammar Text

/-! ## tokens -/

namespace Token

def parenthesised (t : String) : String := "(" ++ t ++ ")"

theorem ofText_parenthesised {t : String} (h : ∀ u ∈ ofText t, u.kind ≠ .string) :
    ∃ opening closing, opening.kind = .symbol '(' ∧ closing.kind = .symbol ')' ∧
      ofText (parenthesised t)
        = opening :: ((ofText t).map (later "(".utf8ByteSize) ++ [closing]) := by
  have hopening : ofText "(" = [⟨.symbol '(', "(", ⟨0, 1⟩⟩] := allFrom_of_lists (by decide)
  have hclosing : ofText ")" = [⟨.symbol ')', ")", ⟨0, 1⟩⟩] := allFrom_of_lists (by decide)
  have hleft : ofText ("(" ++ t) = ofText "(" ++ (ofText t).map (later "(".utf8ByteSize) := by
    refine ofText_append_of_mayFollow ?_
    rw [hopening]
    intro u hu
    cases hu
    trivial
  have hstring : ∀ u ∈ ofText ("(" ++ t), u.kind ≠ .string := by
    rw [hleft, hopening, List.forall_mem_append, List.forall_mem_singleton, List.forall_mem_map]
    exact ⟨nofun, h⟩
  have hright : ofText (parenthesised t) = ofText ("(" ++ t) ++ _ :=
    ofText_append_of_mayFollow fun u hu =>
      mayFollow_of_ends (ends_cons.mpr (by decide)) (ends_cons.mpr (by decide))
        (hstring u (List.mem_of_getLast? hu))
  refine ⟨⟨.symbol '(', "(", ⟨0, 1⟩⟩, later ("(" ++ t).utf8ByteSize ⟨.symbol ')', ")", ⟨0, 1⟩⟩, rfl,
    rfl, ?_⟩
  rw [hright, hleft, hopening, hclosing]
  rfl

def AnySpans (_ _ : Span) : Prop := True

/-- The tokens of a text are twins of its tokens in another place. -/
theorem Covers.twins {n m : Nat} {cs : List Char} {ts us : List Token} (h : Covers n cs ts)
    (h' : Covers m cs us) : Parser.TokenTwins AnySpans ts us := by
  have hmoved {n : Nat} {ts : List Token} (h : Covers n cs ts) :
      ts = (allFrom ⟨0, cs⟩).map (Token.later n) := by
    rw [← allFrom_later, Nat.add_zero, h.allFrom_eq]
  rw [hmoved h, hmoved h', Parser.TokenTwins, List.forall₂_map_left_iff,
    List.forall₂_map_right_iff, List.forall₂_same]
  exact fun t _ => ⟨rfl, rfl, trivial⟩

theorem mayFollow_parenthesised (t : String) (b : List Char) {k : Kind} (hk : k ≠ .string) :
    MayFollow ((parenthesised t).toList ++ b) k := by
  rw [parenthesised, String.toList_append, String.toList_append]
  exact mayFollow_of_ends (ends_cons.mpr (by decide)) (ends_cons.mpr (by decide)) hk

/-- **Where a text in parentheses takes the place of another one, the tokens before and after it are
what they were.** -/
theorem twins_replaced {a b : List Char} {us ws : List Token} {t : String} {m : Nat}
    (ha : Covers 0 a us) (hus : ∀ u ∈ us, u.kind ≠ .string)
    (ht : ∀ u ∈ ofText t, u.kind ≠ .string) (hb : Covers m b ws) :
    Parser.TokenTwins AnySpans (us ++ ofText (parenthesised t) ++ ws)
      (ofText (String.ofList (a ++ (parenthesised t).toList ++ b))) := by
  obtain ⟨opening, closing, -, hclosing, htokens⟩ := ofText_parenthesised ht
  have hmiddle : Covers (0 + byteLength a) (parenthesised t).toList
      ((ofText (parenthesised t)).map (later (byteLength a))) := by
    rw [Nat.zero_add]
    exact (covers_ofText (parenthesised t)).later (byteLength a)
  have hlast : ∀ u ∈ ((ofText (parenthesised t)).map (later (byteLength a))).getLast?,
      MayFollow b u.kind := by
    rw [htokens, ← List.cons_append, List.map_append, List.map_singleton, List.getLast?_concat]
    intro u hu
    obtain rfl := Option.some.inj hu
    show MayFollow b closing.kind
    rw [hclosing]
    trivial
  have hafter := covers_allFrom (0 + byteLength a + byteLength (parenthesised t).toList) b
  have hall := ha.append
    (fun u hu => mayFollow_parenthesised t b (hus u (List.mem_of_getLast? hu)))
    (hmiddle.append hlast hafter)
  show Parser.TokenTwins AnySpans _ (allFrom ⟨0, (String.ofList _).toList⟩)
  rw [String.toList_ofList, List.append_assoc a, hall.allFrom_eq, ← List.append_assoc us]
  have htwins := List.rel_append (ha.twins ha) ((covers_ofText (parenthesised t)).twins hmiddle)
  exact List.rel_append htwins (hb.twins hafter)

end Token

/-! ## phrases -/

theorem Expr.bare_relocate (f : Nat → Nat) (e : Expr) : (e.relocate f).bare = e.bare := by
  induction e with
  | number v s => rfl
  | var x s => rfl
  | binary op l r s ihl ihr => rw [relocate, bare, bare, ihl, ihr]

theorem Grammar.ExprPhrase.parenthesised {t : String} {d : Expr}
    (h : ExprPhrase exactly .expr (Token.ofText t) d) :
    ∃ g, ExprPhrase exactly .factor (Token.ofText (Token.parenthesised t)) g ∧
      g.bare = d.bare := by
  obtain ⟨opening, closing, hopening, hclosing, htokens⟩ :=
    Token.ofText_parenthesised h.kind_ne_string
  rw [htokens]
  refine ⟨_, .group hopening (h.later _) hclosing, ?_⟩
  rw [Expr.bare_withSpan]
  exact d.bare_relocate _

namespace Script

/-- The text with another one in parentheses in place of what the span covers. -/
def substitute? (s : Span) (t text : String) : Option String :=
  (replace? s (Token.parenthesised t).toList text.toList).map String.ofList

/-- **A text whose tokens are an expression, in place of a node.** -/
theorem parse_replaced {text : String} {C : Context} {e : Expr} (h : parse text = .ok (C.fill e))
    {t : String} {d : Expr} (hd : ExprPhrase exactly .expr (Token.ofText t) d) :
    ∃ new s, substitute? e.span t text = some new ∧ parse new = .ok s ∧
      s.bare = (C.fill d).bare := by
  obtain ⟨a, x, b, us, ts, ws, m, htext, hspan, ha, -, hb, -, hfill⟩ := exists_place h
  obtain ⟨g, hg, hbare⟩ := hd.parenthesised
  obtain ⟨s, hs, hsbare⟩ := hfill _ g hg
  have hstring : ∀ u ∈ us, u.kind ≠ .string := by
    intro u hu
    exact hs.kind_ne_string u (List.mem_append_left ws (List.mem_append_left _ hu))
  have htwins := Parser.twin_script (Token.twins_replaced ha hstring hd.kind_ne_string hb)
  rw [Parser.script_eq_ok_iff.mpr hs] at htwins
  generalize hscript : Parser.script _ = result at htwins
  cases htwins with
  | @ok _ s' htwin =>
    refine ⟨_, s', ?_, parse_eq_ok_iff.mpr hscript, ?_⟩
    · rw [substitute?, htext, hspan, replace?_append]
      rfl
    · rw [← htwin.bare_eq, hsbare]
      exact C.bare_fill hbare

/-- **Any expression may take the place of any node of a script, in parentheses.**  Where the text
of the node is, a text is put that is read as an expression when it is assigned on its own.  The text
then is a script again: up to spans, the one before with the other expression for the node, and all
else as it was.  With the text of the node itself nothing changes, so parentheses around any
expression in a script make no difference. -/
theorem parse_substituted {text : String} {s : Script} (h : parse text = .ok s) {e : Expr}
    (he : e ∈ s.nodes) :
    (∃ C : Context, s = C.fill e) ∧ ∀ C : Context, s = C.fill e →
      (∀ t f x e', parse (assigning t) = .ok ⟨f, [.assign x e']⟩ →
        ∃ new s', substitute? e.span t text = some new ∧ parse new = .ok s' ∧
          s'.bare = (C.fill e').bare) ∧
      ∃ x new s', slice? e.span text.toList = some x ∧
        substitute? e.span (String.ofList x) text = some new ∧ parse new = .ok s' ∧
          s'.bare = s.bare := by
  refine ⟨mem_nodes_iff.mp he, fun C hC => ⟨fun t f x e' ht => ?_, ?_⟩⟩
  · subst hC
    obtain ⟨d, hd, rfl⟩ := exists_of_parse_assigning ht
    obtain ⟨new, s', hnew, hs', hbare⟩ := parse_replaced h hd
    exact ⟨new, s', hnew, hs', hbare.trans (C.bare_fill (d.bare_relocate _).symm)⟩
  · obtain ⟨x, d, hslice, hd, hlater⟩ := slice?_node h he
    subst hC
    obtain ⟨new, s', hnew, hs', hbare⟩ := parse_replaced h hd
    refine ⟨x, new, s', hslice, hnew, hs', hbare.trans (C.bare_fill ?_)⟩
    rw [hlater]
    exact (d.bare_relocate _).symm

/-- With `x-y` for `b`, `a*b` becomes `a*(x-y)`. -/
theorem parse_substituted_product :
    let name (n : String) : Ident := ⟨n, .empty 0⟩
    let bareVar (n : String) : Expr := .var (name n) (.empty 0)
    let difference : Expr := .binary .sub (bareVar "x") (bareVar "y") (.empty 0)
    ∃ s, substitute? ⟨21, 22⟩ "x-y" (assigning "a*b") = some (assigning "a*(x-y)") ∧
      parse (assigning "a*(x-y)") = .ok s ∧
      s.bare = ⟨name "f",
        [.assign (name "r") (.binary .mul (bareVar "a") difference (.empty 0))]⟩ := by
  intro name bareVar difference
  have hproduct : ExprPhrase exactly .expr (Token.ofText "a*b")
      (.join .mul (.var ⟨"a", ⟨0, 1⟩⟩ ⟨0, 1⟩) (.var ⟨"b", ⟨2, 3⟩⟩ ⟨2, 3⟩)) := by
    have htokens : Token.ofText "a*b" = [⟨.identifier, "a", ⟨0, 1⟩⟩, ⟨.symbol '*', "*", ⟨1, 2⟩⟩,
        ⟨.identifier, "b", ⟨2, 3⟩⟩] := Token.allFrom_of_lists (by decide)
    rw [htokens]
    exact ExprPhrase.expr_join (.var rfl) rfl (.var rfl)
  have hdifference : ExprPhrase exactly .expr (Token.ofText "x-y")
      (.join .sub (.var ⟨"x", ⟨0, 1⟩⟩ ⟨0, 1⟩) (.var ⟨"y", ⟨2, 3⟩⟩ ⟨2, 3⟩)) := by
    have htokens : Token.ofText "x-y" = [⟨.identifier, "x", ⟨0, 1⟩⟩, ⟨.symbol '-', "-", ⟨1, 2⟩⟩,
        ⟨.identifier, "y", ⟨2, 3⟩⟩] := Token.allFrom_of_lists (by decide)
    rw [htokens]
    exact ExprPhrase.expr_join (.var rfl) rfl (.var rfl)
  let C : Context := ⟨⟨"f", ⟨9, 10⟩⟩, [], .assign ⟨"r", ⟨17, 18⟩⟩
    (.right .mul (.var ⟨"a", ⟨19, 20⟩⟩ ⟨19, 20⟩) .hole ⟨19, 22⟩), []⟩
  let b : Expr := .var ⟨"b", ⟨21, 22⟩⟩ ⟨21, 22⟩
  have hparse : parse (assigning "a*b") = .ok (C.fill b) := parse_assigning hproduct
  have hb : b ∈ (C.fill b).nodes := mem_nodes_iff.mpr ⟨C, rfl⟩
  obtain ⟨new, s, hnew, hs, hbare⟩ :=
    ((parse_substituted hparse hb).2 C rfl).1 "x-y" _ _ _ (parse_assigning hdifference)
  have hreplaced : replace? ⟨21, 22⟩ (Token.parenthesised "x-y").toList (assigning "a*b").toList
      = some (assigning "a*(x-y)").toList := by decide
  have hexpected : substitute? ⟨21, 22⟩ "x-y" (assigning "a*b") = some (assigning "a*(x-y)") := by
    rw [substitute?, hreplaced, Option.map_some, String.ofList_toList]
  obtain rfl := Option.some.inj (hexpected.symm.trans hnew)
  exact ⟨s, hexpected, hs, hbare⟩

end Script

end Scriptlet
