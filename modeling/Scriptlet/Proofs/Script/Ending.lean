import Scriptlet.Proofs.Script.Assigned
import Scriptlet.Proofs.Token.Concatenation

/-!
# Ending: what may come after a script

A script is over at its closing brace.  No text goes on with the brace, so what comes after a script
changes nothing in it; and if it is not blank, it starts with a token where the input should be
over.

* `ofText_eq_nil_iff`        a text has no tokens if and only if it is blank;
* `Script.ofText_after`      the tokens of a script with a text after it;
* `Parser.script_cons_after` a script and then a token are no script;
* `Script.parse_append`      the three together, for texts.
-/

namespace Scriptlet

open Grammar Text

theorem Token.Covers.blanks_of_nil {n : Nat} {cs : List Char} (h : Covers n cs []) :
    Blanks cs := by
  cases h with
  | blanks hgap => exact hgap

theorem Token.ofText_eq_nil_iff {text : String} : ofText text = [] ↔ Blanks text.toList := by
  constructor
  · intro h
    exact Covers.blanks_of_nil (covers_iff.mpr h)
  · intro h
    exact allFrom_blanks h 0

namespace Grammar

variable {lit : Literals} {us : List Token} {s : Script}

theorem ScriptPhrase.getLast? (hs : ScriptPhrase lit us s) :
    ∃ last, us.getLast? = some last ∧ last.kind = .symbol '\x7d' := by
  cases hs with
  | @mk function name opening closing brace last ts body _ _ _ _ _ _ hlast =>
    refine ⟨last, ?_, hlast⟩
    exact List.getLast?_concat (l := function :: name :: opening :: closing :: brace :: ts)

end Grammar

/-- Where a script is over, the end of the input is expected. -/
theorem Parser.script_cons_after {ts : List Token} {s : Script} (h : script ts = .ok s) (t : Token)
    (rest : List Token) : script (ts ++ t :: rest) = .error ⟨.expected .endOfInput, t :: rest⟩ := by
  have hbraced := fits_braced.completes (t :: rest) (braced_iff.mpr (script_eq_ok_iff.mp h)) trivial
  rw [script_eq, hbraced]

namespace Script

variable {text : String} {s : Script}

/-- The tokens of a script stay what they are, whatever comes after it. -/
theorem ofText_after (h : parse text = .ok s) (u : String) :
    Token.ofText (text ++ u)
      = Token.ofText text ++ (Token.ofText u).map (Token.later text.utf8ByteSize) := by
  rw [parse_eq_ok_iff, Parser.script_eq_ok_iff] at h
  obtain ⟨last, hlast, hkind⟩ := h.getLast?
  refine Token.ofText_append_of_mayFollow fun t ht => ?_
  obtain rfl : last = t := Option.some.inj (hlast.symm.trans ht)
  rw [hkind]
  trivial

theorem parse_after (h : parse text = .ok s) {u : String} {t : Token} {rest : List Token}
    (hu : Token.ofText u = t :: rest) :
    parse (text ++ u)
      = .error ⟨.expected .endOfInput t.describe, (t.later text.utf8ByteSize).span⟩ := by
  have htokens := ofText_after h u
  rw [hu, List.map_cons] at htokens
  unfold parse
  rw [htokens, Parser.script_cons_after (parse_eq_ok_iff.mp h)]
  rfl

/-- **After a script there are only blanks.**  With blanks after it the same script is read; with
anything else the end of the input is expected at the first token that comes after it, whatever
that is. -/
theorem parse_append (h : parse text = .ok s) (u : String) :
    (Token.Blanks u.toList → parse (text ++ u) = .ok s) ∧
    (¬ Token.Blanks u.toList → ∃ t e, (Token.ofText u).head? = some t ∧
      parse (text ++ u) = .error e ∧ e.kind = .expected .endOfInput t.describe ∧
      e.message = "expected end of input, found " ++ t.describe ∧
      e.span = t.span.map (text.utf8ByteSize + ·)) ∧
    ∀ s', parse (text ++ u) = .ok s' → Token.Blanks u.toList ∧ s' = s := by
  cases hu : Token.ofText u with
  | nil =>
    have hblanks := Token.ofText_eq_nil_iff.mp hu
    have hsame : parse (text ++ u) = .ok s := by
      have htokens := ofText_after h u
      rw [hu, List.map_nil, List.append_nil] at htokens
      rw [parse_eq_ok_iff, htokens, ← parse_eq_ok_iff]
      exact h
    refine ⟨fun _ => hsame, fun hnot => absurd hblanks hnot, fun s' hs' => ⟨hblanks, ?_⟩⟩
    exact Except.ok.inj (hs'.symm.trans hsame)
  | cons t rest =>
    have hnot : ¬ Token.Blanks u.toList := by
      rw [← Token.ofText_eq_nil_iff, hu]
      exact List.cons_ne_nil t rest
    have hfails := parse_after h hu
    refine ⟨fun hblanks => absurd hblanks hnot,
      fun _ => ⟨t, _, rfl, hfails, rfl, rfl, rfl⟩, fun s' hs' => ?_⟩
    rw [hfails] at hs'
    cases hs'

/-- A string that is open to the end of the text comes after the script, and the error shows it with
the quotes that it has not. -/
theorem parse_append_string :
    ∃ s e, parse (assigning "x") = .ok s ∧ ¬ Token.Blanks " 'é".toList ∧
      parse (assigning "x" ++ " 'é") = .error e ∧ e.span = ⟨23, 26⟩ ∧
      e.message = "expected end of input, found string \"é\"" := by
  have htokens : Token.ofText "x" = [⟨.identifier, "x", ⟨0, 1⟩⟩] :=
    Token.allFrom_of_lists (by decide)
  have hx : ExprPhrase exactly .factor (Token.ofText "x") (.var ⟨"x", ⟨0, 1⟩⟩ ⟨0, 1⟩) := by
    rw [htokens]
    exact .var rfl
  have hparse := parse_assigning hx.expr_of_factor
  have hstring : Token.ofText " 'é" = [⟨.string, "é", ⟨1, 4⟩⟩] := Token.allFrom_of_lists (by decide)
  have hnot : ¬ Token.Blanks " 'é".toList := by
    rw [← Token.ofText_eq_nil_iff, hstring]
    exact List.cons_ne_nil _ _
  obtain ⟨t, e, hfirst, hfails, -, hmessage, hspan⟩ := (parse_append hparse " 'é").2.1 hnot
  rw [hstring] at hfirst
  obtain rfl := Option.some.inj hfirst
  exact ⟨_, e, hparse, hnot, hfails, hspan, hmessage⟩

end Script

end Scriptlet
