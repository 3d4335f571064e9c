import Scriptlet.Engine
import Scriptlet.Proofs.Script.Blame
import Scriptlet.Proofs.Script.Origin
import Scriptlet.Proofs.Token.Stream

/-!
# Pointing: every error is about a token of the text, and tells its name

* `Engine.error_cases`        a run fails because the text is no script, or while the script runs;
* `ScriptError.PointsAt`      the error has the span of a token, and what it tells of it is right;
* `Engine.exists_pointsAt`    so it is for every error of every run;
* `Engine.run_error_points`   hence the span of an error lies in the text, between characters.
-/

namespace Scriptlet

open Text

/-! ## what an error tells -/

/-- what the error tells about a token of the text `cs` and about the one after it -/
def ScriptError.Describes (cs : List Char) (t : Token) (next? : Option Token) : ScriptError → Prop
  | .parse ⟨.expected _ found, _⟩ => found = t.describe
  | .parse ⟨.invalidNumber n, _⟩ => t.kind = .number ∧ slice? t.span cs = some n.toList
  | .runtime ⟨.unknownVariable n, _⟩ => t.kind = .identifier ∧ slice? t.span cs = some n.toList
  | .runtime ⟨.unknownFunction n, _⟩ =>
    t.kind = .identifier ∧ slice? t.span cs = some n.toList ∧
      ∃ u, next? = some u ∧ u.kind = .symbol '('

/-- The error is about the token `t`, which has the index `i` in the text. -/
structure ScriptError.PointsAt (e : ScriptError) (text : String) (i : Nat) (t : Token) : Prop where
  token : (Token.stream text)[i]? = some t
  span_eq : e.span = t.span
  describes : e.Describes text.toList t (Token.stream text)[i + 1]?

namespace Parser

variable {s : Stop} (inputEnd : Token)

theorem Stop.error_of_expected {what : Expectation} (h : s.complaint = .expected what) :
    s.error inputEnd = ⟨.expected what (s.token inputEnd).describe, (s.token inputEnd).span⟩ := by
  rw [error, h]

theorem Stop.error_of_invalidNumber (h : s.complaint = .invalidNumber) :
    s.error inputEnd = ⟨.invalidNumber (s.token inputEnd).text, (s.token inputEnd).span⟩ := by
  rw [error, h]

theorem Stop.token_of_cons {t : Token} {rest : List Token} (h : s.rest = t :: rest) :
    s.token inputEnd = t := by
  rw [token, h]
  rfl

end Parser

theorem Script.parse_error_pointsAt {text : String} {d : SyntaxError} (h : parse text = .error d) :
    ∃ i t, (ScriptError.parse d).PointsAt text i t := by
  obtain ⟨s, hscript, rfl⟩ := parse_eq_error h
  obtain ⟨us, htokens, hblames⟩ := Parser.script_eq_error hscript
  have htoken := Parser.Stop.getElem?_token htokens (Token.endAt text.utf8ByteSize)
  rw [← Token.stream_eq] at htoken
  refine ⟨us.length, s.token (Token.endAt text.utf8ByteSize), ?_⟩
  cases hcomplaint : s.complaint with
  | expected what =>
    rw [Parser.Stop.error_of_expected _ hcomplaint]
    exact ⟨htoken, rfl, rfl⟩
  | invalidNumber =>
    obtain ⟨t, rest, hrest, hkind, -⟩ := hblames.number hcomplaint
    have hmem : t ∈ Token.ofText text := by
      rw [htokens, hrest]
      exact List.mem_append_right _ List.mem_cons_self
    have hslice := Token.slice?_of_mem hmem (by rw [hkind]; exact nofun)
    rw [Parser.Stop.error_of_invalidNumber _ hcomplaint]
    rw [Parser.Stop.token_of_cons _ hrest] at htoken ⊢
    exact ⟨htoken, rfl, hkind, hslice⟩

theorem Script.run_error_pointsAt {text : String} {s : Script} (hs : parse text = .ok s)
    {ops : Arithmetic} {known : String → Bool} {env : Environment} {err : RuntimeError}
    (h : (s.run ops known env).failure = some err) :
    ∃ i t, (ScriptError.runtime err).PointsAt text i t := by
  rw [parse_eq_ok_iff, Parser.script_eq_ok_iff] at hs
  obtain ⟨pre, t, post, htokens, hpoints⟩ := hs.failure_pointsAt h
  have hmem : t ∈ Token.ofText text := by
    rw [htokens]
    exact List.mem_append_right _ List.mem_cons_self
  have hslice := Token.slice?_of_mem hmem (by rw [hpoints.identifier]; exact nofun)
  have hstream : Token.stream text = pre ++ t :: (post ++ [Token.endAt text.utf8ByteSize]) := by
    rw [Token.stream_eq, htokens, List.append_assoc, List.cons_append]
  obtain ⟨kind, span⟩ := err
  refine ⟨pre.length, t, by rw [hstream]; simp, hpoints.span_eq, ?_⟩
  obtain hkind | ⟨hkind, u, rest, rfl, hu⟩ := hpoints.tells
  · obtain rfl : kind = _ := hkind
    exact ⟨hpoints.identifier, hslice⟩
  · obtain rfl : kind = _ := hkind
    exact ⟨hpoints.identifier, hslice, u, by rw [hstream]; simp, hu⟩

/-! ## errors of an engine -/

namespace Engine

variable {κ : Type} {engine : Engine κ} {text : String} {e : ScriptError}

theorem error_cases (h : (engine.run text).result = .error e) :
    (∃ d, Script.parse text = .error d ∧ e = .parse d) ∨
      ∃ s err, Script.parse text = .ok s ∧
        (s.run Operator.apply engine.hasFunction .empty).failure = some err ∧ e = .runtime err := by
  unfold run at h
  cases hs : Script.parse text with
  | error d =>
    rw [hs] at h
    exact .inl ⟨d, rfl, (Except.error.inj h).symm⟩
  | ok s =>
    rw [hs] at h
    unfold runScript at h
    dsimp only at h
    cases hfailure : (s.run Operator.apply engine.hasFunction .empty).failure with
    | none =>
      rw [hfailure] at h
      cases h
    | some err =>
      rw [hfailure] at h
      exact .inr ⟨s, err, rfl, hfailure, (Except.error.inj h).symm⟩

/-- **Every error of a run is about a token of its text.** -/
theorem exists_pointsAt (h : (engine.run text).result = .error e) : ∃ i t, e.PointsAt text i t := by
  obtain ⟨d, hd, rfl⟩ | ⟨s, err, hs, hfailure, rfl⟩ := error_cases h
  · exact Script.parse_error_pointsAt hd
  · exact Script.run_error_pointsAt hs hfailure

/-- **Every error of a run has the span of a token of its text, and tells what this token is.**  The
span lies in the text, and its bounds lie between characters. -/
theorem run_error_points (h : (engine.run text).result = .error e) :
    (∃ i t, e.PointsAt text i t) ∧
      e.span.start ≤ e.span.stop ∧ e.span.stop ≤ text.utf8ByteSize ∧
      isBoundary e.span.start text.toList = true ∧ isBoundary e.span.stop text.toList = true := by
  obtain ⟨i, t, hpoints⟩ := exists_pointsAt h
  obtain ⟨xs, hslice⟩ := Token.slice?_of_mem_stream (List.mem_of_getElem? hpoints.token)
  obtain ⟨a, b, htext, hspan⟩ := slice?_eq_some_iff.mp hslice
  have hsize := congrArg byteLength htext
  rw [byteLength_toList, byteLength_append, byteLength_append] at hsize
  rw [hpoints.span_eq]
  refine ⟨⟨i, t, hpoints⟩, ?_, ?_, isBoundary_of_slice? hslice⟩
  · rw [hspan]
    exact Nat.le_add_right _ _
  · rw [hspan]
    show byteLength a + byteLength xs ≤ text.utf8ByteSize
    omega

/-- A variable in parentheses that has no value is told with its own span, which leaves the
parentheses out. -/
theorem run_error_points_group :
    ((empty : Engine Empty).run (Script.assigning "((x))")).result
        = .error (.runtime ⟨.unknownVariable "x", ⟨21, 22⟩⟩) ∧
      ∃ i t, (ScriptError.runtime ⟨.unknownVariable "x", ⟨21, 22⟩⟩).PointsAt
        (Script.assigning "((x))") i t := by
  have htokens : Token.ofText "((x))" =
      [⟨.symbol '(', "(", ⟨0, 1⟩⟩, ⟨.symbol '(', "(", ⟨1, 2⟩⟩, ⟨.identifier, "x", ⟨2, 3⟩⟩,
        ⟨.symbol ')', ")", ⟨3, 4⟩⟩, ⟨.symbol ')', ")", ⟨4, 5⟩⟩] :=
    Token.allFrom_of_lists (by decide)
  have hinner : Grammar.ExprPhrase Grammar.exactly .factor
      [⟨.symbol '(', "(", ⟨1, 2⟩⟩, ⟨.identifier, "x", ⟨2, 3⟩⟩, ⟨.symbol ')', ")", ⟨3, 4⟩⟩] _ :=
    .group rfl (.expr_of_factor (.var rfl)) rfl
  have houter : Grammar.ExprPhrase Grammar.exactly .factor (Token.ofText "((x))")
      (.var ⟨"x", ⟨2, 3⟩⟩ ⟨0, 5⟩) := by
    rw [htokens]
    exact .group rfl hinner.expr_of_factor rfl
  have hfails : ((empty : Engine Empty).run (Script.assigning "((x))")).result
      = .error (.runtime ⟨.unknownVariable "x", ⟨21, 22⟩⟩) := by
    rw [run, Script.parse_assigning houter.expr_of_factor]
    rfl
  exact ⟨hfails, (run_error_points hfails).1⟩

end Engine

end Scriptlet
