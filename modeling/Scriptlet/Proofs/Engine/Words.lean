import Scriptlet.Proofs.Engine.Trace
import Scriptlet.Proofs.Evaluation.Spanless
import Scriptlet.Proofs.Script.Assigned
import Scriptlet.Proofs.Script.Spanless
import Scriptlet.Proofs.Token.Stream

/-!
# Words: a run depends on the words of its text, and not on where they stand

A word is the kind of a token with its text.  Two texts with the same words have tokens that are
twins one by one, where spans correspond if they belong to tokens of one index (`SameToken`).

* `tokenTwins_ofText`         the tokens of texts with the same words;
* `Script.parse_twin`         the texts are read as twins, or fail alike;
* `Engine.run_twin`           they run alike with every engine;
* `Engine.decided_by_words`   both, and that twins are the same scripts without their spans.
-/

namespace Scriptlet

/-- what a token says, wherever it stands -/
def Token.word (t : Token) : Token.Kind × String := (t.kind, t.text)

/-- The spans are those of two tokens that have one index in the two texts. -/
def SameToken (text text' : String) (a b : Span) : Prop :=
  ∃ (i : Nat) (t u : Token), (Token.stream text)[i]? = some t ∧
    (Token.stream text')[i]? = some u ∧ a = t.span ∧ b = u.span

section

variable (R : Span → Span → Prop)

structure SyntaxError.Twin (d d' : SyntaxError) : Prop where
  kind : d.kind = d'.kind
  span : R d.span d'.span

/-- errors of one kind, with spans that correspond -/
inductive ScriptError.Twin : ScriptError → ScriptError → Prop where
  | parse {d d' : SyntaxError} (h : d.Twin R d') : Twin (.parse d) (.parse d')
  | runtime {err err' : RuntimeError} (h : err.Twin R err') : Twin (.runtime err) (.runtime err')

end

/-! ## tokens -/

variable {R : Span → Span → Prop} {text text' : String}

theorem tokenTwins_of_words {ts us : List Token} (h : ts.map Token.word = us.map Token.word)
    (hR : ∀ (i : Nat) (t u : Token), ts[i]? = some t → us[i]? = some u → R t.span u.span) :
    Parser.TokenTwins R ts us := by
  induction ts generalizing us with
  | nil =>
    cases us with
    | nil => exact .nil
    | cons u us => cases h
  | cons t ts ih =>
    cases us with
    | nil => cases h
    | cons u us =>
      obtain ⟨hword, hrest⟩ := List.cons.inj h
      obtain ⟨hkind, htext⟩ := Prod.mk.inj hword
      exact .cons ⟨hkind, htext, hR 0 t u rfl rfl⟩
        (ih hrest fun i t' u' ht hu => hR (i + 1) t' u' ht hu)

theorem tokenTwins_stream
    (h : (Token.stream text).map Token.word = (Token.stream text').map Token.word) :
    Parser.TokenTwins (SameToken text text') (Token.stream text) (Token.stream text') :=
  tokenTwins_of_words h fun i t u ht hu => ⟨i, t, u, ht, hu, rfl, rfl⟩

theorem tokenTwins_ofText (h : Parser.TokenTwins R (Token.stream text) (Token.stream text')) :
    Parser.TokenTwins R (Token.ofText text) (Token.ofText text') ∧
      (Token.endAt text.utf8ByteSize).Twin R (Token.endAt text'.utf8ByteSize) := by
  rw [Token.stream_eq, Token.stream_eq, Parser.TokenTwins, ← List.forall₂_reverse_iff,
    List.reverse_concat, List.reverse_concat, List.forall₂_cons, List.forall₂_reverse_iff] at h
  exact h.symm

/-! ## scripts -/

namespace Parser.Stop

theorem Twin.token {s s' : Stop} (h : s.Twin R s') {last last' : Token}
    (hlast : last.Twin R last') : (s.token last).Twin R (s'.token last') := by
  have hrest := h.rest
  unfold Stop.token
  generalize s.rest = ts at hrest
  generalize s'.rest = us at hrest
  cases hrest with
  | nil => exact hlast
  | cons htu _ => exact htu

theorem Twin.error {s s' : Stop} (h : s.Twin R s') {last last' : Token}
    (hlast : last.Twin R last') : (s.error last).Twin R (s'.error last') := by
  have htoken := h.token hlast
  unfold Stop.error
  rw [h.complaint]
  cases s'.complaint with
  | expected what =>
    exact ⟨congrArg (SyntaxError.Kind.expected what) htoken.describe_eq, htoken.span⟩
  | invalidNumber => exact ⟨congrArg SyntaxError.Kind.invalidNumber htoken.text, htoken.span⟩

end Parser.Stop

/-- **Texts with the same words are read as twins, or fail alike.** -/
theorem Script.parse_twin (h : Parser.TokenTwins R (Token.stream text) (Token.stream text')) :
    Both (SyntaxError.Twin R) (Script.Twin R) (parse text) (parse text') := by
  obtain ⟨htokens, hlast⟩ := tokenTwins_ofText h
  have hscript := Parser.twin_script htokens
  unfold parse
  rw [Text.byteLength_toList, Text.byteLength_toList]
  generalize Parser.script (Token.ofText text) = x at hscript
  generalize Parser.script (Token.ofText text') = y at hscript
  cases hscript with
  | ok hs => exact .ok hs
  | error hstop => exact .error (hstop.error hlast)

/-! ## runs -/

namespace Engine

variable {κ : Type} (engine : Engine κ)

/-- **Texts with the same words run alike.** -/
theorem run_twin (h : Parser.TokenTwins R (Token.stream text) (Token.stream text')) :
    Both (ScriptError.Twin R) Eq (engine.run text).result (engine.run text').result ∧
      engine.scriptCalls text = engine.scriptCalls text' := by
  have hparse := Script.parse_twin h
  unfold run scriptCalls
  generalize Script.parse text = x at hparse
  generalize Script.parse text' = y at hparse
  cases hparse with
  | error hd => exact ⟨.error (.parse hd), rfl⟩
  | @ok s s' hs =>
    have hrun := hs.run Operator.apply engine.hasFunction .empty
    have hfailure := hrun.failure
    refine ⟨?_, hrun.calls⟩
    unfold runScript
    dsimp only
    rw [hrun.env]
    generalize (s.run Operator.apply engine.hasFunction .empty).failure = f at hfailure
    generalize (s'.run Operator.apply engine.hasFunction .empty).failure = f' at hfailure
    cases hfailure with
    | none => exact .ok rfl
    | some herr => exact .error (.runtime herr)

end Engine

/-- **Only the words of a text matter.**  Two texts with the same words are read as the same script
but for its spans, or both fail, with one kind of error and at tokens of one index.  With every
engine they end with the same variables, or fail in this way, and make the same native calls. -/
theorem Engine.decided_by_words
    (h : (Token.stream text).map Token.word = (Token.stream text').map Token.word) :
    Both (SyntaxError.Twin (SameToken text text')) (fun s s' => s.bare = s'.bare ∧ s.text = s'.text)
        (Script.parse text) (Script.parse text') ∧
      ∀ (κ : Type) (engine : Engine κ),
        Both (ScriptError.Twin (SameToken text text')) Eq (engine.run text).result
          (engine.run text').result ∧
        engine.trace text = engine.trace text' ∧
        (engine.run text).log = (engine.run text').log ∧
        (engine.run text).calls = (engine.run text').calls := by
  have htwins := tokenTwins_stream h
  refine ⟨?_, fun κ engine => ?_⟩
  · exact (Script.parse_twin htwins).mono fun hs => ⟨hs.bare_eq, hs.text_eq⟩
  · obtain ⟨hresult, hcalls⟩ := engine.run_twin htwins
    have htrace : engine.trace text = engine.trace text' := by
      unfold trace
      rw [hcalls]
    refine ⟨hresult, htrace, ?_, ?_⟩
    · rw [run_log_eq, run_log_eq, htrace]
    · rw [run_calls_eq, run_calls_eq, htrace]

/-- With other blanks, and on three lines, the same variable has no value. -/
theorem Engine.decided_by_words_blanks :
    (Token.stream (Script.assigning "x")).map Token.word
        = (Token.stream "function\tf ( )\r\n\x7b var r = x ;\n\x7d").map Token.word ∧
      ((empty : Engine Empty).run (Script.assigning "x")).result
        = .error (.runtime ⟨.unknownVariable "x", ⟨19, 20⟩⟩) ∧
      ∃ err, ((empty : Engine Empty).run "function\tf ( )\r\n\x7b var r = x ;\n\x7d").result
          = .error (.runtime err) ∧
        err.kind = .unknownVariable "x" ∧
        SameToken (Script.assigning "x") "function\tf ( )\r\n\x7b var r = x ;\n\x7d" ⟨19, 20⟩
          err.span := by
  have hone : Token.ofText "x" = [⟨.identifier, "x", ⟨0, 1⟩⟩] := Token.allFrom_of_lists (by decide)
  have hx : Grammar.ExprPhrase Grammar.exactly .factor (Token.ofText "x")
      (.var ⟨"x", ⟨0, 1⟩⟩ ⟨0, 1⟩) := by
    rw [hone]
    exact .var rfl
  have htokens : Token.ofText "function\tf ( )\r\n\x7b var r = x ;\n\x7d" =
      [⟨.keyword .function, "function", ⟨0, 8⟩⟩, ⟨.identifier, "f", ⟨9, 10⟩⟩,
        ⟨.symbol '(', "(", ⟨11, 12⟩⟩, ⟨.symbol ')', ")", ⟨13, 14⟩⟩,
        ⟨.symbol '\x7b', "\x7b", ⟨16, 17⟩⟩, ⟨.keyword .var, "var", ⟨18, 21⟩⟩,
        ⟨.identifier, "r", ⟨22, 23⟩⟩, ⟨.symbol '=', "=", ⟨24, 25⟩⟩, ⟨.identifier, "x", ⟨26, 27⟩⟩,
        ⟨.symbol ';', ";", ⟨28, 29⟩⟩, ⟨.symbol '\x7d', "\x7d", ⟨30, 31⟩⟩] :=
    Token.allFrom_of_lists (by decide)
  have hwords : (Token.stream (Script.assigning "x")).map Token.word
      = (Token.stream "function\tf ( )\r\n\x7b var r = x ;\n\x7d").map Token.word := by
    rw [Token.stream_eq, Token.stream_eq, Script.ofText_assigning hx.expr_of_factor, htokens,
      Script.assignedTokens, hone]
    rfl
  have hfails : ((empty : Engine Empty).run (Script.assigning "x")).result
      = .error (.runtime ⟨.unknownVariable "x", ⟨19, 20⟩⟩) := by
    rw [run, Script.parse_assigning hx.expr_of_factor]
    rfl
  have hresult := ((decided_by_words hwords).2 Empty empty).1
  rw [hfails] at hresult
  generalize ((empty : Engine Empty).run _).result = result at hresult
  cases hresult with
  | error h =>
    cases h with
    | @runtime _ err herr => exact ⟨hwords, hfails, err, rfl, herr.kind.symm, herr.span⟩

end Scriptlet
