import Scriptlet.Proofs.Engine.Trace
import Scriptlet.Proofs.Evaluation.Composition
import Scriptlet.Proofs.Script.Origin
import Scriptlet.Proofs.Script.RoundTrip
import Scriptlet.Proofs.Token.Tiling

/-!
# Callees: the registrations that a script does not call cannot affect it

A run asks for a native function only where a statement calls one, and what stands there is an
identifier of the text.

* `Script.callees`           the names that the calls of a script use, executed or not;
* `Run.ofBody_of_callees`    sets of known functions that agree on these names give one run;
* `runScript_of_agreesOn`    so do engines that have the same functions under them;
* `Token.isName_iff`         the texts that can be names, told by their characters;
* `decided_by_callees`       what is registered under any other text matters to no script.
-/

namespace Scriptlet

open Text

/-! ## the names that are called -/

def Statement.callee? : Statement → Option Ident
  | .assign _ _ => none
  | .call f _ => some f

/-- the names that the calls of a script use, executed or not -/
def Script.callees (s : Script) : List Ident := s.body.filterMap Statement.callee?

theorem Script.mem_callees_iff {s : Script} {f : Ident} :
    f ∈ s.callees ↔ ∃ args, .call f args ∈ s.body := by
  unfold callees
  rw [List.mem_filterMap]
  constructor
  · rintro ⟨st, hst, hf⟩
    cases st with
    | assign x e => cases hf
    | call g args =>
      cases hf
      exact ⟨args, hst⟩
  · rintro ⟨args, hst⟩
    exact ⟨_, hst, rfl⟩

section

variable {ops : Arithmetic} {known known' : String → Bool}

theorem Statement.effect_of_callee {st : Statement}
    (h : ∀ f, st.callee? = some f → known f.name = known' f.name) (env : Environment) :
    st.effect ops known env = st.effect ops known' env := by
  cases st with
  | assign x e => rfl
  | call f args => rw [effect, effect, h f rfl]

/-- **A run asks only whether the callees of its statements are known.** -/
theorem Run.ofBody_of_callees {body : List Statement}
    (h : ∀ f ∈ body.filterMap Statement.callee?, known f.name = known' f.name)
    (env : Environment) : ofBody ops known body env = ofBody ops known' body env := by
  induction body generalizing env with
  | nil => rfl
  | cons st rest ih =>
    have hst : st.effect ops known env = st.effect ops known' env := by
      apply Statement.effect_of_callee
      intro f hf
      exact h f (List.mem_filterMap.mpr ⟨st, List.mem_cons_self, hf⟩)
    have hrest : ∀ f ∈ rest.filterMap Statement.callee?, known f.name = known' f.name := by
      intro f hf
      obtain ⟨st', hst', hf⟩ := List.mem_filterMap.mp hf
      exact h f (List.mem_filterMap.mpr ⟨st', List.mem_cons_of_mem _ hst', hf⟩)
    cases heff : st.effect ops known env with
    | error err => rw [ofBody_cons_of_error heff, ofBody_cons_of_error (hst.symm.trans heff)]
    | ok eff => rw [ofBody_cons_of_ok heff, ofBody_cons_of_ok (hst.symm.trans heff), ih hrest]

end

/-! ## two engines -/

namespace Engine

variable {κ : Type} {engine engine' : Engine κ} {s : Script}

def AgreesOn (engine engine' : Engine κ) (names : List Ident) : Prop :=
  ∀ f ∈ names, engine.natives.get? f.name = engine'.natives.get? f.name

variable (h : engine.AgreesOn engine' s.callees)
include h

theorem script_run_of_agreesOn :
    s.run Operator.apply engine.hasFunction .empty
      = s.run Operator.apply engine'.hasFunction .empty := by
  apply Run.ofBody_of_callees
  intro f hf
  unfold hasFunction Bindings.contains
  rw [h f hf]

theorem native?_of_agreesOn {c : Call}
    (hc : c ∈ (s.run Operator.apply engine.hasFunction .empty).calls) :
    engine.native? c = engine'.native? c := by
  obtain ⟨st, hst, env, heff⟩ := Run.exists_effect_of_mem_calls hc
  obtain ⟨f, args, rfl, hname, -⟩ := Statement.exists_of_effect heff
  unfold native?
  rw [hname, h f (Script.mem_callees_iff.mpr ⟨args, hst⟩)]

/-- **Engines that have the same functions under the callees of a script run it alike.** -/
theorem runScript_of_agreesOn : engine.runScript s = engine'.runScript s := by
  have hrun := script_run_of_agreesOn h
  have hlogged : ∀ c ∈ (s.run Operator.apply engine.hasFunction .empty).calls,
      engine.logged? c = engine'.logged? c := by
    intro c hc
    rw [← native?_bind_logged?, native?_of_agreesOn h hc, native?_bind_logged?]
  have hreached : ∀ c ∈ (s.run Operator.apply engine.hasFunction .empty).calls,
      engine.reached? c = engine'.reached? c := by
    intro c hc
    rw [← native?_bind_told?, native?_of_agreesOn h hc, native?_bind_told?]
  unfold runScript
  dsimp only
  rw [List.filterMap_congr hlogged, List.filterMap_congr hreached, hrun]

omit h

/-- **What is registered elsewhere matters neither to the outcome of a text nor to its calls.** -/
theorem run_of_agreesOn {text : String}
    (h : ∀ s, Script.parse text = .ok s → engine.AgreesOn engine' s.callees) :
    engine.run text = engine'.run text ∧ engine.trace text = engine'.trace text := by
  unfold run trace scriptCalls
  cases hs : Script.parse text with
  | error err => exact ⟨rfl, rfl⟩
  | ok s =>
    have hagrees := h s hs
    refine ⟨runScript_of_agreesOn hagrees, ?_⟩
    dsimp only
    rw [← script_run_of_agreesOn hagrees]
    exact List.filterMap_congr fun c hc => native?_of_agreesOn hagrees hc

end Engine

/-! ## what can be called -/

/-- **A text can be a name if and only if it starts with a letter, goes on with letters, numbers
and `_`, and is no keyword.** -/
theorem Token.isName_iff {s : String} :
    IsName s ↔ (∃ ch tail, s.toList = ch :: tail ∧ isAlphabetic ch = true ∧
      ∀ c ∈ tail, isWordChar c = true) ∧ ∀ w : Keyword, s ≠ w.text := by
  constructor
  · intro h
    obtain ⟨⟨hshape, -⟩, -, hword⟩ := (h.lexeme (ends_nil _)).shaped
    exact ⟨hshape, hword⟩
  · rintro ⟨hshape, hword⟩
    have hshaped : Shaped .identifier s s.toList [] := ⟨⟨hshape, ends_nil _⟩, rfl, hword⟩
    exact hshaped.lexeme.isName

theorem Script.callee_isName {text : String} {s : Script} (hs : parse text = .ok s) {f : Ident}
    (hf : f ∈ s.callees) :
    (∃ t ∈ Token.ofText text, t.kind = .identifier ∧ f = Grammar.identOf t) ∧
      Token.IsName f.name := by
  obtain ⟨args, hst⟩ := mem_callees_iff.mp hf
  refine ⟨?_, ((all_of_parse hs).2 _ hst).1⟩
  rw [parse_eq_ok_iff, Parser.script_eq_ok_iff] at hs
  obtain ⟨pre, ts, post, htokens, hphrase⟩ := hs.exists_statement hst
  obtain ⟨name, opening, rest, rfl, hkind, hname, -⟩ := hphrase.exists_call
  refine ⟨name, ?_, hkind, hname⟩
  rw [htokens]
  simp

/-- **Registrations that a script does not call cannot affect it.**  Engines that have the same
functions under the names in the calls of a script run it with the same outcome and the same native
calls.  Each of these names is an identifier of the text, and so can be a name.  A function that is
registered under a text that cannot be one, such as a keyword, an empty text, or one with a
character in it that is no letter, no number and no `_`, changes nothing for any script. -/
theorem Engine.decided_by_callees {κ : Type} (text : String) :
    (∀ engine engine' : Engine κ,
      (∀ s, Script.parse text = .ok s →
        ∀ f ∈ s.callees, engine.natives.get? f.name = engine'.natives.get? f.name) →
      engine.run text = engine'.run text ∧ engine.trace text = engine'.trace text) ∧
    (∀ s, Script.parse text = .ok s → ∀ f ∈ s.callees,
      (∃ t ∈ Token.ofText text, t.kind = .identifier ∧ f = Grammar.identOf t) ∧
        Token.IsName f.name) ∧
    (∀ name, ¬ Token.IsName name → ∀ (engine : Engine κ) id,
      (engine.register name id).run text = engine.run text ∧
        (engine.register name id).trace text = engine.trace text) ∧
    ∀ name, Token.IsName name ↔
      (∃ ch tail, name.toList = ch :: tail ∧ isAlphabetic ch = true ∧
        ∀ c ∈ tail, Token.isWordChar c = true) ∧ ∀ w : Keyword, name ≠ w.text := by
  refine ⟨fun engine engine' => run_of_agreesOn, fun s hs f hf => Script.callee_isName hs hf, ?_,
    fun name => Token.isName_iff⟩
  intro name hname engine id
  apply run_of_agreesOn
  intro s hs f hf
  have hne : name ≠ f.name := by
    rintro rfl
    exact hname (Script.callee_isName hs hf).2
  exact Bindings.get?_set_of_ne engine.natives _ hne

end Scriptlet
