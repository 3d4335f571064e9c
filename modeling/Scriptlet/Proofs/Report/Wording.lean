import Scriptlet.Proofs.Engine.Pointing
import Scriptlet.Proofs.Text.OneLine

/-!
# Wording: what an error tells is on one line

A string is the one token that may hold a line feed, and it is told in quotes.

* `Token.oneLine_describe`     how a message names a token;
* `Script.oneLine_expectation` what the grammar asks for where a text is no script;
* `Engine.oneLine_report`      hence the message and the label of every error of a run.
-/

namespace Scriptlet

open Text Grammar

/-! ## tokens -/

namespace Token

theorem Lexeme.oneLine {k : Kind} {t : String} {l rest : List Char} (h : Lexeme k t l rest)
    (hk : k ≠ .string) : OneLine t := by
  cases h with
  | word hch htail =>
    rw [oneLine_ofList, List.mem_cons, not_or]
    refine ⟨?_, fun hmem => absurd (htail _ hmem) (by decide)⟩
    rintro rfl
    exact absurd hch (by decide)
  | number hch htail =>
    rw [oneLine_ofList, List.mem_cons, not_or]
    refine ⟨?_, fun hmem => absurd (htail _ hmem) (by decide)⟩
    rintro rfl
    exact absurd hch (by decide)
  | closed => exact absurd rfl hk
  | unclosed => exact absurd rfl hk
  | symbol hblank =>
    rw [oneLine_ofList, List.mem_singleton]
    rintro rfl
    exact absurd hblank (by decide)

variable {text : String} {t : Token}

theorem oneLine_text (ht : t ∈ ofText text) (hkind : t.kind ≠ .string) : OneLine t.text := by
  obtain ⟨a, l, b, -, hlex, -⟩ := (covers_ofText text).lexeme_of_mem ht
  exact hlex.oneLine hkind

/-- **However a message names a token, it does so on one line.** -/
theorem oneLine_describe (ht : t ∈ stream text) : OneLine t.describe := by
  obtain ht | rfl := mem_stream_iff.mp ht
  · unfold describe
    split
    · decide
    · rw [oneLine_append]
      exact ⟨by decide, oneLine_quoted t.text⟩
    · rename_i hstring
      rw [oneLine_append, oneLine_append]
      exact ⟨⟨by decide, oneLine_text ht hstring⟩, by decide⟩
  · exact (by decide : OneLine "end of input")

theorem oneLine_of_slice? {n : String} (ht : t ∈ stream text) (hstring : t.kind ≠ .string)
    (hend : t.kind ≠ .endOfInput) (h : slice? t.span text.toList = some n.toList) : OneLine n := by
  obtain ht | rfl := mem_stream_iff.mp ht
  · rw [slice?_of_mem ht hstring] at h
    rw [← String.toList_inj.mp (Option.some.inj h)]
    exact oneLine_text ht hstring
  · exact absurd rfl hend

end Token

/-! ## errors -/

theorem Grammar.Legal.oneLine {us : List Token} {what : Expectation} (h : Legal us what) :
    OneLine what.text := by
  cases what with
  | keyword k => cases k <;> decide
  | symbol c =>
    have hviable : Viable (us ++ [⟨.symbol c, "", .empty 0⟩]) := h.1 _ ⟨_, rfl, rfl⟩
    obtain ⟨vs, s, hs⟩ := hviable
    have hc : c ∈ symbols := hs.terminal ⟨.symbol c, "", .empty 0⟩ (by simp)
    have hfeed : '\n' ≠ c := by
      rintro rfl
      exact absurd hc (by decide)
    have hsingleton : OneLine (String.singleton c) := by
      unfold OneLine
      rw [String.toList_singleton, List.mem_singleton]
      exact hfeed
    show OneLine ("`" ++ String.singleton c ++ "`")
    simp only [oneLine_append]
    exact ⟨⟨by decide, hsingleton⟩, by decide⟩
  | identifier => decide
  | statement => decide
  | expression => decide
  | endOfInput => decide

variable {text : String}

theorem Script.oneLine_expectation {what : Expectation} {found : String} {span : Span}
    (h : parse text = .error ⟨.expected what found, span⟩) : OneLine what.text := by
  obtain ⟨s, hscript, herror⟩ := parse_eq_error h
  obtain ⟨us, -, hblames⟩ := Parser.script_eq_error hscript
  cases hcomplaint : s.complaint with
  | expected what' =>
    rw [Parser.Stop.error_of_expected _ hcomplaint] at herror
    cases herror
    exact (hblames.legal hcomplaint).oneLine
  | invalidNumber =>
    rw [Parser.Stop.error_of_invalidNumber _ hcomplaint] at herror
    cases herror

theorem Script.oneLine_message {d : SyntaxError} (h : parse text = .error d) {i : Nat} {t : Token}
    (hpoints : (ScriptError.parse d).PointsAt text i t) : OneLine d.message := by
  have ht := List.mem_of_getElem? hpoints.token
  have htells := hpoints.describes
  obtain ⟨kind, span⟩ := d
  cases kind with
  | expected what found =>
    have hfound : OneLine found := by
      rw [show found = t.describe from htells]
      exact Token.oneLine_describe ht
    show OneLine ("expected " ++ what.text ++ ", found " ++ found)
    simp only [oneLine_append]
    exact ⟨⟨⟨by decide, oneLine_expectation h⟩, by decide⟩, hfound⟩
  | invalidNumber n =>
    obtain ⟨hkind, hslice⟩ := htells
    have hn := Token.oneLine_of_slice? ht (by rw [hkind]; exact nofun) (by rw [hkind]; exact nofun)
      hslice
    show OneLine ("invalid number `" ++ n ++ "`")
    simp only [oneLine_append]
    exact ⟨⟨by decide, hn⟩, by decide⟩

theorem RuntimeError.oneLine_message {err : RuntimeError} {i : Nat} {t : Token}
    (hpoints : (ScriptError.runtime err).PointsAt text i t) : OneLine err.message := by
  have ht := List.mem_of_getElem? hpoints.token
  have oneLine_name {n : String} (hkind : t.kind = .identifier)
      (hslice : slice? t.span text.toList = some n.toList) : OneLine n :=
    Token.oneLine_of_slice? ht (by rw [hkind]; exact nofun) (by rw [hkind]; exact nofun) hslice
  have htells := hpoints.describes
  obtain ⟨kind, span⟩ := err
  cases kind with
  | unknownVariable n =>
    obtain ⟨hkind, hslice⟩ := htells
    show OneLine ("unknown variable `" ++ n ++ "`")
    simp only [oneLine_append]
    exact ⟨⟨by decide, oneLine_name hkind hslice⟩, by decide⟩
  | unknownFunction n =>
    obtain ⟨hkind, hslice, -⟩ := htells
    show OneLine ("unknown function `" ++ n ++ "`")
    simp only [oneLine_append]
    exact ⟨⟨by decide, oneLine_name hkind hslice⟩, by decide⟩

theorem RuntimeError.Kind.oneLine_label (kind : RuntimeError.Kind) : OneLine kind.label := by
  cases kind with
  | unknownFunction n => exact (by decide : OneLine "no native function with this name")
  | unknownVariable n => exact (by decide : OneLine "not assigned before this point")

/-- **The report of an error of a run has a message and one snippet, each told on one line.** -/
theorem Engine.oneLine_report {κ : Type} {engine : Engine κ} {e : ScriptError}
    (h : (engine.run text).result = .error e) {i : Nat} {t : Token}
    (hpoints : e.PointsAt text i t) :
    ∃ message label, e.report = ⟨some message, [⟨label, t.span⟩]⟩ ∧
      OneLine message ∧ OneLine label := by
  rw [← hpoints.span_eq]
  obtain ⟨d, hd, rfl⟩ | ⟨-, err, -, -, rfl⟩ := error_cases h
  · exact ⟨_, _, rfl, by decide, Script.oneLine_message hd hpoints⟩
  · exact ⟨_, _, rfl, RuntimeError.oneLine_message hpoints, err.kind.oneLine_label⟩

end Scriptlet
