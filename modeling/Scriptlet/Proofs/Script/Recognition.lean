import Scriptlet.Proofs.Grammar.Terminals
import Scriptlet.Proofs.Number.Decimal
import Scriptlet.Proofs.Script.Statements
import Scriptlet.Proofs.Token.Coverage

/-!
# Recognition: the parser reads what the grammar derives, and only that

* `script_eq_ok_iff`   tokens are read as a script if and only if they are derived as that script;
* `scriptPhrase_iff`   to be derived with literals that can be read is to be derived, with every
                       number token readable;
* `isSome_ofText?_iff` a number token of a text can be read if it has one point at most;
* `parse_recognizes`   the three together, for texts.
-/

namespace Scriptlet

open Grammar

namespace Parser

/-- **Tokens are read as a script if and only if they are derived as that script.** -/
theorem script_eq_ok_iff {ts : List Token} {s : Script} :
    script ts = .ok s ↔ ScriptPhrase exactly ts s := by
  rw [script_eq]
  constructor
  · intro h
    cases hts : braced ts with
    | error stop =>
      rw [hts] at h
      cases h
    | ok r =>
      obtain ⟨s', rest⟩ := r
      rw [hts] at h
      obtain ⟨us, rfl, hus, -⟩ := (fits_braced.fitsAt ts).ok hts
      cases rest with
      | nil =>
        cases h
        rw [List.append_nil]
        exact braced_iff.mp hus
      | cons t rest => cases h
  · intro h
    have hts := fits_braced.completes [] (braced_iff.mpr h) trivial
    rw [List.append_nil] at hts
    rw [hts]

end Parser

namespace Grammar

/-! ## literals -/

section
variable {lit lit' : Literals} {P : Token → Prop}

theorem ExprPhrase.mono (h : ∀ {t v}, t.kind = .number → P t → lit t v → lit' t v) {r : Rule}
    {us : List Token} {e : Expr} (he : ExprPhrase lit r us e) (hus : ∀ t ∈ us, P t) :
    ExprPhrase lit' r us e := by
  induction he with
  | number ht hv => exact .number ht (h ht (hus _ List.mem_cons_self) hv)
  | var ht => exact .var ht
  | group hopening _ hclosing ih =>
    exact .group hopening (ih fun t ht => hus t (by simp [ht])) hclosing
  | chain ls _ hsigns _ ih ihlinks =>
    refine .chain ls (ih fun t ht => hus t (List.mem_append_left _ ht)) hsigns fun l hl => ?_
    refine ihlinks l hl fun t ht => hus t (List.mem_append_right _ ?_)
    exact List.mem_flatMap.mpr ⟨l, hl, List.mem_cons_of_mem _ ht⟩

theorem Repeated.mono {α : Type} {D D' : Phrase α}
    (h : ∀ {us a}, D us a → (∀ t ∈ us, P t) → D' us a) {us : List Token} {as : List α}
    (has : Repeated D us as) (hus : ∀ t ∈ us, P t) : Repeated D' us as := by
  induction has with
  | nil => exact .nil
  | cons ha _ ih =>
    exact .cons (h ha fun t ht => hus t (List.mem_append_left _ ht))
      (ih fun t ht => hus t (List.mem_append_right _ ht))

theorem LaterArg.mono (h : ∀ {t v}, t.kind = .number → P t → lit t v → lit' t v)
    {us : List Token} {e : Expr} (he : LaterArg lit us e) (hus : ∀ t ∈ us, P t) :
    LaterArg lit' us e := by
  cases he with
  | mk hcomma he => exact .mk hcomma (he.mono h fun t ht => hus t (List.mem_cons_of_mem _ ht))

theorem ArgsPhrase.mono (h : ∀ {t v}, t.kind = .number → P t → lit t v → lit' t v)
    {us : List Token} {es : List Expr} (hes : ArgsPhrase lit us es) (hus : ∀ t ∈ us, P t) :
    ArgsPhrase lit' us es := by
  cases hes with
  | none => exact .none
  | some he hes =>
    exact .some (he.mono h fun t ht => hus t (List.mem_append_left _ ht))
      (hes.mono (LaterArg.mono h) fun t ht => hus t (List.mem_append_right _ ht))

theorem StatementPhrase.mono (h : ∀ {t v}, t.kind = .number → P t → lit t v → lit' t v)
    {us : List Token} {st : Statement} (hst : StatementPhrase lit us st) (hus : ∀ t ∈ us, P t) :
    StatementPhrase lit' us st := by
  cases hst with
  | assign hvar hname heq he hsemi =>
    exact .assign hvar hname heq (he.mono h fun t ht => hus t (by simp [ht])) hsemi
  | call hname hopening hes hclosing hsemi =>
    exact .call hname hopening (hes.mono h fun t ht => hus t (by simp [ht])) hclosing hsemi

theorem ScriptPhrase.mono (h : ∀ {t v}, t.kind = .number → P t → lit t v → lit' t v)
    {us : List Token} {s : Script} (hs : ScriptPhrase lit us s) (hus : ∀ t ∈ us, P t) :
    ScriptPhrase lit' us s := by
  cases hs with
  | mk hfunction hname hopening hclosing hbrace hbody hlast =>
    exact .mk hfunction hname hopening hclosing hbrace
      (hbody.mono (StatementPhrase.mono h) fun t ht => hus t (by simp [ht])) hlast

/-! ## number tokens -/

def Settled (lit : Literals) (t : Token) : Prop := t.kind = .number → ∃ v, lit t v

theorem admits_settled : Admits lit (Settled lit) where
  number _ hv _ := ⟨_, hv⟩
  other ht _ hne h := absurd (ht.symm.trans h) hne

end

/-- **To be derived with literals that can be read is to be derived, with every number token
readable.** -/
theorem scriptPhrase_iff {ts : List Token} {s : Script} :
    ScriptPhrase exactly ts s ↔ ScriptPhrase leniently ts s ∧ ∀ t ∈ ts, Settled exactly t := by
  constructor
  · intro h
    refine ⟨h.mono (P := fun _ => True) ?_ fun _ _ => trivial, h.admitted admits_settled⟩
    intro t v _ _ hv
    have hv : Number.ofText? t.text = some v := hv
    show v = (Number.ofText? t.text).getD default
    rw [hv, Option.getD_some]
  · intro h
    obtain ⟨h, hsettled⟩ := h
    refine h.mono ?_ hsettled
    intro t v ht hP hv
    obtain ⟨w, hw⟩ := hP ht
    have hw : Number.ofText? t.text = some w := hw
    have hv : v = (Number.ofText? t.text).getD default := hv
    rw [hw, Option.getD_some] at hv
    rw [hv]
    exact hw

end Grammar

/-! ## texts -/

/-- A number token of a text can be read if and only if it has one point at most. -/
theorem Token.isSome_ofText?_iff {text : String} {t : Token} (ht : t ∈ ofText text)
    (hkind : t.kind = .number) :
    (Number.ofText? t.text).isSome = true ↔ t.text.toList.count '.' ≤ 1 := by
  obtain ⟨_, l, b, -, hlex, -⟩ := (covers_ofText text).lexeme_of_mem ht
  rw [hkind] at hlex
  generalize t.text = s at hlex ⊢
  generalize hk : Token.Kind.number = k at hlex
  cases hlex with
  | word =>
    unfold wordKind at hk
    split at hk <;> cases hk
  | number hch htail =>
    rw [Number.ofText?, Option.isSome_map, String.toList_ofList]
    exact Decimal.isSome_ofChars? hch htail
  | closed => cases hk
  | unclosed => cases hk
  | symbol => cases hk

theorem Token.settled_iff {text : String} :
    (∀ t ∈ ofText text, Settled exactly t) ↔
      ∀ t ∈ ofText text, t.kind = .number → t.text.toList.count '.' ≤ 1 := by
  refine forall₂_congr fun t ht => forall_congr' fun hkind => ?_
  rw [← isSome_ofText?_iff ht hkind, Option.isSome_iff_exists]
  rfl

theorem Script.parse_eq_ok_iff {text : String} {s : Script} :
    parse text = .ok s ↔ Parser.script (Token.ofText text) = .ok s := by
  unfold parse
  cases Parser.script (Token.ofText text) with
  | error stop => exact ⟨fun h => (by cases h), fun h => (by cases h)⟩
  | ok s' => exact ⟨fun h => (by cases h; rfl), fun h => (by cases h; rfl)⟩

/-- **A text is read as a script if and only if its tokens are derivable and every number in it has
one point at most.**  What is read is what the tokens are derived as, and they are derived as
nothing else. -/
theorem Script.parse_recognizes (text : String) :
    ((∃ s, parse text = .ok s) ↔
      Derivable (Token.ofText text) ∧
        ∀ t ∈ Token.ofText text, t.kind = .number → t.text.toList.count '.' ≤ 1) ∧
    (∀ s, parse text = .ok s ↔ ScriptPhrase exactly (Token.ofText text) s) ∧
    ∀ s s', parse text = .ok s → ScriptPhrase leniently (Token.ofText text) s' → s' = s := by
  have hok (s : Script) : parse text = .ok s ↔ ScriptPhrase exactly (Token.ofText text) s := by
    rw [parse_eq_ok_iff, Parser.script_eq_ok_iff]
  refine ⟨?_, hok, fun s s' hs hs' => ?_⟩
  · rw [← Token.settled_iff]
    constructor
    · intro h
      obtain ⟨s, hs⟩ := h
      obtain ⟨hs, hsettled⟩ := scriptPhrase_iff.mp ((hok s).mp hs)
      exact ⟨⟨s, hs⟩, hsettled⟩
    · intro h
      obtain ⟨⟨s, hs⟩, hsettled⟩ := h
      exact ⟨s, (hok s).mpr (scriptPhrase_iff.mpr ⟨hs, hsettled⟩)⟩
  · have hsettled := (scriptPhrase_iff.mp ((hok s).mp hs)).2
    have hs' := (hok s').mpr (scriptPhrase_iff.mpr ⟨hs', hsettled⟩)
    rw [hs] at hs'
    exact (Except.ok.inj hs').symm

end Scriptlet
