import Scriptlet.Proofs.Engine.Diagnosis
import Scriptlet.Proofs.Report.Limit
import Scriptlet.Proofs.Text.Columns

/-!
# Padding: when the report of an error can be drawn

The marks of an error are padded by the columns of what is before the error on its line.  A line can
be of any length, so it can need a padding that is wider than the widest one of a theme, and then
there is no drawing.

* `columns_le`          a text takes no more than four columns a byte;
* `Theme.Allows`        the paddings that are not too wide for a theme;
* `draw_at_spot`        a report with one snippet: it is drawn if its padding is not too wide;
* `run_blanksAndName`   blanks and a name are no script, however long the blanks are;
* `report_drawn_iff`    which errors of a run are drawn, and why the others are not;
* `padding_too_wide`    an error that is not drawn.
-/

namespace Scriptlet

open Text

namespace Drawing

/-! ## columns -/

/-- **A text takes no more than four columns a byte.**  Only a tab takes so many. -/
theorem columns_le (cs : List Char) : columns cs ≤ 4 * byteLength cs := by
  induction cs with
  | nil => exact Nat.le_refl 0
  | cons c cs ih =>
    have hpos := c.utf8Size_pos
    have hwidth := charWidth_le_utf8Size c
    rw [columns_cons, byteLength_cons]
    split <;> omega

theorem columns_append (a b : List Char) : columns (a ++ b) = columns a + columns b := by
  induction a with
  | nil => rw [List.nil_append, columns_nil, Nat.zero_add]
  | cons c a ih => rw [List.cons_append, columns_cons, columns_cons, ih, Nat.add_assoc]

theorem columns_tabs (n : Nat) : columns (List.replicate n '\t') = 4 * n := by
  induction n with
  | zero => rfl
  | succ n ih =>
    rw [List.replicate_succ, columns_cons, ih, if_pos rfl, Nat.mul_succ, Nat.add_comm]

end Drawing

theorem Source.before_eq (s : Source) {p q : Spot s.text.toList} (h : p.offset = q.offset) :
    p.before = q.before := by
  have hindex := (s.locates p).lineIndex
  rw [h] at hindex
  have hindex : q.index = p.index := Option.some.inj ((s.locates q).lineIndex.symm.trans hindex)
  have hbefore := (s.locates p).before
  rw [h, ← hindex] at hbefore
  exact Option.some.inj (hbefore.symm.trans (s.locates q).before)

/-! ## the limit of a theme -/

/-- The theme has no limit, or the padding is not wider. -/
def Theme.Allows (theme : Theme) (n : Nat) : Prop := theme.widest?.any (· < n) = false

theorem Theme.allows_iff {theme : Theme} {widest : Nat} (h : theme.widest? = some widest)
    (n : Nat) : theme.Allows n ↔ n ≤ widest := by
  unfold Allows
  rw [h, Option.any_some, decide_eq_false_iff_not, Nat.not_lt]

namespace Drawing

/-- **A report with one snippet is drawn as without a limit, if the theme allows the padding**, and
else not at all. -/
theorem draw_at_spot (theme : Theme) (source : Source) (message : Option String) (label : String)
    {p : Spot source.text.toList} {span : Span} (hstart : p.offset = span.start) :
    (theme.Allows (columns p.before) →
      Report.draw theme source ⟨message, [⟨label, span⟩]⟩
        = Report.draw theme.unlimited source ⟨message, [⟨label, span⟩]⟩) ∧
    (¬ theme.Allows (columns p.before) →
      Report.draw theme source ⟨message, [⟨label, span⟩]⟩
        = .error (.tooWide (columns p.before))) := by
  have hoffset : p.offset = min span.start source.size := by
    rw [← hstart, Nat.min_eq_left (source.locates p).le]
  have hlimited := snippet_at_spot theme source label hoffset
  have hunlimited := snippet_at_spot theme.unlimited source label hoffset
  rw [width_expandTabs] at hlimited hunlimited
  simp only [Report.draw, snippets, hlimited, hunlimited]
  constructor
  · intro hallows
    rw [hallows]
    rfl
  · intro hwide
    rw [if_pos (Bool.not_eq_false _ ▸ hwide)]

end Drawing

namespace Engine

open Drawing

variable {κ : Type} {engine : Engine κ} {text : String} {e : ScriptError}

/-! ## blanks and a name -/

def blanksAndName (gap : List Char) : String := String.ofList (gap ++ ['x'])

/-- A script starts with a keyword, not with the name after the blanks. -/
def missingKeyword (gap : List Char) : SyntaxError :=
  ⟨.expected (.keyword .function) "`x`", ⟨byteLength gap, byteLength gap + 1⟩⟩

theorem run_blanksAndName (engine : Engine κ) {gap : List Char} (hgap : Token.Blanks gap) :
    (engine.run (blanksAndName gap)).result = .error (.parse (missingKeyword gap)) := by
  have hword : Token.Lexeme .identifier "x" ['x'] [] :=
    @Token.lexeme_of_word 'x' [] [] (by decide) rfl (Token.ends_nil _)
  have htokens : Token.ofText (blanksAndName gap)
      = [⟨.identifier, "x", ⟨byteLength gap, byteLength gap + 1⟩⟩] := by
    have hall := Token.allFrom_lexeme hgap hword 0
    rw [List.append_nil, Token.allFrom_blanks (List.forall_mem_nil _), Nat.zero_add] at hall
    rw [Token.ofText, blanksAndName, String.toList_ofList]
    exact hall
  unfold run Script.parse
  rw [htokens]
  rfl

theorem byteLength_tabs (n : Nat) : byteLength (List.replicate n '\t') = n := by
  induction n with
  | zero => rfl
  | succ n ih =>
    rw [List.replicate_succ, byteLength_cons, ih, Nat.add_comm]
    rfl

theorem blanks_replicate {c : Char} (h : isBlank c = true) (n : Nat) :
    Token.Blanks (List.replicate n c) := fun _ hc => (List.eq_of_mem_replicate hc) ▸ h

theorem newline_not_mem_replicate {c : Char} (h : '\n' ≠ c) (n : Nat) :
    '\n' ∉ List.replicate n c := fun hc => h (List.eq_of_mem_replicate hc)

def spotAfter (gap : List Char) (h : '\n' ∉ gap) : Spot (blanksAndName gap).toList where
  above := []
  before := gap
  after := ['x']
  below := []
  text_eq := by rw [blanksAndName, String.toList_ofList, List.nil_append, List.append_nil]
  above_whole := .inl rfl
  not_mem_before := h
  not_mem_after := by decide
  below_whole := .inl rfl

/-! ## errors of a run -/

/-- **The report of an error of a run is drawn just if the theme allows a padding as wide as what is
before the error on its line**, with the standard theme 65535 columns.  Then it is what is drawn
without a limit; if not, this width is the reason.  It is at most four times the bytes before the
error, so an error near the start of its line is always drawn. -/
theorem report_drawn_iff (h : (engine.run text).result = .error e) :
    ∃ i t, ∃ p : Spot text.toList, e.PointsAt text i t ∧ p.offset = t.span.start ∧
      columns p.before ≤ 4 * byteLength p.before ∧
      (∀ theme name, let source := Source.ofText name text
        ((∃ drawn, e.report.draw theme source = .ok drawn) ↔ theme.Allows (columns p.before)) ∧
        (theme.Allows (columns p.before) →
          e.report.draw theme source = e.report.draw theme.unlimited source) ∧
        (¬ theme.Allows (columns p.before) →
          e.report.draw theme source = .error (.tooWide (columns p.before)))) ∧
      ∀ name, (∃ drawn, e.report.draw .standard (.ofText name text) = .ok drawn)
        ↔ columns p.before ≤ 65535 := by
  obtain ⟨i, t, hpoints⟩ := exists_pointsAt h
  obtain ⟨message, label, hreport, -, -⟩ := oneLine_report h hpoints
  obtain ⟨p, hp⟩ := exists_spot_of_pointsAt hpoints
  have hdrawn (theme : Theme) (name : String) :
      (∃ drawn, e.report.draw theme (.ofText name text) = .ok drawn)
        ↔ theme.Allows (columns p.before) := by
    obtain ⟨hallows, hwide⟩ :=
      draw_at_spot theme (.ofText name text) (some message) label (p := p) hp
    have hwidest : theme.unlimited.widest? = none := rfl
    obtain ⟨drawn, hunlimited, -⟩ :=
      draw_single hwidest (.ofText name text) label (p := p) hp message
    rw [hreport]
    constructor
    · intro ⟨drawn', hdrawn⟩
      by_contra hnot
      cases hdrawn.symm.trans (hwide hnot)
    · intro hfits
      exact ⟨drawn, (hallows hfits).trans hunlimited⟩
  refine ⟨i, t, p, hpoints, hp, columns_le _, fun theme name => ⟨hdrawn theme name, ?_⟩,
    fun name => (hdrawn .standard name).trans (Theme.allows_iff rfl _)⟩
  rw [hreport]
  exact draw_at_spot theme (.ofText name text) (some message) label (p := p) hp

/-- Tabs and spaces of 65535 columns can still be drawn in front of an error. -/
theorem report_drawn_iff_widest :
    let gap := List.replicate 16383 '\t' ++ List.replicate 3 ' '
    ((withPrint : Engine Empty).run (blanksAndName gap)).result
        = .error (.parse (missingKeyword gap)) ∧
      columns gap = 65535 ∧
      ∃ drawn, (missingKeyword gap).report.draw .standard (.ofText "main" (blanksAndName gap))
        = .ok drawn := by
  intro gap
  have hgap : Token.Blanks gap :=
    List.forall_mem_append.mpr ⟨blanks_replicate rfl _, blanks_replicate rfl _⟩
  have hline : '\n' ∉ gap := by
    rw [List.mem_append, not_or]
    exact ⟨newline_not_mem_replicate (by decide) _, newline_not_mem_replicate (by decide) _⟩
  have hspaces : columns (List.replicate 3 ' ') = 3 := by decide
  have hcolumns : columns gap = 65535 := by rw [columns_append, columns_tabs, hspaces]
  have hfails := run_blanksAndName (withPrint : Engine Empty) hgap
  obtain ⟨i, t, p, hpoints, hp, -, -, hdrawn⟩ := report_drawn_iff hfails
  have hbefore : p.before = gap := by
    refine (Source.unnamed (blanksAndName gap)).before_eq (q := spotAfter gap hline) ?_
    exact (hp.trans (congrArg Span.start hpoints.span_eq).symm).trans (Nat.zero_add _).symm
  refine ⟨hfails, hcolumns, (hdrawn "main").mpr ?_⟩
  rw [hbefore, hcolumns]

/-- **A line can be too long for the report of an error:** behind tabs of 65536 columns there is an
error whose marks need a padding wider than the widest one, and the report is not drawn. -/
theorem padding_too_wide :
    let gap := List.replicate 16384 '\t'
    let source := Source.unnamed (blanksAndName gap)
    ((withPrint : Engine Empty).run source.text).result = .error (.parse (missingKeyword gap)) ∧
      (missingKeyword gap).span.start = 16384 ∧ source.lineIndex? 16384 = some 0 ∧
      source.before? 0 16384 = some gap ∧ 65535 < columns gap ∧
      (missingKeyword gap).report.draw .standard source = .error (.tooWide 65536) := by
  intro gap source
  have hline : '\n' ∉ gap := newline_not_mem_replicate (by decide) _
  have hcolumns : columns gap = 65536 := columns_tabs 16384
  have hstart : (missingKeyword gap).span.start = 16384 := byteLength_tabs 16384
  have hoffset : (spotAfter gap hline).offset = 16384 := (Nat.zero_add _).trans hstart
  have hlocates := source.locates (spotAfter gap hline)
  have hindex : source.lineIndex? 16384 = some 0 :=
    (congrArg source.lineIndex? hoffset.symm).trans hlocates.lineIndex
  have hbefore : source.before? 0 16384 = some gap :=
    (congrArg (source.before? 0) hoffset.symm).trans hlocates.before
  have hdraw := (draw_at_spot .standard source (some "syntax error") (missingKeyword gap).message
    (hoffset.trans hstart.symm)).2
  have hwide : ¬ Theme.standard.Allows (columns gap) := by
    rw [Theme.allows_iff rfl, hcolumns]
    decide
  refine ⟨run_blanksAndName _ (blanks_replicate rfl _), hstart, hindex, hbefore, ?_, ?_⟩
  · rw [hcolumns]
    decide
  · exact (hdraw hwide).trans (congrArg (Except.error ∘ Fault.tooWide) hcolumns)

end Engine

end Scriptlet
