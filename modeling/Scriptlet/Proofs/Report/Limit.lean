import Scriptlet.Runner

/-!
# Limit: a widest padding stops a drawing, and changes nothing else

A theme may have a widest padding.  What is drawn without it is also drawn with it, or the drawing
stops at a padding that is too wide.

* `Theme.unlimited`    the strings of a theme, with paddings of any width;
* `UpToWidth`          two drawings are one, but that the first may stop in this way;
* `draw_upToWidth`     a report with the limit of a theme and without it;
* `step_upToWidth`     the steps of a runner.
-/

namespace Scriptlet

def Theme.unlimited (theme : Theme) : Theme := { theme with widest? := none }

namespace Drawing

/-- The two are the same, unless the first one is stopped by a padding that is too wide. -/
inductive UpToWidth {α : Type} : Except Fault α → Except Fault α → Prop where
  | same (x : Except Fault α) : UpToWidth x x
  | tooWide (n : Nat) (y : Except Fault α) : UpToWidth (.error (.tooWide n)) y

variable (theme : Theme) (source : Source)

theorem padding_upToWidth (n : Nat) :
    UpToWidth (padding theme n) (padding theme.unlimited n) := by
  unfold padding
  split
  · exact .tooWide n _
  · exact .same _

theorem snippet_upToWidth (s : Snippet) :
    UpToWidth (snippet theme source s) (snippet theme.unlimited source s) := by
  unfold snippet
  dsimp only
  split
  · exact .same _
  · split
    · exact .same _
    · rename_i before _
      have hpad := padding_upToWidth theme (columns before)
      generalize padding theme (columns before) = x at hpad
      generalize padding theme.unlimited (columns before) = y at hpad
      cases hpad with
      | same => exact .same _
      | tooWide n => exact .tooWide n _

theorem snippets_upToWidth (ss : List Snippet) :
    UpToWidth (snippets theme source ss) (snippets theme.unlimited source ss) := by
  induction ss with
  | nil => exact .same _
  | cons s ss ih =>
    have hfirst := snippet_upToWidth theme source s
    unfold snippets
    generalize snippet theme source s = x at hfirst
    generalize snippet theme.unlimited source s = y at hfirst
    cases hfirst with
    | tooWide n => exact .tooWide n _
    | same =>
      cases x with
      | error fault => exact .same _
      | ok drawn =>
        generalize snippets theme source ss = more at ih
        generalize snippets theme.unlimited source ss = more' at ih
        cases ih with
        | same => exact .same _
        | tooWide n => exact .tooWide n _

/-- **A limit only stops a drawing.** -/
theorem draw_upToWidth (report : Report) :
    UpToWidth (report.draw theme source) (report.draw theme.unlimited source) := by
  have hsnippets := snippets_upToWidth theme source report.snippets
  unfold Report.draw
  generalize snippets theme source report.snippets = x at hsnippets
  generalize snippets theme.unlimited source report.snippets = y at hsnippets
  cases hsnippets with
  | same => exact .same _
  | tooWide n => exact .tooWide n _

end Drawing

namespace Runner

open Drawing

variable (theme : Theme) (colour : Bool) (source : Source)

theorem failed_upToWidth (printed : List String) (report : Report) :
    UpToWidth ((⟨theme, colour⟩ : Runner).failed source printed report)
      ((⟨theme.unlimited, colour⟩ : Runner).failed source printed report) := by
  have hdraw := draw_upToWidth theme source report
  unfold failed diagnose
  dsimp only
  generalize report.draw theme source = x at hdraw
  generalize report.draw theme.unlimited source = y at hdraw
  cases hdraw with
  | same => exact .same _
  | tooWide n => exact .tooWide n _

/-- **A limit only stops a step.** -/
theorem step_upToWidth (mode : Mode) :
    UpToWidth ((⟨theme, colour⟩ : Runner).step source mode)
      ((⟨theme.unlimited, colour⟩ : Runner).step source mode) := by
  unfold step
  cases mode with
  | execute =>
    dsimp only
    split
    · exact .same _
    · exact failed_upToWidth theme colour source _ _
  | tokens => exact .same _
  | script =>
    dsimp only
    split
    · exact .same _
    · exact failed_upToWidth theme colour source _ _

end Runner

end Scriptlet
