import Scriptlet.Proofs.Report.Layout
import Scriptlet.Proofs.Text.Columns

/-!
# Alignment: an underline begins under the first character of its snippet

A line is drawn after a gutter with its number, and the underline after one with as many blanks and
after the padding.  Columns are counted on the lines as they are drawn, with their tabs expanded.

* `Spot.before_isPrefix`   a spot on the shown part of its line cuts this part in two;
* `width_blankGutter`      the two gutters are equally wide, whatever the number of the line;
* `width_left_of_mark`     so as many columns are to the left of the spot and of the first mark;
* `mark_under_start`       and this is how every snippet is drawn whose start is shown.
-/

namespace Scriptlet

open Text

/-! ## the shown part of a line -/

theorem isPrefix_of_byteLength_le {a b cs : List Char} (ha : a <+: cs) (hb : b <+: cs)
    (h : byteLength a ≤ byteLength b) : a <+: b := by
  obtain hab | ⟨rest, rfl⟩ := List.prefix_or_prefix_of_prefix ha hb
  · exact hab
  · rw [byteLength_append] at h
    have hrest : rest = [] := byteLength_eq_zero_iff.mp (by omega)
    rw [hrest, List.append_nil]

namespace Spot

variable {cs : List Char} (p : Spot cs)

theorem shown_isPrefix : p.shown <+: p.line := by
  obtain h | ⟨h, -⟩ := dropReturn_cases p.line
  · exact ⟨['\r'], h.symm⟩
  · exact ⟨[], by rw [List.append_nil]; exact h.symm⟩

theorem before_isPrefix (h : p.offset ≤ p.shownSpan.stop) : p.before <+: p.shown := by
  refine isPrefix_of_byteLength_le (List.prefix_append _ _) p.shown_isPrefix ?_
  unfold offset shownSpan at h
  exact Nat.le_of_add_le_add_left h

theorem slice?_before : slice? ⟨p.start, p.offset⟩ cs = some p.before := by
  rw [slice?_eq_some_iff]
  refine ⟨p.above, p.after ++ p.below, ?_, rfl⟩
  rw [List.append_assoc, ← List.append_assoc p.before]
  exact p.text_eq

end Spot

namespace Drawing

/-! ## columns of what is drawn -/

theorem expandTabs_append (a b : List Char) :
    expandTabs (a ++ b) = expandTabs a ++ expandTabs b := List.flatMap_append

theorem width_spaces (n : Nat) : width (spaces n).toList = n := by
  rw [spaces, String.toList_ofList, width_eq_length, List.length_replicate]
  intro c hc
  rw [List.eq_of_mem_replicate hc]
  decide +kernel

section

variable (theme : Theme) (n : Nat)

def numberGutter : String := toString n ++ " " ++ theme.gutter ++ " "

def blankGutter : String := spaces (toString n).length ++ " " ++ theme.gutter ++ " "

/-- **Both gutters are equally wide, whatever the number is.** -/
theorem width_blankGutter :
    width (blankGutter theme n).toList = width (numberGutter theme n).toList := by
  unfold blankGutter numberGutter
  simp only [String.toList_append, width_append, width_spaces, width_toString]

/-- **As many columns are to the left of the first mark as to the left of what it is under.** -/
theorem width_left_of_mark (before : List Char) :
    width (blankGutter theme n ++ spaces (width (expandTabs before))).toList
      = width (numberGutter theme n ++ String.ofList (expandTabs before)).toList := by
  rw [String.toList_append, width_append, width_spaces, width_blankGutter, String.toList_append,
    width_append, String.toList_ofList]

end

/-! ## a snippet whose start is shown -/

/-- **The first mark stands under the first character of its snippet.**  The snippet starts between
two characters and not beyond the shown part of its line.  Then this line is drawn in two parts, of
which the first is the text up to the snippet with its tabs expanded; the padding has one blank for
each column of this part, and both gutters are equally wide.  Only the limit of the theme can stop
the drawing, and does if that padding is wider. -/
theorem mark_under_start (theme : Theme) (source : Source) (s : Snippet) {i start : Nat}
    {shown : List Char} (hindex : source.lineIndex? s.span.start = some i)
    (hlineStart : source.lineStart? i = some start) (hshown : source.line? i = some shown)
    (hboundary : isBoundary s.span.start source.text.toList = true)
    (hwithin : s.span.start ≤ start + byteLength shown) :
    ∃ before after count drawn,
      shown = before ++ after ∧
      slice? ⟨start, s.span.start⟩ source.text.toList = some before ∧
      snippet theme source s = (if theme.widest?.any (· < width (expandTabs before)) then
        .error (.tooWide (width (expandTabs before))) else .ok drawn) ∧
      Piece.write false drawn = written [
        "In " ++ source.name ++ ":" ++ toString (i + 1) ++ ":"
          ++ toString (s.span.start - start + 1),
        numberGutter theme (i + 1) ++ String.ofList (expandTabs before)
          ++ String.ofList (expandTabs after),
        blankGutter theme (i + 1) ++ spaces (width (expandTabs before))
          ++ repeated count theme.underline ++ theme.underlineAfter ++ s.label] ∧
      1 ≤ count ∧
      width (blankGutter theme (i + 1)).toList = width (numberGutter theme (i + 1)).toList ∧
      width (blankGutter theme (i + 1) ++ spaces (width (expandTabs before))).toList
        = width (numberGutter theme (i + 1) ++ String.ofList (expandTabs before)).toList := by
  obtain ⟨p, hp⟩ := exists_spot hboundary
  have hlocates := source.locates p
  rw [← hp] at hindex
  obtain ⟨rfl, rfl, rfl⟩ := hlocates.eq_of_line hindex hlineStart hshown
  obtain ⟨after, hafter⟩ := p.before_isPrefix (by rw [hp]; exact hwithin)
  have hoffset : p.offset = min s.span.start source.size := by
    rw [← hp, Nat.min_eq_left hlocates.le]
  have hcolumn : s.span.start - p.start = byteLength p.before := by
    rw [← hp, Spot.offset, Nat.add_sub_cancel_left]
  refine ⟨p.before, after, marks s.span p.offset p.shownSpan.stop, _, hafter.symm, ?_,
    snippet_at_spot theme source s.label hoffset, ?_, Nat.le_max_left _ _,
    width_blankGutter theme _, width_left_of_mark theme _ _⟩
  · rw [← hp]
    exact p.slice?_before
  · have hline : sourceLine theme p = numberGutter theme (p.index + 1)
        ++ String.ofList (expandTabs p.before) ++ String.ofList (expandTabs after) := by
      rw [String.append_assoc, ← String.ofList_append, ← expandTabs_append, hafter]
      rfl
    rw [write_pieces, hline, hcolumn]
    rfl

/-- The snippet starts after a tab, a character of two bytes and one of two columns. -/
theorem mark_under_start_wide :
    let source := Source.ofText "demo" "ab\n\té漢 = y\r\n"
    source.lineIndex? 12 = some 1 ∧ source.lineStart? 1 = some 3 ∧
      source.line? 1 = some "\té漢 = y".toList ∧ isBoundary 12 source.text.toList = true ∧
      12 ≤ 3 + byteLength "\té漢 = y".toList ∧
      ∃ before drawn, slice? ⟨3, 12⟩ source.text.toList = some before ∧
        snippet .standard source ⟨"here", ⟨12, 20⟩⟩ = .ok drawn ∧
        width (expandTabs before) = 10 ∧
        width (blankGutter .standard 2 ++ spaces (width (expandTabs before))).toList
          = width (numberGutter .standard 2 ++ String.ofList (expandTabs before)).toList ∧
        Piece.write false drawn = "In demo:2:10\n2 │     é漢 = y\n  │           ^  here\n" := by
  intro source
  have hindex : source.lineIndex? 12 = some 1 := by decide +kernel
  have hlineStart : source.lineStart? 1 = some 3 := by decide +kernel
  have hshown : source.line? 1 = some "\té漢 = y".toList := by decide +kernel
  have hboundary : isBoundary 12 source.text.toList = true := by decide +kernel
  have hwithin : 12 ≤ 3 + byteLength "\té漢 = y".toList := by decide +kernel
  obtain ⟨before, -, -, drawn, -, hbefore, hdrawn, -, -, -, hcolumns⟩ :=
    mark_under_start .standard source ⟨"here", ⟨12, 20⟩⟩ hindex hlineStart hshown hboundary hwithin
  have hslice : slice? ⟨3, 12⟩ source.text.toList = some "\té漢 = ".toList := by decide +kernel
  obtain rfl := Option.some.inj (hbefore.symm.trans hslice)
  have hwidth : width (expandTabs "\té漢 = ".toList) = 10 := by decide +kernel
  have heval : (snippet .standard source ⟨"here", ⟨12, 20⟩⟩).toOption.map (Piece.write false)
      = some "In demo:2:10\n2 │     é漢 = y\n  │           ^  here\n" := by decide +kernel
  have hnarrow : Theme.standard.widest?.any (· < width (expandTabs "\té漢 = ".toList)) = false := by
    rw [hwidth]
    rfl
  rw [hnarrow] at hdrawn
  have hdrawn : snippet .standard source ⟨"here", ⟨12, 20⟩⟩ = .ok drawn := hdrawn
  rw [hdrawn] at heval
  exact ⟨hindex, hlineStart, hshown, hboundary, hwithin, _, drawn, hbefore, hdrawn, hwidth,
    hcolumns, Option.some.inj heval⟩

end Drawing

end Scriptlet
