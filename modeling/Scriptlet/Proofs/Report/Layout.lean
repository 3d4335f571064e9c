import Mathlib.Order.Interval.Finset.Nat
import Scriptlet.Proofs.Source.Lines
import Scriptlet.Proofs.Text.OneLine
import Scriptlet.Report.Drawing

/-!
# Layout: the lines that a report is drawn in

* `marks_eq_card`         the marks of a span are its bytes on its first line, and one at the least;
* `snippet_at_spot`       a snippet is drawn with the line of the spot where it starts;
* `draw_single`           the lines of a report with a message and one snippet;
* `oneLine_of_mem_lines`  none of them has a line feed in it.
-/

namespace Scriptlet

open Text

def Span.common (a b : Span) : Finset Nat := Finset.Ico a.start a.stop ∩ Finset.Ico b.start b.stop

theorem Span.card_common (a b : Span) :
    (a.common b).card = min a.stop b.stop - max a.start b.start := by
  rw [common, Finset.Ico_inter_Ico, Nat.card_Ico]

structure Theme.OneLine (theme : Theme) : Prop where
  gutter : Text.OneLine theme.gutter
  underline : Text.OneLine theme.underline
  underlineAfter : Text.OneLine theme.underlineAfter

/-- the bytes of the line of a spot that are shown -/
def Spot.shownSpan {cs : List Char} (p : Spot cs) : Span := ⟨p.start, p.start + byteLength p.shown⟩

/-! ## pieces as text -/

namespace Piece

theorem write_nil (colour : Bool) : write colour [] = "" := rfl

theorem write_cons (piece : Piece) (pieces : List Piece) :
    write false (piece :: pieces) = piece.plain ++ write false pieces := by
  rw [write, List.map_cons, String.join_cons]
  rfl

theorem write_append (colour : Bool) (a b : List Piece) :
    write colour (a ++ b) = write colour a ++ write colour b := by
  rw [write, List.map_append, String.join_append]
  rfl

theorem write_text (colour : Bool) (s : String) : write colour [.text s] = s := by
  have hpiece : (if colour then ansi else plain) (.text s) = s := by cases colour <;> rfl
  rw [write, List.map_singleton, hpiece, String.join_cons, String.join_nil, String.append_empty]

end Piece

namespace Drawing

/-- **The marks of a span are its bytes on the first of its lines, and one at the least.** -/
theorem marks_eq_card {span : Span} (line : Span) (h : line.start ≤ span.start) :
    marks span span.start line.stop = max 1 (span.common line).card := by
  rw [Span.card_common, Nat.max_eq_left h]
  rfl

/-! ## the lines of a report -/

section

variable {cs : List Char} (theme : Theme) (name label : String) (p : Spot cs) (count : Nat)

def placeLine : String :=
  "In " ++ name ++ ":" ++ toString p.position.line ++ ":" ++ toString p.position.column

def sourceLine : String :=
  toString p.position.line ++ " " ++ theme.gutter ++ " " ++ String.ofList (expandTabs p.shown)

def markLine : String :=
  spaces (toString p.position.line).length ++ " " ++ theme.gutter ++ " "
    ++ spaces (width (expandTabs p.before)) ++ repeated count theme.underline
    ++ theme.underlineAfter ++ label

/-- the lines of a report with a message and a snippet that starts at the spot -/
def lines (message : String) : List String :=
  ["Error: " ++ message, placeLine name p, sourceLine theme p, markLine theme label p count, ""]

/-- a snippet that starts at the spot, with `count` marks -/
def pieces : List Piece :=
  [.style .subtle, .text (placeLine name p ++ "\n"), .reset]
    ++ gutter theme (toString p.position.line)
    ++ [.text (String.ofList (expandTabs p.shown) ++ "\n")]
    ++ gutter theme (spaces (toString p.position.line).length)
    ++ [.style .error, .text (spaces (width (expandTabs p.before)) ++ repeated count theme.underline
      ++ theme.underlineAfter ++ label ++ "\n"), .reset]

theorem write_gutter (number : String) :
    Piece.write false (gutter theme number) = number ++ " " ++ theme.gutter ++ " " := by
  simp only [gutter, Piece.write_cons, Piece.write_nil, Piece.plain, String.empty_append,
    String.append_empty]

theorem write_pieces : Piece.write false (pieces theme name label p count)
    = written [placeLine name p, sourceLine theme p, markLine theme label p count] := by
  simp only [pieces, Piece.write_append, write_gutter, Piece.write_cons, Piece.write_nil,
    Piece.plain, String.empty_append, String.append_empty, written_cons, written_nil, sourceLine,
    markLine, String.append_assoc]

end

/-- **A snippet is drawn with the line of the spot where it starts**, or of the one at the end,
unless the padding before its underline is too wide. -/
theorem snippet_at_spot (theme : Theme) (source : Source) (label : String)
    {p : Spot source.text.toList} {span : Span} (hoffset : p.offset = min span.start source.size) :
    snippet theme source ⟨label, span⟩
      = if theme.widest?.any (· < width (expandTabs p.before)) then
          .error (.tooWide (width (expandTabs p.before)))
        else .ok (pieces theme source.name label p (marks span p.offset p.shownSpan.stop)) := by
  have hp := source.locates p
  unfold snippet padding
  simp only [← hoffset, hp.lineIndex, hp.position, hp.lineStart, hp.line, hp.before,
    Option.getD_some, ← width_expandTabs]
  split_ifs
  · rfl
  · simp only [pieces, placeLine, Spot.shownSpan, String.append_assoc]

section

variable {theme : Theme} (hwidest : theme.widest? = none) (source : Source) (label : String)
  {p : Spot source.text.toList} {span : Span}
include hwidest

theorem snippet_of_spot (hoffset : p.offset = min span.start source.size) :
    snippet theme source ⟨label, span⟩
      = .ok (pieces theme source.name label p (marks span p.offset p.shownSpan.stop)) := by
  rw [snippet_at_spot theme source label hoffset, hwidest]
  rfl

variable (hstart : p.offset = span.start)
include hstart

theorem snippet_eq : snippet theme source ⟨label, span⟩
    = .ok (pieces theme source.name label p (max 1 (span.common p.shownSpan).card)) := by
  have hmarks : marks span p.offset p.shownSpan.stop = max 1 (span.common p.shownSpan).card := by
    rw [hstart]
    refine marks_eq_card p.shownSpan ?_
    rw [← hstart]
    exact Nat.le_add_right _ _
  have hoffset : p.offset = min span.start source.size := by
    rw [← hstart, Nat.min_eq_left (source.locates p).le]
  rw [snippet_of_spot hwidest source label hoffset, hmarks]

theorem draw_eq (message : String) : Report.draw theme source ⟨some message, [⟨label, span⟩]⟩
    = .ok (header ⟨some message, [⟨label, span⟩]⟩
      ++ pieces theme source.name label p (max 1 (span.common p.shownSpan).card)
      ++ [.text "\n"]) := by
  simp only [Report.draw, snippets, snippet_eq hwidest source label hstart, List.append_nil]

/-- **Only the line that says where a snippet is depends on the name of the source**, in colour or
without. -/
theorem draw_place (message : String) (colour : Bool) : ∃ above below, ∀ name, ∃ drawn,
    Report.draw theme (.ofText name source.text) ⟨some message, [⟨label, span⟩]⟩ = .ok drawn ∧
      Piece.write colour drawn = above ++ placeLine name p ++ "\n" ++ below ++ "\n" := by
  obtain ⟨rest, hrest⟩ : ∃ rest, ∀ name,
      pieces theme name label p (max 1 (span.common p.shownSpan).card)
        = [.style .subtle] ++ [.text (placeLine name p ++ "\n")] ++ rest := ⟨_, fun _ => rfl⟩
  refine ⟨Piece.write colour (header ⟨some message, [⟨label, span⟩]⟩ ++ [.style .subtle]),
    Piece.write colour rest, fun name =>
    ⟨_, draw_eq hwidest (.ofText name source.text) label (p := p) hstart message, ?_⟩⟩
  simp only [Source.ofText, hrest, Piece.write_append, Piece.write_text, String.append_assoc]

/-- **The lines of a report with a message and one snippet.** -/
theorem draw_single (message : String) : ∃ drawn,
    Report.draw theme source ⟨some message, [⟨label, span⟩]⟩ = .ok drawn ∧
      Piece.write false drawn = written (lines theme source.name label p
        (max 1 (span.common p.shownSpan).card) message) := by
  refine ⟨_, draw_eq hwidest source label hstart message, ?_⟩
  simp only [header, Piece.write_append, write_pieces, Piece.write_cons, Piece.write_nil,
    Piece.plain, String.empty_append, String.append_empty, lines, written_cons, written_nil,
    String.append_assoc]
  rfl

end

/-! ## line feeds -/

section

variable {theme : Theme}

theorem not_mem_expandTabs {cs : List Char} (h : '\n' ∉ cs) : '\n' ∉ expandTabs cs := by
  unfold expandTabs
  rw [List.mem_flatMap]
  intro hmem
  obtain ⟨c, hc, hmem⟩ := hmem
  split at hmem
  · exact absurd hmem (by decide)
  · rw [List.mem_singleton] at hmem
    exact h (hmem ▸ hc)

theorem oneLine_spaces (n : Nat) : OneLine (spaces n) := by
  unfold spaces
  rw [oneLine_ofList]
  intro h
  exact absurd (List.eq_of_mem_replicate h) (by decide)

theorem oneLine_repeated (n : Nat) {s : String} (h : OneLine s) : OneLine (repeated n s) := by
  unfold repeated
  rw [oneLine_join]
  intro t ht
  rwa [List.eq_of_mem_replicate ht]

/-- **No line of a report has a line feed in it, when none of the texts that it is made of has.** -/
theorem oneLine_of_mem_lines {cs : List Char} {name label message : String} (p : Spot cs)
    (count : Nat) (htheme : theme.OneLine) (hname : OneLine name) (hlabel : OneLine label)
    (hmessage : OneLine message) :
    ∀ line ∈ lines theme name label p count message, OneLine line := by
  have hgutter := htheme.gutter
  have hshown : OneLine (String.ofList (expandTabs p.shown)) :=
    oneLine_ofList.mpr (not_mem_expandTabs p.not_mem_shown)
  have hmarks := oneLine_repeated count htheme.underline
  have hafter := htheme.underlineAfter
  have hliteral : OneLine "Error: " ∧ OneLine "In " ∧ OneLine ":" ∧ OneLine " " := by decide
  unfold lines
  simp only [List.forall_mem_cons, placeLine, sourceLine, markLine, oneLine_append,
    oneLine_toString, oneLine_spaces, hgutter, hshown, hmarks, hafter, hname, hlabel, hmessage,
    hliteral, and_self, true_and]
  exact ⟨by decide, List.forall_mem_nil _⟩

end

end Drawing

end Scriptlet
