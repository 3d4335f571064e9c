import Scriptlet.Proofs.Report.Layout

/-!
# Colour: a drawing is its texts, and some of them stand between a style and its reset

A drawing is read from left to right; each of its texts has the style that is set where it stands.

* `Piece.painted`         the texts of a drawing with their styles;
* `Painted.pieces`        a text in its style: alone, or after the style and before a reset;
* `painted_painting`      texts drawn like this are read back, and no style is left after them;
* `snippet_painting`      each snippet is drawn like this, in five texts;
* `colour_set_and_reset`  and so is every report.
-/

namespace Scriptlet

structure Painted where
  style? : Option Style
  text : String
deriving DecidableEq

namespace Piece

/-! ## drawings read from left to right -/

def text? : Piece → Option String
  | .text s => some s
  | .style _ => none
  | .reset => none

def isChange : Piece → Bool
  | .text _ => false
  | .style _ => true
  | .reset => true

/-- the style that is set after the piece -/
def after (style? : Option Style) : Piece → Option Style
  | .text _ => style?
  | .style s => some s
  | .reset => none

/-- the texts of a drawing, each with the style that is set where it stands -/
def painted (style? : Option Style) : List Piece → List Painted
  | [] => []
  | .text s :: rest => ⟨style?, s⟩ :: painted style? rest
  | .style s :: rest => painted (some s) rest
  | .reset :: rest => painted none rest

def pair (s : Style) : List Piece := [.style s, .reset]

end Piece

/-- **Without colour, a drawing is its texts.** -/
theorem Piece.write_eq_join (pieces : List Piece) :
    write false pieces = String.join (pieces.filterMap text?) := by
  induction pieces with
  | nil => rfl
  | cons piece pieces ih =>
    rw [write_cons, ih]
    cases piece with
    | text s => exact (String.join_cons ..).symm
    | style s => exact String.empty_append
    | reset => exact String.empty_append

/-! ## texts in their styles -/

namespace Painted

/-- A text without a style stands alone; one with a style stands between it and its reset. -/
def pieces : Painted → List Piece
  | ⟨none, s⟩ => [.text s]
  | ⟨some style, s⟩ => [.style style, .text s, .reset]

def ansi : Painted → String
  | ⟨none, s⟩ => s
  | ⟨some style, s⟩ => (Piece.style style).ansi ++ s ++ Piece.reset.ansi

theorem write_pieces (t : Painted) : Piece.write true t.pieces = t.ansi := by
  obtain ⟨_ | style, s⟩ := t
  · exact Piece.write_text true s
  · simp only [pieces, ansi, Piece.write, if_true, List.map_cons, List.map_nil, String.join_cons,
      String.join_nil, String.append_empty, String.append_assoc, Piece.ansi]

def painting (ts : List Painted) : List Piece := ts.flatMap pieces

theorem painting_cons (t : Painted) (ts : List Painted) :
    painting (t :: ts) = t.pieces ++ painting ts := rfl
theorem painting_append (a b : List Painted) : painting (a ++ b) = painting a ++ painting b :=
  List.flatMap_append

variable (ts : List Painted)

/-- **Texts in their styles are read back.** -/
theorem painted_painting : Piece.painted none (painting ts) = ts := by
  induction ts with
  | nil => rfl
  | cons t ts ih =>
    obtain ⟨_ | style, s⟩ := t
    · exact congrArg (_ :: ·) ih
    · exact congrArg (_ :: ·) ih

theorem foldl_after_painting : (painting ts).foldl Piece.after none = none := by
  induction ts with
  | nil => rfl
  | cons t ts ih =>
    obtain ⟨_ | style, s⟩ := t
    · exact ih
    · exact ih

theorem filter_isChange_painting :
    (painting ts).filter Piece.isChange = (ts.filterMap style?).flatMap Piece.pair := by
  induction ts with
  | nil => rfl
  | cons t ts ih =>
    obtain ⟨_ | style, s⟩ := t
    · exact ih
    · exact congrArg (Piece.pair style ++ ·) ih

theorem write_painting : Piece.write true (painting ts) = String.join (ts.map ansi) := by
  induction ts with
  | nil => rfl
  | cons t ts ih =>
    rw [painting_cons, Piece.write_append, write_pieces, ih, List.map_cons, String.join_cons]

end Painted

/-! ## reports -/

def Report.heading (report : Report) : String :=
  match report.message with
  | some message => " " ++ message ++ "\n"
  | none => "\n"

namespace Drawing

open Painted

variable {theme : Theme} {source : Source}

/-- the styles of the texts of a snippet: its place, its line after a gutter, and the underline after
another one -/
def snippetStyles : List (Option Style) :=
  [some .subtle, some .subtle, none, some .subtle, some .error]

theorem header_painting (report : Report) :
    header report = painting [⟨some .error, "Error:"⟩, ⟨none, report.heading⟩] := rfl

theorem snippet_painting {s : Snippet} {drawn : List Piece}
    (h : snippet theme source s = .ok drawn) :
    ∃ ts, drawn = painting ts ∧ ts.map style? = snippetStyles := by
  have hindex := Source.lineIndex?_of_le (Nat.min_le_right s.span.start source.size)
  unfold snippet at h
  simp only [hindex] at h
  split at h
  · cases h
  · split at h
    · cases h
    · obtain rfl := Except.ok.inj h
      exact ⟨[⟨some .subtle, _⟩, ⟨some .subtle, _⟩, ⟨none, _⟩, ⟨some .subtle, _⟩,
        ⟨some .error, _⟩], rfl, rfl⟩

theorem snippets_painting {ss : List Snippet} {drawn : List Piece}
    (h : snippets theme source ss = .ok drawn) :
    ∃ drawings : List (List Painted), drawn = painting drawings.flatten ∧
      drawings.map (List.map style?) = ss.map fun _ => snippetStyles := by
  induction ss generalizing drawn with
  | nil =>
    cases h
    exact ⟨[], rfl, rfl⟩
  | cons s ss ih =>
    unfold snippets at h
    split at h
    · cases h
    · rename_i first hfirst
      split at h
      · cases h
      · rename_i more hmore
        obtain rfl := Except.ok.inj h
        obtain ⟨ts, rfl, hts⟩ := snippet_painting hfirst
        obtain ⟨drawings, rfl, hdrawings⟩ := ih hmore
        refine ⟨ts :: drawings, ?_, ?_⟩
        · rw [List.flatten_cons, painting_append]
        · rw [List.map_cons, List.map_cons, hts, hdrawings]

theorem draw_painting {report : Report} {pieces : List Piece}
    (h : report.draw theme source = .ok pieces) :
    ∃ drawings : List (List Painted),
      pieces = painting ([⟨some .error, "Error:"⟩, ⟨none, report.heading⟩] ++ drawings.flatten
        ++ [⟨none, "\n"⟩]) ∧
      drawings.map (List.map style?) = report.snippets.map fun _ => snippetStyles := by
  unfold Report.draw at h
  split at h
  · cases h
  · rename_i drawn hdrawn
    obtain ⟨drawings, rfl, hstyles⟩ := snippets_painting hdrawn
    refine ⟨drawings, ?_, hstyles⟩
    rw [← Except.ok.inj h, header_painting, painting_append, painting_append]
    rfl

theorem filterMap_style?_flatten {drawings : List (List Painted)} {ss : List Snippet}
    (h : drawings.map (List.map style?) = ss.map fun _ => snippetStyles) :
    drawings.flatten.filterMap style?
      = ss.flatMap fun _ => [Style.subtle, .subtle, .subtle, .error] := by
  have hid : drawings.flatten.filterMap style?
      = (drawings.map (List.map style?)).flatten.filterMap id := by
    rw [← List.map_flatten, List.filterMap_map]
    rfl
  rw [hid, h, List.filterMap_flatten, List.map_map, List.flatMap]
  rfl

/-- **Colour changes nothing but colour.**  Without its changes of style, a report is what is drawn
of it without colour.  The changes come in pairs of a style and its reset, one for `Error:` and four
for each snippet, and on a terminal each of them encloses one text.  So the message has no style,
no more than the lines of the source have, and none is left after the report. -/
theorem colour_set_and_reset {report : Report} {pieces : List Piece}
    (h : report.draw theme source = .ok pieces) :
    Piece.write false pieces = String.join (pieces.filterMap Piece.text?) ∧
    pieces.filter Piece.isChange
      = (Style.error :: report.snippets.flatMap fun _ => [.subtle, .subtle, .subtle, .error]).flatMap
          Piece.pair ∧
    pieces.foldl Piece.after none = none ∧
    Piece.write true pieces = String.join ((Piece.painted none pieces).map Painted.ansi) ∧
    ∃ drawings : List (List Painted),
      Piece.painted none pieces = [⟨some .error, "Error:"⟩, ⟨none, report.heading⟩]
        ++ drawings.flatten ++ [⟨none, "\n"⟩] ∧
      drawings.map (List.map style?) = report.snippets.map fun _ => snippetStyles := by
  obtain ⟨drawings, rfl, hstyles⟩ := draw_painting h
  refine ⟨Piece.write_eq_join _, ?_, foldl_after_painting _, ?_, drawings, painted_painting _,
    hstyles⟩
  · have hfirst : List.filterMap style? [⟨some .error, "Error:"⟩, ⟨none, report.heading⟩]
        = [.error] := rfl
    have hlast : List.filterMap style? [⟨none, "\n"⟩] = [] := rfl
    rw [filter_isChange_painting, List.filterMap_append, List.filterMap_append, hfirst, hlast,
      filterMap_style?_flatten hstyles, List.append_nil, List.singleton_append]
  · rw [painted_painting, write_painting]

/-- A report of two snippets, one of them beyond the end of its source. -/
theorem colour_set_and_reset_two :
    let report : Report := ⟨some "two", [⟨"first", ⟨0, 1⟩⟩, ⟨"second", ⟨9, 12⟩⟩]⟩
    ∃ pieces, report.draw .ascii (.ofText "demo" "x\ty") = .ok pieces ∧
      pieces.filter Piece.isChange = [.style .error, .reset,
        .style .subtle, .reset, .style .subtle, .reset, .style .subtle, .reset, .style .error, .reset,
        .style .subtle, .reset, .style .subtle, .reset, .style .subtle, .reset, .style .error,
        .reset] ∧
      String.join (pieces.filterMap Piece.text?) = "Error: two\nIn demo:1:1\n1 | x    y\n"
        ++ "  | ^  first\nIn demo:1:4\n1 | x    y\n  |       ^  second\n\n" := by
  intro report
  have heval : (report.draw .ascii (.ofText "demo" "x\ty")).toOption.map (Piece.write false)
      = some ("Error: two\nIn demo:1:1\n1 | x    y\n"
        ++ "  | ^  first\nIn demo:1:4\n1 | x    y\n  |       ^  second\n\n") := by decide +kernel
  cases hdrawn : report.draw .ascii (.ofText "demo" "x\ty") with
  | error fault =>
    rw [hdrawn] at heval
    cases heval
  | ok pieces =>
    rw [hdrawn] at heval
    obtain ⟨hplain, hchanges, -⟩ := colour_set_and_reset hdrawn
    exact ⟨pieces, rfl, hchanges, hplain.symm.trans (Option.some.inj heval)⟩

end Drawing

end Scriptlet
