import Scriptlet.Proofs.Report.Layout
import Scriptlet.Proofs.Report.Limit
import Scriptlet.Proofs.Source.Partition

/-!
# Snippets: which reports can be drawn, and where their snippets are

A span may be any two numbers.  Its snippet is drawn unless it starts inside a character.

* `Source.isBoundary_of_before?`   a line is cut between characters only;
* `Snippet.Drawn`                  how a snippet is drawn, wherever its span is;
* `snippet_cases`, `snippets_cases`   a snippet is drawn like this or it stops the drawing;
* `drawn_unless_inside`            so only one that starts inside a character does.
-/

namespace Scriptlet

open Text

namespace Source

variable {s : Source} {b : Nat}

/-- **A line is cut between characters only.** -/
theorem isBoundary_of_before? {i : Nat} {before : List Char} (hindex : s.lineIndex? b = some i)
    (h : s.before? i b = some before) : isBoundary b s.text.toList = true := by
  obtain ⟨start, hstart, hle, -⟩ := between_of_line hindex
  unfold before? at h
  rw [hstart] at h
  cases hraw : (splitLines s.text.toList)[i]? with
  | none =>
    rw [hraw] at h
    cases h
  | some raw =>
    rw [hraw] at h
    obtain ⟨p, rfl, -, rfl⟩ := exists_spot_of_line hraw
    obtain ⟨after, hline, hlength⟩ := takeBytes?_eq_some_iff.mp h
    rw [s.lineStart?_index p] at hstart
    have hstart : byteLength p.above = start := Option.some.inj hstart
    refine isBoundary_iff.mpr ⟨p.above ++ before, after ++ p.below, ?_, ?_⟩
    · refine p.text_eq.trans ?_
      rw [← Spot.line, hline]
      simp only [List.append_assoc]
    · rw [byteLength_append, hlength]
      omega

theorem before?_eq_none {i : Nat} (hindex : s.lineIndex? b = some i)
    (h : isBoundary b s.text.toList = false) : s.before? i b = none := by
  by_contra hsome
  obtain ⟨before, hbefore⟩ := Option.ne_none_iff_exists'.mp hsome
  rw [isBoundary_of_before? hindex hbefore] at h
  cases h

end Source

/-! ## where a snippet starts -/

namespace Snippet

def StartsInside (source : Source) (s : Snippet) : Prop :=
  s.span.start < source.size ∧ isBoundary s.span.start source.text.toList = false

variable {source : Source} {s : Snippet}

instance : Decidable (s.StartsInside source) := inferInstanceAs (Decidable (_ ∧ _))

theorem exists_spot_of_not_startsInside (h : ¬ s.StartsInside source) :
    ∃ p : Spot source.text.toList, p.offset = min s.span.start source.size := by
  apply exists_spot
  by_cases hlt : s.span.start < source.size
  · rw [Nat.min_eq_left hlt.le]
    by_contra hinside
    rw [Bool.not_eq_true] at hinside
    exact h ⟨hlt, hinside⟩
  · rw [Nat.min_eq_right (Nat.le_of_not_lt hlt), isBoundary_iff]
    exact ⟨source.text.toList, [], (List.append_nil _).symm, byteLength_toList source.text⟩

/-- The pieces are a drawing of the snippet at the spot where it starts, or at the end of the text,
with `count` marks.  The source tells everything about this spot, and the place is the exact one.
What is written of the pieces is told once more in full, with one mark after the other between the
padding and the label.  There is one mark at the least; more than one never run past the span or
past what is shown of the line above them. -/
structure DrawnAt (theme : Theme) (source : Source) (s : Snippet) (p : Spot source.text.toList)
    (count : Nat) (drawn : List Piece) : Prop where
  offset : p.offset = min s.span.start source.size
  locates : source.Locates p
  pieces : drawn = Drawing.pieces theme source.name s.label p count
  text : Piece.write false drawn = written [
    "In " ++ source.name ++ ":" ++ toString p.position.line ++ ":" ++ toString p.position.column,
    toString p.position.line ++ " " ++ theme.gutter ++ " "
      ++ String.ofList (Drawing.expandTabs p.shown),
    String.ofList (List.replicate (toString p.position.line).length ' ') ++ " " ++ theme.gutter
      ++ " " ++ String.ofList (List.replicate (width (Drawing.expandTabs p.before)) ' ')
      ++ String.join (List.replicate count theme.underline) ++ theme.underlineAfter ++ s.label]
  count_eq : count = max 1 (min s.span.stop (p.start + byteLength p.shown) - p.offset)
  one_le : 1 ≤ count
  within : 1 < count → p.offset + count ≤ min s.span.stop (p.start + byteLength p.shown)

def Drawn (theme : Theme) (source : Source) (s : Snippet) (drawn : List Piece) : Prop :=
  ∃ (p : Spot source.text.toList) (count : Nat), s.DrawnAt theme source p count drawn

end Snippet

namespace Drawing

theorem marks_le {span : Span} {start lineStop : Nat} (h : 1 < marks span start lineStop) :
    start + marks span start lineStop ≤ min span.stop lineStop := by
  unfold marks at h ⊢
  omega

section

variable {theme : Theme} (source : Source)

theorem snippet_of_startsInside {s : Snippet} (h : s.StartsInside source) :
    snippet theme source s = .error (.insideCharacter s.span.start) := by
  obtain ⟨hlt, hinside⟩ := h
  have hindex := Source.lineIndex?_of_le hlt.le
  have hbefore := Source.before?_eq_none hindex hinside
  unfold snippet
  simp only [Nat.min_eq_left hlt.le, hindex, hbefore]

variable (hwidest : theme.widest? = none)
include hwidest

/-- One snippet is drawn, or it starts inside a character. -/
theorem snippet_cases (s : Snippet) :
    (s.StartsInside source ∧ ∃ fault, snippet theme source s = .error fault) ∨
    (¬ s.StartsInside source ∧
      ∃ drawn, snippet theme source s = .ok drawn ∧ s.Drawn theme source drawn) := by
  by_cases hinside : s.StartsInside source
  · exact .inl ⟨hinside, _, snippet_of_startsInside source hinside⟩
  · obtain ⟨p, hoffset⟩ := Snippet.exists_spot_of_not_startsInside hinside
    have hdrawn := snippet_of_spot hwidest source s.label hoffset
    refine .inr ⟨hinside, _, hdrawn, p, marks s.span p.offset p.shownSpan.stop, ?_⟩
    exact {
      offset := hoffset
      locates := source.locates p
      pieces := rfl
      text := write_pieces theme source.name s.label p _
      count_eq := rfl
      one_le := Nat.le_max_left _ _
      within := marks_le }

theorem snippets_cases (ss : List Snippet) :
    ((∃ s ∈ ss, s.StartsInside source) ∧ ∃ fault, snippets theme source ss = .error fault) ∨
    ((∀ s ∈ ss, ¬ s.StartsInside source) ∧
      ∃ drawings, snippets theme source ss = .ok drawings.flatten ∧
        List.Forall₂ (Snippet.Drawn theme source) ss drawings) := by
  induction ss with
  | nil => exact .inr ⟨List.forall_mem_nil _, [], rfl, .nil⟩
  | cons s ss ih =>
    unfold snippets
    obtain ⟨hinside, fault, hfault⟩ | ⟨hinside, drawn, hdrawn, hs⟩ :=
      snippet_cases source hwidest s
    · rw [hfault]
      exact .inl ⟨⟨s, List.mem_cons_self, hinside⟩, fault, rfl⟩
    · rw [hdrawn]
      obtain ⟨⟨s', hs', hinside'⟩, fault, hfault⟩ | ⟨hrest, drawings, hdrawings, hss⟩ := ih
      · rw [hfault]
        exact .inl ⟨⟨s', List.mem_cons_of_mem s hs', hinside'⟩, fault, rfl⟩
      · rw [hdrawings]
        refine .inr ⟨?_, drawn :: drawings, rfl, .cons hs hss⟩
        rw [List.forall_mem_cons]
        exact ⟨hinside, hrest⟩

end

/-- **A report is drawn unless one of its snippets starts inside a character.**  Paddings of any
width taken for granted, nothing else about its spans stops it, be they reversed, empty, beyond the
end or on many lines: each snippet is drawn in its turn, at its place and with its marks. -/
theorem drawn_unless_inside (theme : Theme) (source : Source) (report : Report) :
    ((∃ fault, report.draw theme.unlimited source = .error fault) ↔
      ∃ s ∈ report.snippets, s.StartsInside source) ∧
    ((∀ s ∈ report.snippets, ¬ s.StartsInside source) → ∃ drawings,
      report.draw theme.unlimited source
        = .ok (header report ++ drawings.flatten ++ [.text "\n"]) ∧
      List.Forall₂ (Snippet.Drawn theme.unlimited source) report.snippets drawings) := by
  have hunlimited : theme.unlimited.widest? = none := rfl
  have hcases := snippets_cases source hunlimited report.snippets
  unfold Report.draw
  obtain ⟨⟨s, hs, hinside⟩, fault, hfault⟩ | ⟨houtside, drawings, hdrawings, hdrawn⟩ := hcases
  · rw [hfault]
    exact ⟨iff_of_true ⟨fault, rfl⟩ ⟨s, hs, hinside⟩, fun h => absurd hinside (h s hs)⟩
  · rw [hdrawings]
    refine ⟨iff_of_false nofun ?_, fun _ => ⟨drawings, rfl, hdrawn⟩⟩
    rintro ⟨s, hs, hinside⟩
    exact houtside s hs hinside

/-- Five snippets: one over two lines, a reversed one, an empty one, one beyond the end of the text,
and one of more marks than one on the last line.  A sixth one starts inside a character. -/
theorem drawn_unless_inside_six :
    let source := Source.ofText "demo" "abc\r\n\té = 漢"
    let report : Report := ⟨some "six", [⟨"two lines", ⟨1, 9⟩⟩, ⟨"reversed", ⟨2, 1⟩⟩,
      ⟨"empty", ⟨8, 8⟩⟩, ⟨"beyond", ⟨20, 30⟩⟩, ⟨"wide", ⟨11, 40⟩⟩]⟩
    let inside : Snippet := ⟨"inside", ⟨7, 8⟩⟩
    (∃ drawings, report.draw Theme.ascii.unlimited source
        = .ok (header report ++ drawings.flatten ++ [.text "\n"]) ∧
      List.Forall₂ (Snippet.Drawn Theme.ascii.unlimited source) report.snippets drawings ∧
      Piece.write false (header report ++ drawings.flatten ++ [.text "\n"])
        = "Error: six\n"
          ++ "In demo:1:2\n1 | abc\n  |  ^^  two lines\n"
          ++ "In demo:1:3\n1 | abc\n  |   ^  reversed\n"
          ++ "In demo:2:4\n2 |     é = 漢\n  |      ^  empty\n"
          ++ "In demo:2:10\n2 |     é = 漢\n  |           ^  beyond\n"
          ++ "In demo:2:7\n2 |     é = 漢\n  |         ^^^  wide\n\n") ∧
    ∃ fault, Report.draw Theme.ascii.unlimited source ⟨some "six", report.snippets ++ [inside]⟩
      = .error fault := by
  intro source report inside
  have houtside : ∀ s ∈ report.snippets, ¬ s.StartsInside source := by
    simp only [report, List.forall_mem_cons]
    refine ⟨?_, ?_, ?_, ?_, ?_, List.forall_mem_nil _⟩ <;> decide +kernel
  have hinside : inside.StartsInside source := by decide +kernel
  obtain ⟨drawings, hdrawn, hsnippets⟩ := (drawn_unless_inside .ascii source report).2 houtside
  have heval : (report.draw Theme.ascii.unlimited source).toOption.map (Piece.write false)
      = some ("Error: six\n"
        ++ "In demo:1:2\n1 | abc\n  |  ^^  two lines\n"
        ++ "In demo:1:3\n1 | abc\n  |   ^  reversed\n"
        ++ "In demo:2:4\n2 |     é = 漢\n  |      ^  empty\n"
        ++ "In demo:2:10\n2 |     é = 漢\n  |           ^  beyond\n"
        ++ "In demo:2:7\n2 |     é = 漢\n  |         ^^^  wide\n\n") := by decide +kernel
  rw [hdrawn] at heval
  refine ⟨⟨drawings, hdrawn, hsnippets, Option.some.inj heval⟩, ?_⟩
  refine (drawn_unless_inside .ascii source ⟨some "six", report.snippets ++ [inside]⟩).1.mpr ?_
  exact ⟨inside, List.mem_append_right _ (List.mem_singleton_self _), hinside⟩

end Drawing

end Scriptlet
