import Scriptlet.Proofs.Engine.Diagnosis
import Scriptlet.Proofs.Report.Alignment
import Scriptlet.Proofs.Report.Limit

/-!
# Underline: how much of a line the marks of an error are under

The marks begin under the token that an error is about.  There is one for each byte of what is shown
of this token, not for each column.

* `Spot.underlined`          what a span covers of the line that it starts on, as it is shown;
* `Spot.shown_eq`            this line is what is before the span, what is marked, and the rest;
* `Drawing.marks_fit_iff`    when as many marks as bytes are as many as columns;
* `underline_counts_bytes`   the marks of every error of a run, and when they fit the token.
-/

namespace Scriptlet

open Text

/-! ## what is marked of a line -/

namespace Spot

variable {cs : List Char} (p : Spot cs)

/-- what a span that starts at the spot covers of the line of the spot, as it is shown -/
def underlined (span : Span) : List Char :=
  (slice? ⟨p.offset, min span.stop p.shownSpan.stop⟩ cs).getD []

theorem slice?_offset {xs : List Char} (h : xs <+: p.after ++ p.below) :
    slice? ⟨p.offset, p.offset + byteLength xs⟩ cs = some xs := by
  obtain ⟨rest, hrest⟩ := h
  rw [slice?_eq_some_iff]
  refine ⟨p.above ++ p.before, rest, ?_, ?_⟩
  · refine p.text_eq.trans ?_
    rw [List.append_assoc p.before, ← hrest]
    simp only [List.append_assoc]
  · rw [byteLength_append]
    rfl

variable {p} {span : Span} {xs : List Char}

/-- Beyond what is shown of the line, nothing is marked. -/
theorem underlined_of_lt (h : p.shownSpan.stop < p.offset) : p.underlined span = [] := by
  unfold underlined slice?
  rw [if_neg]
  · rfl
  · simp only
    omega

theorem isPrefix_of_slice? (hstart : p.offset = span.start) (hslice : slice? span cs = some xs) :
    xs <+: p.after ++ p.below ∧ span.stop = p.offset + byteLength xs := by
  obtain ⟨start, stop⟩ := span
  obtain rfl : p.offset = start := hstart
  have htext : cs = (p.above ++ p.before) ++ (p.after ++ p.below) := by
    simpa only [List.append_assoc] using p.text_eq
  have hoffset : p.offset = byteLength (p.above ++ p.before) := (byteLength_append _ _).symm
  have hslice : slice? ⟨byteLength (p.above ++ p.before), stop⟩
      ((p.above ++ p.before) ++ (p.after ++ p.below)) = some xs := by
    rw [← htext, ← hoffset]
    exact hslice
  obtain ⟨rest, hrest, hstop⟩ := slice?_append_iff.mp hslice
  exact ⟨⟨rest, hrest.symm⟩, by rw [hoffset]; exact hstop⟩

/-- **The shown line is what is before the span, what is marked of it, and the rest.**  What is
marked goes up to the end of the span, or of what is shown of the line. -/
theorem shown_eq (hstart : p.offset = span.start) (hslice : slice? span cs = some xs)
    (h : p.offset ≤ p.shownSpan.stop) :
    (∃ rest, p.shown = p.before ++ p.underlined span ++ rest) ∧
      byteLength (p.underlined span) = min span.stop p.shownSpan.stop - p.offset := by
  obtain ⟨hxs, hstop⟩ := isPrefix_of_slice? hstart hslice
  obtain ⟨after, hshown⟩ := p.before_isPrefix h
  have hshownStop : p.shownSpan.stop = p.offset + byteLength after := by
    rw [shownSpan, ← hshown, byteLength_append, offset, Nat.add_assoc]
  have hafter : after <+: p.after ++ p.below := by
    have hline : p.before ++ after <+: p.before ++ p.after := hshown ▸ p.shown_isPrefix
    exact ((List.prefix_append_right_inj p.before).mp hline).trans (List.prefix_append _ _)
  -- The shorter one of the span and the rest of the line is what is marked.
  obtain ⟨part, hpart, hafterPart, hmin⟩ : ∃ part, part <+: p.after ++ p.below ∧ part <+: after ∧
      min span.stop p.shownSpan.stop = p.offset + byteLength part := by
    rw [hstop, hshownStop]
    obtain hle | hle := List.prefix_or_prefix_of_prefix hxs hafter
    · refine ⟨xs, hxs, hle, ?_⟩
      obtain ⟨tail, rfl⟩ := hle
      rw [byteLength_append]
      omega
    · refine ⟨after, hafter, List.prefix_rfl, ?_⟩
      obtain ⟨tail, rfl⟩ := hle
      rw [byteLength_append]
      omega
  have hunderlined : p.underlined span = part := by
    rw [underlined, hmin, p.slice?_offset hpart, Option.getD_some]
  obtain ⟨rest, rfl⟩ := hafterPart
  rw [hunderlined, hmin, Nat.add_sub_cancel_left]
  exact ⟨⟨rest, by rw [← hshown, List.append_assoc]⟩, rfl⟩

/-- **What is marked has as many bytes as the span and the shown line have in common.** -/
theorem byteLength_underlined (hstart : p.offset = span.start) (hslice : slice? span cs = some xs) :
    byteLength (p.underlined span) = (span.common p.shownSpan).card := by
  have hle : p.shownSpan.start ≤ span.start := by
    rw [← hstart]
    exact Nat.le_add_right _ _
  rw [Span.card_common, Nat.max_eq_left hle, ← hstart]
  obtain h | h := Nat.lt_or_ge p.shownSpan.stop p.offset
  · rw [underlined_of_lt h, byteLength_nil]
    omega
  · exact (shown_eq hstart hslice h).2

end Spot

theorem Source.underlined_eq {text name : String} {p : Spot text.toList} {span : Span}
    {n i start : Nat} {shown : List Char} (hoffset : p.offset = n)
    (hindex : (ofText name text).lineIndex? n = some i)
    (hlineStart : (ofText name text).lineStart? i = some start)
    (hshown : (ofText name text).line? i = some shown) :
    p.underlined span
      = (slice? ⟨n, min span.stop (start + byteLength shown)⟩ text.toList).getD [] := by
  subst hoffset
  obtain ⟨rfl, rfl, rfl⟩ := ((ofText name text).locates p).eq_of_line hindex hlineStart hshown
  rfl

namespace Drawing

/-! ## columns and marks -/

theorem width_repeated (n : Nat) {s : String} (h : width s.toList = 1) :
    width (repeated n s).toList = n := by
  unfold repeated
  induction n with
  | zero => rfl
  | succ n ih =>
    rw [List.replicate_succ, String.join_cons, String.toList_append, width_append, h, ih,
      Nat.add_comm]

theorem expandTabs_of_not_mem {cs : List Char} (h : '\t' ∉ cs) : expandTabs cs = cs := by
  induction cs with
  | nil => rfl
  | cons c cs ih =>
    rw [List.mem_cons, not_or] at h
    show (if c = '\t' then tab else [c]) ++ expandTabs cs = c :: cs
    rw [if_neg (Ne.symm h.1), ih h.2]
    rfl

/-- A text of one byte takes a column at the least, be it a tab. -/
theorem columns_pos {cs : List Char} (h : byteLength cs = 1) : 0 < columns cs := by
  cases cs with
  | nil => cases h
  | cons c cs =>
    have hpos := c.utf8Size_pos
    rw [byteLength_cons] at h
    have hc : 0 < charWidth c := charWidth_pos_of_utf8Size (by omega)
    rw [columns_cons]
    split <;> omega

/-- **As many marks as bytes are as many as columns** just if there are as many of these. -/
theorem marks_fit_iff (cs : List Char) :
    max 1 (byteLength cs) = max 1 (width (expandTabs cs))
      ↔ width (expandTabs cs) = byteLength cs := by
  rw [width_expandTabs]
  have hone := @columns_pos cs
  constructor
  · intro h
    obtain hzero | hpos := Nat.eq_zero_or_pos (byteLength cs)
    · rw [byteLength_eq_zero_iff.mp hzero]
      rfl
    · omega
  · intro h
    rw [h]

/-- Without tabs, no column of a text is left without a mark; it fits them if none of its characters
takes less columns than bytes. -/
theorem marks_of_not_mem {cs : List Char} (h : '\t' ∉ cs) :
    width (expandTabs cs) ≤ byteLength cs ∧
      (width (expandTabs cs) = byteLength cs ↔ ∀ c ∈ cs, charWidth c = c.utf8Size) := by
  rw [expandTabs_of_not_mem h]
  exact ⟨width_le_byteLength cs, width_eq_byteLength_iff⟩

end Drawing

/-! ## the marks of an error -/

namespace Engine

open Drawing

variable {κ : Type} {engine : Engine κ} {text : String} {e : ScriptError}

theorem Outcome.result_eq_error {o : Outcome κ} (h : o.error? = some e) : o.result = .error e := by
  unfold error? at h
  split at h
  · rename_i hresult
    rw [hresult, Option.some.inj h]
  · cases h

/-- **The marks of every error of a run** begin in the column where the token begins that the error
is about.  There is one for each byte of what is shown of this token, and one at the least.  So they
are as many as the columns of this part just if it has as many of these as bytes; but for tabs there
are never too few, and then each of its characters takes as many columns as bytes. -/
theorem underline_counts_bytes (h : (engine.run text).result = .error e) {theme : Theme}
    (hunderline : width theme.underline.toList = 1) (name : String) :
    ∃ i t message label part drawn, ∃ p : Spot text.toList,
      e.PointsAt text i t ∧ p.offset = t.span.start ∧ part = p.underlined t.span ∧
      (part = [] ∨ ∃ rest, p.shown = p.before ++ part ++ rest) ∧
      e.report = ⟨some message, [⟨label, t.span⟩]⟩ ∧
      UpToWidth (e.report.draw theme (.ofText name text)) (.ok drawn) ∧
      Piece.write false drawn
        = written (lines theme name label p (max 1 (byteLength part)) message) ∧
      width (blankGutter theme p.position.line ++ spaces (width (expandTabs p.before))).toList
        = width (numberGutter theme p.position.line
            ++ String.ofList (expandTabs p.before)).toList ∧
      width (repeated (max 1 (byteLength part)) theme.underline).toList
        = max 1 (byteLength part) ∧
      (max 1 (byteLength part) = max 1 (width (expandTabs part))
        ↔ width (expandTabs part) = byteLength part) ∧
      ('\t' ∉ part → width (expandTabs part) ≤ byteLength part ∧
        (width (expandTabs part) = byteLength part ↔ ∀ c ∈ part, charWidth c = c.utf8Size)) := by
  obtain ⟨i, t, hpoints⟩ := exists_pointsAt h
  obtain ⟨message, label, hreport, -, -⟩ := oneLine_report h hpoints
  obtain ⟨xs, hslice⟩ := Token.slice?_of_mem_stream (List.mem_of_getElem? hpoints.token)
  obtain ⟨p, hp⟩ := exists_spot_of_pointsAt hpoints
  have hunlimited : theme.unlimited.widest? = none := rfl
  obtain ⟨drawn, hdrawn, hwritten⟩ :=
    draw_single hunlimited (.ofText name text) label (p := p) hp message
  have hwritten : Piece.write false drawn = written
      (lines theme name label p (max 1 (t.span.common p.shownSpan).card) message) := hwritten
  rw [← Spot.byteLength_underlined hp hslice] at hwritten
  have hlimit := draw_upToWidth theme (.ofText name text) e.report
  rw [hreport, hdrawn, ← hreport] at hlimit
  refine ⟨i, t, message, label, p.underlined t.span, drawn, p, hpoints, hp, rfl, ?_, hreport, hlimit,
    hwritten, width_left_of_mark theme _ _, width_repeated _ hunderline, marks_fit_iff _,
    marks_of_not_mem⟩
  obtain hlt | hle := Nat.lt_or_ge p.shownSpan.stop p.offset
  · exact .inl (Spot.underlined_of_lt hlt)
  · exact .inr (Spot.shown_eq hp hslice hle).1

/-- A tab in a string has one mark for its four columns, so that three columns have none. -/
theorem underline_counts_bytes_tab :
    let text := "function f() \x7b print(\"a\tb\"); \x7d"
    let e : SyntaxError := ⟨.expected .expression "string \"a\\tb\"", ⟨21, 26⟩⟩
    ((withPrint : Engine Empty).run text).result = .error (.parse e) ∧
      width Theme.standard.underline.toList = 1 ∧
      ∃ part drawn, part = "\"a\tb\"".toList ∧
        (max 1 (byteLength part) = max 1 (width (expandTabs part))
          ↔ width (expandTabs part) = byteLength part) ∧
        width (expandTabs part) = 8 ∧ byteLength part = 5 ∧
        Piece.write false drawn = "Error: syntax error\nIn main:1:22\n"
          ++ "1 │ function f() \x7b print(\"a    b\"); \x7d\n"
          ++ "  │                      ^^^^^  expected an expression, found string \"a\\tb\"\n\n" := by
  intro text e
  have htokens : Token.ofText text =
      [⟨.keyword .function, "function", ⟨0, 8⟩⟩, ⟨.identifier, "f", ⟨9, 10⟩⟩,
        ⟨.symbol '(', "(", ⟨10, 11⟩⟩, ⟨.symbol ')', ")", ⟨11, 12⟩⟩,
        ⟨.symbol '\x7b', "\x7b", ⟨13, 14⟩⟩, ⟨.identifier, "print", ⟨15, 20⟩⟩,
        ⟨.symbol '(', "(", ⟨20, 21⟩⟩, ⟨.string, "a\tb", ⟨21, 26⟩⟩, ⟨.symbol ')', ")", ⟨26, 27⟩⟩,
        ⟨.symbol ';', ";", ⟨27, 28⟩⟩, ⟨.symbol '\x7d', "\x7d", ⟨29, 30⟩⟩] :=
    Token.allFrom_of_lists (by decide)
  have hfails : ((withPrint : Engine Empty).run text).result = .error (.parse e) := by
    refine Outcome.result_eq_error ?_
    unfold run Script.parse
    rw [htokens]
    decide +kernel
  have hunderline : width Theme.standard.underline.toList = 1 := by decide +kernel
  obtain ⟨_, t, _, _, _, drawn, p, hpoints, hp, rfl, -, -, hlimit, -, -, -, hfit, -⟩ :=
    underline_counts_bytes hfails hunderline "main"
  have hspan : t.span = ⟨21, 26⟩ := hpoints.span_eq.symm
  rw [hspan] at hp hfit
  have hindex : (Source.ofText "main" text).lineIndex? 21 = some 0 := by decide +kernel
  have hshown : (Source.ofText "main" text).line? 0 = some text.toList := by decide +kernel
  have hpart : p.underlined ⟨21, 26⟩ = "\"a\tb\"".toList := by
    rw [Source.underlined_eq hp hindex rfl hshown]
    decide +kernel
  rw [hpart] at hfit
  have heval : (e.report.draw .standard (.ofText "main" text)).toOption.map (Piece.write false)
      = some ("Error: syntax error\nIn main:1:22\n"
          ++ "1 │ function f() \x7b print(\"a    b\"); \x7d\n"
          ++ "  │                      ^^^^^  expected an expression, found string \"a\\tb\"\n\n") := by
    decide +kernel
  have hlimit : UpToWidth (e.report.draw .standard (.ofText "main" text)) (.ok drawn) := hlimit
  generalize e.report.draw .standard (.ofText "main" text) = x at hlimit heval
  cases hlimit with
  | same =>
    exact ⟨hfails, hunderline, _, drawn, rfl, hfit, by decide +kernel, by decide +kernel,
      Option.some.inj heval⟩
  | tooWide => cases heval

/-- **A name may have more marks than columns:** an accented letter has two bytes, and two marks
under its one column. -/
theorem underline_wider_than_name :
    ((withPrint : Engine Empty).run "function f() \x7b print(é); \x7d").result
        = .error (.runtime ⟨.unknownVariable "é", ⟨21, 23⟩⟩) ∧
      width Theme.standard.underline.toList = 1 ∧
      slice? ⟨21, 23⟩ "function f() \x7b print(é); \x7d".toList = some ['é'] ∧
      max 1 (width (expandTabs ['é'])) = 1 ∧
      ((RuntimeError.report ⟨.unknownVariable "é", ⟨21, 23⟩⟩).draw .standard
          (.unnamed "function f() \x7b print(é); \x7d")).toOption.map (Piece.write false)
        = some ("Error: unknown variable `é`\nIn <unnamed>:1:22\n"
          ++ "1 │ function f() \x7b print(é); \x7d\n"
          ++ "  │                      ^^  not assigned before this point\n\n") := by
  have htokens : Token.ofText "function f() \x7b print(é); \x7d" =
      [⟨.keyword .function, "function", ⟨0, 8⟩⟩, ⟨.identifier, "f", ⟨9, 10⟩⟩,
        ⟨.symbol '(', "(", ⟨10, 11⟩⟩, ⟨.symbol ')', ")", ⟨11, 12⟩⟩,
        ⟨.symbol '\x7b', "\x7b", ⟨13, 14⟩⟩, ⟨.identifier, "print", ⟨15, 20⟩⟩,
        ⟨.symbol '(', "(", ⟨20, 21⟩⟩, ⟨.identifier, "é", ⟨21, 23⟩⟩, ⟨.symbol ')', ")", ⟨23, 24⟩⟩,
        ⟨.symbol ';', ";", ⟨24, 25⟩⟩, ⟨.symbol '\x7d', "\x7d", ⟨26, 27⟩⟩] :=
    Token.allFrom_of_lists (by decide)
  have hfails : ((withPrint : Engine Empty).run "function f() \x7b print(é); \x7d").result
      = .error (.runtime ⟨.unknownVariable "é", ⟨21, 23⟩⟩) := by
    refine Outcome.result_eq_error ?_
    unfold run Script.parse
    rw [htokens]
    decide +kernel
  exact ⟨hfails, by decide +kernel, by decide +kernel, by decide +kernel, by decide +kernel⟩

end Engine

end Scriptlet
