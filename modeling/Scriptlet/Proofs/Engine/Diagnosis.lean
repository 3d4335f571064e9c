import Scriptlet.Proofs.Report.Layout
import Scriptlet.Proofs.Report.Wording

/-!
# Diagnosis: every error of a run is drawn under its line

* `exists_spot_of_pointsAt`  the token that an error is about starts at a spot of the text;
* `exists_drawn`             the report of the error is drawn, under whatever name the text has;
* `report_lines`             the report of the error is drawn in five lines, around the line of that
                             spot.
-/

namespace Scriptlet.Engine

open Text

variable {κ : Type} {engine : Engine κ} {text : String} {e : ScriptError}

theorem exists_spot_of_pointsAt {i : Nat} {t : Token} (hpoints : e.PointsAt text i t) :
    ∃ p : Spot text.toList, p.offset = t.span.start := by
  obtain ⟨xs, hslice⟩ := Token.slice?_of_mem_stream (List.mem_of_getElem? hpoints.token)
  exact exists_spot (isBoundary_of_slice? hslice).1

/-- **The report of every error of a run is drawn**, and the name of the text is in one place of it:
the line that says where the error is. -/
theorem exists_drawn (h : (engine.run text).result = .error e) {theme : Theme}
    (hwidest : theme.widest? = none) (colour : Bool) :
    ∃ above below, ∃ p : Spot text.toList, ∀ name, ∃ drawn,
      e.report.draw theme (.ofText name text) = .ok drawn ∧
        Piece.write colour drawn
          = above ++ Drawing.placeLine name p ++ "\n" ++ below ++ "\n" := by
  obtain ⟨i, t, hpoints⟩ := exists_pointsAt h
  obtain ⟨message, label, hreport, -, -⟩ := oneLine_report h hpoints
  obtain ⟨p, hp⟩ := exists_spot_of_pointsAt hpoints
  obtain ⟨above, below, hdrawn⟩ :=
    Drawing.draw_place hwidest (.unnamed text) label (p := p) hp message colour
  rw [hreport]
  exact ⟨above, below, p, hdrawn⟩

/-- **The report of every error of a run is drawn in five lines:** the message, where the token
starts that the error is about, the line that it starts on, the marks under it with the label, and
an empty line.  The source tells everything that this takes.  A mark stands for each byte of the
token on the line as it is shown, and there is one mark at the least. -/
theorem report_lines (h : (engine.run text).result = .error e) {theme : Theme}
    (hwidest : theme.widest? = none) (htheme : theme.OneLine) {name : String}
    (hname : OneLine name) :
    ∃ i t message label drawn lines, ∃ p : Spot text.toList,
      e.PointsAt text i t ∧ p.offset = t.span.start ∧ (Source.ofText name text).Locates p ∧
      (p.line = p.shown ++ ['\r'] ∨ p.line = p.shown ∧ p.line.getLast? ≠ some '\r') ∧
      e.report = ⟨some message, [⟨label, t.span⟩]⟩ ∧
      e.report.draw theme (.ofText name text) = .ok drawn ∧
      Piece.write false drawn = written lines ∧ lines.length = 5 ∧ (∀ line ∈ lines, OneLine line) ∧
      lines
        = Drawing.lines theme name label p (max 1 (t.span.common p.shownSpan).card) message := by
  obtain ⟨i, t, hpoints⟩ := exists_pointsAt h
  obtain ⟨message, label, hreport, hmessage, hlabel⟩ := oneLine_report h hpoints
  obtain ⟨p, hp⟩ := exists_spot_of_pointsAt hpoints
  obtain ⟨drawn, hdrawn, hwritten⟩ :=
    Drawing.draw_single hwidest (.ofText name text) label (p := p) hp message
  rw [← hreport] at hdrawn
  have honeLine := Drawing.oneLine_of_mem_lines p (max 1 (t.span.common p.shownSpan).card) htheme
    hname hlabel hmessage
  exact ⟨i, t, message, label, drawn, _, p, hpoints, hp, (Source.ofText name text).locates p,
    dropReturn_cases p.line, hreport, hdrawn, hwritten, rfl, honeLine, rfl⟩

/-- A string over two lines is underlined on the first of them, up to the carriage return, and its
line feed is not in the label. -/
theorem report_lines_string :
    ((withPrint : Engine Empty).run "\tfunction f(\"a\r\nb\") \x7b").result
        = .error (.parse ⟨.expected (.symbol ')') "string \"a\\r\\nb\"", ⟨12, 18⟩⟩) ∧
      Theme.OneLine ⟨"|", "^", "  ", none⟩ ∧ OneLine "main" ∧
      ∃ drawn lines,
        (SyntaxError.report ⟨.expected (.symbol ')') "string \"a\\r\\nb\"", ⟨12, 18⟩⟩).draw
          ⟨"|", "^", "  ", none⟩ (.ofText "main" "\tfunction f(\"a\r\nb\") \x7b") = .ok drawn ∧
        Piece.write false drawn = written lines ∧ lines.length = 5 ∧
        (∀ line ∈ lines, OneLine line) ∧
        written lines = "Error: syntax error\nIn main:1:13\n1 |     function f(\"a\n"
          ++ "  |                ^^  expected `)`, found string \"a\\r\\nb\"\n\n" := by
  have htokens : Token.ofText "\tfunction f(\"a\r\nb\") \x7b" =
      [⟨.keyword .function, "function", ⟨1, 9⟩⟩, ⟨.identifier, "f", ⟨10, 11⟩⟩,
        ⟨.symbol '(', "(", ⟨11, 12⟩⟩, ⟨.string, "a\r\nb", ⟨12, 18⟩⟩, ⟨.symbol ')', ")", ⟨18, 19⟩⟩,
        ⟨.symbol '\x7b', "\x7b", ⟨20, 21⟩⟩] :=
    Token.allFrom_of_lists (by decide)
  have hparse : Script.parse "\tfunction f(\"a\r\nb\") \x7b" =
      .error ⟨.expected (.symbol ')') "string \"a\\r\\nb\"", ⟨12, 18⟩⟩ := by
    unfold Script.parse
    rw [htokens]
    rfl
  have hfails : ((withPrint : Engine Empty).run "\tfunction f(\"a\r\nb\") \x7b").result =
      .error (.parse ⟨.expected (.symbol ')') "string \"a\\r\\nb\"", ⟨12, 18⟩⟩) := by
    rw [run, hparse]
  have htheme : Theme.OneLine ⟨"|", "^", "  ", none⟩ := ⟨by decide, by decide, by decide⟩
  have hname : OneLine "main" := by decide
  obtain ⟨_, _, _, _, drawn, lines, _, -, -, -, -, -, hdrawn, hwritten, hlength, honeLine, -⟩ :=
    report_lines hfails rfl htheme hname
  have heval : ((SyntaxError.report ⟨.expected (.symbol ')') "string \"a\\r\\nb\"", ⟨12, 18⟩⟩).draw
      ⟨"|", "^", "  ", none⟩ (.ofText "main" "\tfunction f(\"a\r\nb\") \x7b")).toOption.map
        (Piece.write false)
      = some ("Error: syntax error\nIn main:1:13\n1 |     function f(\"a\n"
          ++ "  |                ^^  expected `)`, found string \"a\\r\\nb\"\n\n") := by
    decide +kernel
  have hdrawn : (SyntaxError.report _).draw _ _ = _ := hdrawn
  rw [hdrawn] at heval
  exact ⟨hfails, htheme, hname, drawn, lines, hdrawn, hwritten, hlength, honeLine,
    hwritten.symm.trans (Option.some.inj heval)⟩

end Scriptlet.Engine
