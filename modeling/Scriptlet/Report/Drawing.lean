import Scriptlet.Report
import Scriptlet.Source
import Scriptlet.Text.Width

/-!
# Drawing: a report as text, under the lines of its source

A drawing is a list of pieces: texts, and changes of style between them.  Without colour the changes
are left out (`Piece.plain`); on a terminal they are escape sequences (`Piece.ansi`).  Padding is
measured in columns, the length of an underline in bytes.
-/

namespace Scriptlet

open Text

inductive Style where
  | error
  | subtle
deriving DecidableEq

inductive Piece where
  | text (s : String)
  | style (s : Style)
  | reset
deriving DecidableEq

def Piece.plain : Piece → String
  | .text s => s
  | .style _ => ""
  | .reset => ""

/-- Errors are bold and red, what is subtle is dim and slanted. -/
def Piece.ansi : Piece → String
  | .text s => s
  | .style .error => "\x1b[0m\x1b[1m\x1b[31m"
  | .style .subtle => "\x1b[0m\x1b[2m\x1b[3m"
  | .reset => "\x1b[0m"

structure Theme where
  gutter : String
  underline : String
  underlineAfter : String
  /-- The widest padding that can be drawn; without it there is no limit. -/
  widest? : Option Nat

namespace Theme

def standard : Theme := ⟨"│", "^", "  ", some 65535⟩

def ascii : Theme := { standard with gutter := "|" }

end Theme

namespace Drawing

inductive Fault where
  /-- A snippet starts inside a character. -/
  | insideCharacter (offset : Nat)
  | tooWide (columns : Nat)
deriving DecidableEq

/-! ### columns -/

def tab : List Char := [' ', ' ', ' ', ' ']

def expandTabs (cs : List Char) : List Char := cs.flatMap fun c => if c = '\t' then tab else [c]

/-- the columns that a text takes when it is drawn -/
def columns (cs : List Char) : Nat :=
  cs.foldr (fun c n => (if c = '\t' then 4 else charWidth c) + n) 0

theorem width_tab : width tab = 4 := by decide +kernel

theorem columns_nil : columns [] = 0 := rfl
theorem columns_cons (c : Char) (cs : List Char) :
    columns (c :: cs) = (if c = '\t' then 4 else charWidth c) + columns cs := rfl

theorem width_expandTabs (cs : List Char) : width (expandTabs cs) = columns cs := by
  induction cs with
  | nil => rfl
  | cons c cs ih =>
    rw [columns_cons, ← ih]
    show width ((if c = '\t' then tab else [c]) ++ expandTabs cs) = _
    rw [width_append]
    split
    · rw [width_tab]
    · rfl

def spaces (n : Nat) : String := String.ofList (List.replicate n ' ')

def repeated (n : Nat) (s : String) : String := String.join (List.replicate n s)

/-! ### snippets -/

/-- The length of the underline of a span in bytes: what of it lies on the shown text of the line
that it starts on, and one at the least. -/
def marks (span : Span) (start lineStop : Nat) : Nat := max 1 (min span.stop lineStop - start)

/-- what stands in front of a line: its number, or as many spaces -/
def gutter (theme : Theme) (label : String) : List Piece :=
  [.style .subtle, .text (label ++ " " ++ theme.gutter ++ " "), .reset]

def padding (theme : Theme) (n : Nat) : Except Fault String :=
  if theme.widest?.any (· < n) then .error (.tooWide n) else .ok (spaces n)

/-- One snippet: where it is, its line, and the underline with its label.  One that starts beyond
the end of the text is drawn at the end. -/
def snippet (theme : Theme) (source : Source) (s : Snippet) : Except Fault (List Piece) :=
  let start := min s.span.start source.size
  match source.lineIndex? start with
  | none => .ok []
  | some line =>
    let position := (source.position? start).getD ⟨line + 1, 1⟩
    let lineStart := (source.lineStart? line).getD 0
    let shown := (source.line? line).getD []
    match source.before? line start with
    | none => .error (.insideCharacter start)
    | some before =>
      match padding theme (columns before) with
      | .error fault => .error fault
      | .ok pad =>
        let number := toString position.line
        let place := source.name ++ ":" ++ number ++ ":" ++ toString position.column
        let count := marks s.span start (lineStart + byteLength shown)
        let under := pad ++ repeated count theme.underline ++ theme.underlineAfter ++ s.label
        .ok (
          [.style .subtle, .text ("In " ++ place ++ "\n"), .reset]
          ++ gutter theme number
          ++ [.text (String.ofList (expandTabs shown) ++ "\n")]
          ++ gutter theme (spaces number.length)
          ++ [.style .error, .text (under ++ "\n"), .reset])

def header (report : Report) : List Piece :=
  [.style .error, .text "Error:", .reset,
    .text (match report.message with
      | some message => " " ++ message ++ "\n"
      | none => "\n")]

def snippets (theme : Theme) (source : Source) : List Snippet → Except Fault (List Piece)
  | [] => .ok []
  | s :: rest =>
    match snippet theme source s with
    | .error fault => .error fault
    | .ok drawn =>
      match snippets theme source rest with
      | .error fault => .error fault
      | .ok more => .ok (drawn ++ more)

end Drawing

def Report.draw (theme : Theme) (source : Source) (report : Report) :
    Except Drawing.Fault (List Piece) :=
  match Drawing.snippets theme source report.snippets with
  | .error fault => .error fault
  | .ok drawn => .ok (Drawing.header report ++ drawn ++ [.text "\n"])

/-- a drawing as it is written, with colour or without -/
def Piece.write (colour : Bool) (pieces : List Piece) : String :=
  String.join (pieces.map (if colour then Piece.ansi else Piece.plain))

end Scriptlet
