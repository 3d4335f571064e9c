import Scriptlet.Text.Bytes

/-!
# Sources: named texts, with the places where their lines break

Offsets and columns count bytes.  A line goes up to its line feed or the end of the text; it is
shown without the line feed and without one carriage return at its end.
-/

namespace Scriptlet

open Text

/-- the offsets of the line feeds of a text that starts at `offset` -/
def lineBreaks : Nat → List Char → List Nat
  | _, [] => []
  | offset, c :: cs =>
    if c = '\n' then offset :: lineBreaks (offset + c.utf8Size) cs
    else lineBreaks (offset + c.utf8Size) cs

/-- the lines of a text, without the line feeds between them -/
def splitLines (cs : List Char) : List (List Char) :=
  cs.foldr (fun c lines =>
    if c = '\n' then [] :: lines
    else
      match lines with
      | [] => [[c]]
      | line :: rest => (c :: line) :: rest) [[]]

/-- a line without one carriage return at its end -/
def dropReturn (line : List Char) : List Char :=
  if line.getLast? = some '\r' then line.dropLast else line

structure Position where
  line : Nat
  column : Nat
deriving DecidableEq

structure Source where
  name : String
  text : String
  breaks : List Nat
  breaks_eq : breaks = lineBreaks 0 text.toList

namespace Source

def ofText (name text : String) : Source := ⟨name, text, lineBreaks 0 text.toList, rfl⟩

def unnamed (text : String) : Source := ofText "<unnamed>" text

def size (s : Source) : Nat := s.text.utf8ByteSize

def lineCount (s : Source) : Nat := s.breaks.length + 1

/-- The line that an offset lies on, counted from zero; a line feed ends the line it is on. -/
def lineIndex? (s : Source) (offset : Nat) : Option Nat :=
  if offset ≤ s.size then some (s.breaks.countP (· < offset)) else none

def lineStart? (s : Source) : Nat → Option Nat
  | 0 => some 0
  | i + 1 => s.breaks[i]?.map (· + 1)

def line? (s : Source) (i : Nat) : Option (List Char) :=
  (splitLines s.text.toList)[i]?.map dropReturn

def position? (s : Source) (offset : Nat) : Option Position :=
  match s.lineIndex? offset with
  | none => none
  | some line =>
    match s.lineStart? line with
    | none => none
    | some start => some ⟨line + 1, offset - start + 1⟩

/-- The text from where a line starts up to an offset, unless that lies inside a character. -/
def before? (s : Source) (line offset : Nat) : Option (List Char) :=
  match s.lineStart? line with
  | none => none
  | some start =>
    match (splitLines s.text.toList)[line]? with
    | none => none
    | some cs => takeBytes? (offset - start) cs

end Source

/-! ### lines and breaks -/

theorem splitLines_ne_nil (cs : List Char) : splitLines cs ≠ [] := by
  cases cs with
  | nil => simp [splitLines]
  | cons c cs =>
    simp only [splitLines, List.foldr_cons]
    split
    · simp
    · split <;> simp

theorem length_splitLines (n : Nat) (cs : List Char) :
    (splitLines cs).length = (lineBreaks n cs).length + 1 := by
  induction cs generalizing n with
  | nil => rfl
  | cons c cs ih =>
    have ih := ih (n + c.utf8Size)
    have hne := splitLines_ne_nil cs
    unfold lineBreaks
    simp only [splitLines, List.foldr_cons] at ih hne ⊢
    split
    · simp only [List.length_cons]
      omega
    · split
      · rename_i h
        exact absurd h hne
      · rename_i h
        rw [h] at ih
        exact ih

end Scriptlet
