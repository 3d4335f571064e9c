import Scriptlet.Cursor
import Scriptlet.Token
import Scriptlet.Text.Blank
import Scriptlet.Text.Numeric

/-!
# Lexer: a text cut into tokens

`Token.next` gives the token after a place and the place after it.  It never fails: a character
that starts nothing else is a symbol.  `Token.ofText` gives all tokens of a text, each as long as
it can be, with blanks between them left out.
-/

namespace Scriptlet.Token

open Text

def isWordChar (c : Char) : Bool := isAlphanumeric c || c == '_'

/-- What goes on with a number; that it has one point at most is seen when it is read as a value. -/
def isNumberChar (c : Char) : Bool := c.isDigit || c == '.'

def isQuote (c : Char) : Bool := c == '"' || c == '\x27'

def wordKind (s : String) : Kind :=
  match Keyword.ofText? s with
  | some k => .keyword k
  | none => .identifier

def run (kind : String → Kind) (p : Char → Bool) (ch : Char) (c : Cursor) : Token × Cursor :=
  let tail := c.advance
  let text := String.ofList (ch :: tail.stretch p)
  let stop := tail.skipWhile p
  (⟨kind text, text, ⟨c.offset, stop.offset⟩⟩, stop)

/-- A string ends at the next quote like the one that opens it, or else with the text. -/
def string (ch : Char) (c : Cursor) : Token × Cursor :=
  let tail := c.advance
  let stop := (tail.skipWhile (· != ch)).advance
  (⟨.string, String.ofList (tail.stretch (· != ch)), ⟨c.offset, stop.offset⟩⟩, stop)

def symbol (ch : Char) (c : Cursor) : Token × Cursor :=
  (⟨.symbol ch, String.ofList [ch], ⟨c.offset, c.advance.offset⟩⟩, c.advance)

def lexeme (ch : Char) (c : Cursor) : Token × Cursor :=
  if isAlphabetic ch then run wordKind isWordChar ch c
  else if ch.isDigit then run (fun _ => .number) isNumberChar ch c
  else if isQuote ch then string ch c
  else symbol ch c

/-- The next token after blanks; at the end of the text it is the end of input, however often it is
asked for. -/
def next (c : Cursor) : Token × Cursor :=
  let c := c.skipWhile isBlank
  match c.peek? with
  | none => (endAt c.offset, c)
  | some ch => lexeme ch c

/-! ### every token takes a character -/

theorem lexeme_length_le (ch : Char) (c : Cursor) :
    (lexeme ch c).2.rest.length ≤ c.advance.rest.length := by
  unfold lexeme
  split
  · exact c.advance.skipWhile_length_le _
  · split
    · exact c.advance.skipWhile_length_le _
    · split
      · exact Nat.le_trans (Cursor.advance_length_le _) (c.advance.skipWhile_length_le _)
      · exact Nat.le_refl _

theorem next_length_lt {c : Cursor} (h : (next c).1.kind ≠ .endOfInput) :
    (next c).2.rest.length < c.rest.length := by
  have hb := c.skipWhile_length_le isBlank
  unfold next at h ⊢
  generalize c.skipWhile isBlank = d at *
  obtain ⟨n, rest⟩ := d
  cases rest with
  | nil => exact absurd rfl h
  | cons ch rest =>
    refine Nat.lt_of_lt_of_le ?_ hb
    exact Nat.lt_succ_of_le (lexeme_length_le ch ⟨n, ch :: rest⟩)

/-! ### the tokens of a text -/

/-- the tokens from a place on, without the end of input -/
def allFrom (c : Cursor) : List Token :=
  let r := next c
  if r.1.kind = .endOfInput then [] else r.1 :: allFrom r.2
termination_by c.rest.length
decreasing_by exact next_length_lt ‹_›

def firstOf : Nat → Cursor → List Token
  | 0, _ => []
  | n + 1, c => (next c).1 :: firstOf n (next c).2

def ofText (s : String) : List Token := allFrom (.start s.toList)

end Scriptlet.Token
