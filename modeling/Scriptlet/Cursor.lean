import Scriptlet.Text.Bytes

/-!
# Cursor: a place in a text, with the text that is still to be read
-/

namespace Scriptlet

open Text

/-- the number of bytes before a place and the characters after it -/
structure Cursor where
  offset : Nat
  rest : List Char

namespace Cursor

def start (text : List Char) : Cursor := ⟨0, text⟩

def peek? (c : Cursor) : Option Char := c.rest.head?

def atEnd (c : Cursor) : Bool := c.rest.isEmpty

/-- Past the next character; at the end of the text, the same place. -/
def advance (c : Cursor) : Cursor :=
  match c.rest with
  | [] => c
  | ch :: rest => ⟨c.offset + ch.utf8Size, rest⟩

def eat? (ch : Char) (c : Cursor) : Option Cursor :=
  if c.peek? = some ch then some c.advance else none

def stretch (p : Char → Bool) (c : Cursor) : List Char := c.rest.takeWhile p

def skipWhile (p : Char → Bool) (c : Cursor) : Cursor :=
  ⟨c.offset + byteLength (c.stretch p), c.rest.dropWhile p⟩

theorem advance_nil (n : Nat) : advance ⟨n, []⟩ = ⟨n, []⟩ := rfl
theorem advance_cons (n : Nat) (ch : Char) (rest : List Char) :
    advance ⟨n, ch :: rest⟩ = ⟨n + ch.utf8Size, rest⟩ := rfl

theorem stretch_append_skipWhile (p : Char → Bool) (c : Cursor) :
    c.stretch p ++ (c.skipWhile p).rest = c.rest :=
  List.takeWhile_append_dropWhile

theorem skipWhile_length_le (p : Char → Bool) (c : Cursor) :
    (c.skipWhile p).rest.length ≤ c.rest.length := by
  have h := congrArg List.length (stretch_append_skipWhile p c)
  rw [List.length_append] at h
  omega

theorem advance_length_le (c : Cursor) : c.advance.rest.length ≤ c.rest.length := by
  obtain ⟨n, rest⟩ := c
  cases rest with
  | nil => exact Nat.le_refl _
  | cons ch rest => exact Nat.le_succ _

end Cursor

end Scriptlet
