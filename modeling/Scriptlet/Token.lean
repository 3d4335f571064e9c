import Scriptlet.Span
import Scriptlet.Text.Quoted

/-!
# Tokens: the words and marks that a script is made of
-/

namespace Scriptlet

inductive Keyword where
  | function
  | var
deriving DecidableEq

namespace Keyword

def text : Keyword → String
  | .function => "function"
  | .var => "var"

def ofText? (s : String) : Option Keyword :=
  if s = "function" then some .function else if s = "var" then some .var else none

theorem ofText?_text (k : Keyword) : ofText? k.text = some k := by cases k <;> rfl

theorem ofText?_eq_some_iff {s : String} {k : Keyword} : ofText? s = some k ↔ s = k.text := by
  constructor
  · intro h
    unfold ofText? at h
    split at h
    · cases h; assumption
    · split at h
      · cases h; assumption
      · cases h
  · rintro rfl
    exact ofText?_text k

end Keyword

namespace Token

inductive Kind where
  | keyword (k : Keyword)
  | identifier
  | number
  /-- Read like any token, and part of no sentence of the grammar. -/
  | string
  | symbol (c : Char)
  | endOfInput
deriving DecidableEq

def Kind.label : Kind → String
  | .keyword .function => "Keyword(Function)"
  | .keyword .var => "Keyword(Var)"
  | .identifier => "Identifier"
  | .number => "Number"
  | .string => "String"
  | .symbol c => "Symbol(" ++ Text.quotedChar c ++ ")"
  | .endOfInput => "EndOfInput"

end Token

/-- The text of a string leaves out its quotes; its span covers them. -/
structure Token where
  kind : Token.Kind
  text : String
  span : Span
deriving DecidableEq

namespace Token

def isSymbol (t : Token) (c : Char) : Bool := t.kind == .symbol c

def describe (t : Token) : String :=
  match t.kind with
  | .endOfInput => "end of input"
  | .string => "string " ++ Text.quoted t.text
  | _ => "`" ++ t.text ++ "`"

/-- the token that follows the last one of a text of `n` bytes -/
def endAt (n : Nat) : Token := ⟨.endOfInput, "", .empty n⟩

end Token

end Scriptlet
