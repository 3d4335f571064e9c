import Scriptlet.Token

/-!
# Syntax errors: what a script should have gone on with, and where it did not
-/

namespace Scriptlet

/-- what the grammar asks for at a place -/
inductive Expectation where
  | keyword (k : Keyword)
  | symbol (c : Char)
  | identifier
  | statement
  | expression
  | endOfInput
deriving DecidableEq

def Expectation.text : Expectation → String
  | .keyword k => "keyword `" ++ k.text ++ "`"
  | .symbol c => "`" ++ String.singleton c ++ "`"
  | .identifier => "an identifier"
  | .statement => "a statement"
  | .expression => "an expression"
  | .endOfInput => "end of input"

namespace SyntaxError

inductive Kind where
  /-- The text `found` names the token that stands where something else is expected. -/
  | expected (what : Expectation) (found : String)
  | invalidNumber (text : String)
deriving DecidableEq

def Kind.message : Kind → String
  | .expected what found => "expected " ++ what.text ++ ", found " ++ found
  | .invalidNumber text => "invalid number `" ++ text ++ "`"

end SyntaxError

structure SyntaxError where
  kind : SyntaxError.Kind
  span : Span
deriving DecidableEq

def SyntaxError.message (e : SyntaxError) : String := e.kind.message

end Scriptlet
