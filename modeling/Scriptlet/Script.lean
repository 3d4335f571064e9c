import Scriptlet.Number
import Scriptlet.Span

/-!
# Scripts: one named block of assignments and calls

Every name and every expression carries the span that it was read from.
-/

namespace Scriptlet

inductive Operator where
  | add
  | sub
  | mul
  | div
  | rem
deriving DecidableEq

namespace Operator

def symbol : Operator → Char
  | .add => '+'
  | .sub => '-'
  | .mul => '*'
  | .div => '/'
  | .rem => '%'

def ofSymbol? : Char → Option Operator
  | '+' => some .add
  | '-' => some .sub
  | '*' => some .mul
  | '/' => some .div
  | '%' => some .rem
  | _ => none

/-- Multiplicative operators bind tighter than additive ones. -/
inductive Level where
  | additive
  | multiplicative
deriving DecidableEq

def level : Operator → Level
  | .add | .sub => .additive
  | .mul | .div | .rem => .multiplicative

def apply : Operator → Number → Number → Number
  | .add => Number.add
  | .sub => Number.sub
  | .mul => Number.mul
  | .div => Number.div
  | .rem => Number.rem

theorem ofSymbol?_symbol (op : Operator) : ofSymbol? op.symbol = some op := by cases op <;> rfl

theorem ofSymbol?_eq_some_iff {c : Char} {op : Operator} :
    ofSymbol? c = some op ↔ c = op.symbol := by
  constructor
  · intro h
    unfold ofSymbol? at h
    split at h <;> cases h <;> rfl
  · rintro rfl
    exact ofSymbol?_symbol op

end Operator

structure Ident where
  name : String
  span : Span
deriving DecidableEq

/-- The span of an expression in parentheses covers them; a variable keeps the span of its name. -/
inductive Expr where
  | number (value : Number) (span : Span)
  | var (ident : Ident) (span : Span)
  | binary (op : Operator) (lhs rhs : Expr) (span : Span)
deriving DecidableEq

namespace Expr

def span : Expr → Span
  | .number _ s | .var _ s | .binary _ _ _ s => s

def withSpan (s : Span) : Expr → Expr
  | .number v _ => .number v s
  | .var x _ => .var x s
  | .binary op l r _ => .binary op l r s

/-- Two expressions joined by an operator cover the text of both. -/
def join (op : Operator) (lhs rhs : Expr) : Expr := .binary op lhs rhs (lhs.span.union rhs.span)

theorem span_withSpan (s : Span) (e : Expr) : (e.withSpan s).span = s := by cases e <;> rfl

end Expr

inductive Statement where
  | assign (target : Ident) (value : Expr)
  | call (function : Ident) (args : List Expr)
deriving DecidableEq

/-- The name is for the reader only: it does not choose what is run. -/
structure Script where
  name : Ident
  body : List Statement
deriving DecidableEq

end Scriptlet
