import Scriptlet.Number.Decimal
import Scriptlet.Script
import Scriptlet.SyntaxError

/-!
# Grammar: which tokens make up a script

    script     = "function" IDENT "(" ")" "{" statement* "}"
    statement  = "var" IDENT "=" expr ";"  |  IDENT "(" [expr ("," expr)*] ")" ";"
    expr       = term (("+" | "-") term)*
    term       = factor (("*" | "/" | "%") factor)*
    factor     = NUMBER  |  IDENT  |  "(" expr ")"

Each rule is a relation between tokens and what they stand for; nothing here reads tokens from left
to right or looks ahead.  A chain of operators stands for its fold to the left, and parentheses
leave nothing behind but their span.

What a NUMBER stands for is a parameter, `Literals`: `exactly` takes the number that the text of the
token writes, `leniently` takes zero where that is none.  The rules alone, with no question whether
the literals can be read, are the grammar with `leniently`.
-/

namespace Scriptlet.Grammar

/-- what tokens stand for, by some rule -/
abbrev Phrase (α : Type) := List Token → α → Prop

abbrev Literals := Token → Number → Prop

def exactly : Literals := fun t v => Number.ofText? t.text = some v

def leniently : Literals := fun t v => v = (Number.ofText? t.text).getD default

/-! ## expressions -/

inductive Rule where
  | factor
  | chain (level : Operator.Level)
deriving DecidableEq

namespace Rule

def expr : Rule := .chain .additive

def operand : Operator.Level → Rule
  | .additive => .chain .multiplicative
  | .multiplicative => .factor

end Rule

/-- The signs of each level, with what they stand for. -/
inductive Sign : Operator.Level → Char → Operator → Prop where
  | add : Sign .additive '+' .add
  | sub : Sign .additive '-' .sub
  | mul : Sign .multiplicative '*' .mul
  | div : Sign .multiplicative '/' .div
  | rem : Sign .multiplicative '%' .rem

/-- These are the tables that scripts are read and printed by. -/
theorem sign_iff {level : Operator.Level} {c : Char} {op : Operator} :
    Sign level c op ↔ c = op.symbol ∧ op.level = level := by
  constructor
  · intro h
    cases h <;> exact ⟨rfl, rfl⟩
  · rintro ⟨rfl, rfl⟩
    cases op <;> constructor

structure Link where
  op : Operator
  sign : Token
  tokens : List Token
  operand : Expr

namespace Link

def all (l : Link) : List Token := l.sign :: l.tokens

def onto (e : Expr) (l : Link) : Expr := e.join l.op l.operand

def Signed (level : Operator.Level) (l : Link) : Prop :=
  ∃ c, l.sign.kind = .symbol c ∧ Sign level c l.op

theorem signed_iff {level : Operator.Level} {l : Link} :
    l.Signed level ↔ l.sign.kind = .symbol l.op.symbol ∧ l.op.level = level := by
  constructor
  · rintro ⟨c, hc, hsign⟩
    obtain ⟨rfl, hlevel⟩ := sign_iff.mp hsign
    exact ⟨hc, hlevel⟩
  · rintro ⟨hc, hlevel⟩
    exact ⟨l.op.symbol, hc, sign_iff.mpr ⟨rfl, hlevel⟩⟩

end Link

def identOf (t : Token) : Ident := ⟨t.text, t.span⟩

inductive ExprPhrase (lit : Literals) : Rule → Phrase Expr where
  | number {t : Token} {v : Number} (ht : t.kind = .number) (hv : lit t v) :
      ExprPhrase lit .factor [t] (.number v t.span)
  | var {t : Token} (ht : t.kind = .identifier) :
      ExprPhrase lit .factor [t] (.var (identOf t) t.span)
  | group {opening closing : Token} {ts : List Token} {e : Expr}
      (hopening : opening.kind = .symbol '(') (he : ExprPhrase lit .expr ts e)
      (hclosing : closing.kind = .symbol ')') :
      ExprPhrase lit .factor (opening :: (ts ++ [closing]))
        (e.withSpan (opening.span.union closing.span))
  | chain {level : Operator.Level} {ts : List Token} {e : Expr} (links : List Link)
      (he : ExprPhrase lit (.operand level) ts e) (hsigns : ∀ l ∈ links, l.Signed level)
      (hlinks : ∀ l ∈ links, ExprPhrase lit (.operand level) l.tokens l.operand) :
      ExprPhrase lit (.chain level) (ts ++ links.flatMap Link.all) (links.foldl Link.onto e)

section
variable {lit : Literals} {level : Operator.Level} {us vs : List Token} {e e' : Expr}

theorem ExprPhrase.chain_of_operand (h : ExprPhrase lit (.operand level) us e) :
    ExprPhrase lit (.chain level) us e := by
  have hchain := ExprPhrase.chain [] h (List.forall_mem_nil _) (List.forall_mem_nil _)
  rwa [List.flatMap_nil, List.append_nil] at hchain

theorem ExprPhrase.operand_of_factor (h : ExprPhrase lit .factor us e) (level : Operator.Level) :
    ExprPhrase lit (.operand level) us e := by
  have hfactor : ExprPhrase lit (.operand .multiplicative) us e := h
  cases level with
  | additive => exact hfactor.chain_of_operand
  | multiplicative => exact hfactor

theorem ExprPhrase.expr_of_chain (h : ExprPhrase lit (.chain level) us e) :
    ExprPhrase lit .expr us e := by
  cases level with
  | additive => exact h
  | multiplicative =>
    have hterm : ExprPhrase lit (.operand .additive) us e := h
    exact hterm.chain_of_operand

theorem ExprPhrase.expr_of_factor (h : ExprPhrase lit .factor us e) : ExprPhrase lit .expr us e :=
  (h.operand_of_factor .additive).chain_of_operand

theorem ExprPhrase.expr_join {sign : Token} {op : Operator} (h : ExprPhrase lit .factor us e)
    (hsign : sign.kind = .symbol op.symbol) (h' : ExprPhrase lit .factor vs e') :
    ExprPhrase lit .expr (us ++ sign :: vs) (e.join op e') := by
  have hchain := ExprPhrase.chain [⟨op, sign, vs, e'⟩] (h.operand_of_factor op.level)
    (List.forall_mem_singleton.mpr (Link.signed_iff.mpr ⟨hsign, rfl⟩))
    (List.forall_mem_singleton.mpr (h'.operand_of_factor op.level))
  rw [List.flatMap_singleton] at hchain
  exact hchain.expr_of_chain

end

/-! ## statements -/

/-- one phrase after the other, any number of times -/
inductive Repeated {α : Type} (D : Phrase α) : Phrase (List α) where
  | nil : Repeated D [] []
  | cons {ts us : List Token} {a : α} {as : List α} (ha : D ts a) (has : Repeated D us as) :
      Repeated D (ts ++ us) (a :: as)

section
variable (lit : Literals)

inductive LaterArg : Phrase Expr where
  | mk {comma : Token} {ts : List Token} {e : Expr} (hcomma : comma.kind = .symbol ',')
      (he : ExprPhrase lit .expr ts e) : LaterArg (comma :: ts) e

inductive ArgsPhrase : Phrase (List Expr) where
  | none : ArgsPhrase [] []
  | some {ts us : List Token} {e : Expr} {es : List Expr} (he : ExprPhrase lit .expr ts e)
      (hes : Repeated (LaterArg lit) us es) : ArgsPhrase (ts ++ us) (e :: es)

inductive StatementPhrase : Phrase Statement where
  | assign {var name eq semi : Token} {ts : List Token} {e : Expr}
      (hvar : var.kind = .keyword .var) (hname : name.kind = .identifier)
      (heq : eq.kind = .symbol '=') (he : ExprPhrase lit .expr ts e)
      (hsemi : semi.kind = .symbol ';') :
      StatementPhrase (var :: name :: eq :: (ts ++ [semi])) (.assign (identOf name) e)
  | call {name opening closing semi : Token} {ts : List Token} {es : List Expr}
      (hname : name.kind = .identifier) (hopening : opening.kind = .symbol '(')
      (hes : ArgsPhrase lit ts es) (hclosing : closing.kind = .symbol ')')
      (hsemi : semi.kind = .symbol ';') :
      StatementPhrase (name :: opening :: (ts ++ [closing, semi])) (.call (identOf name) es)

inductive ScriptPhrase : Phrase Script where
  | mk {function name opening closing brace last : Token} {ts : List Token} {body : List Statement}
      (hfunction : function.kind = .keyword .function) (hname : name.kind = .identifier)
      (hopening : opening.kind = .symbol '(') (hclosing : closing.kind = .symbol ')')
      (hbrace : brace.kind = .symbol '\x7b') (hbody : Repeated (StatementPhrase lit) ts body)
      (hlast : last.kind = .symbol '\x7d') :
      ScriptPhrase (function :: name :: opening :: closing :: brace :: (ts ++ [last]))
        ⟨identOf name, body⟩

end

/-- The tokens are derivable, whether or not their literals can be read. -/
def Derivable (ts : List Token) : Prop := ∃ s, ScriptPhrase leniently ts s

/-- The tokens are derivable and their literals can be read. -/
def Accepted (ts : List Token) : Prop := ∃ s, ScriptPhrase exactly ts s

/-- More tokens may follow that make these a script. -/
def Viable (ts : List Token) : Prop := ∃ us, Accepted (ts ++ us)

/-! ## what may be expected -/

def IsNumeral (t : Token) : Prop := t.kind = .number ∧ (Number.ofText? t.text).isSome = true

/-- The tokens are what is expected; at the end of the input, these are none. -/
def Expected : Expectation → List Token → Prop
  | .keyword k, xs => ∃ t, xs = [t] ∧ t.kind = .keyword k
  | .symbol c, xs => ∃ t, xs = [t] ∧ t.kind = .symbol c
  | .identifier, xs => ∃ t, xs = [t] ∧ t.kind = .identifier
  | .statement, xs => ∃ st, StatementPhrase exactly xs st
  | .expression, xs => ∃ e, ExprPhrase exactly .expr xs e
  | .endOfInput, xs => xs = []

end Scriptlet.Grammar
