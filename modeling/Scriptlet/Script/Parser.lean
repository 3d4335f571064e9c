import Scriptlet.Number.Decimal
import Scriptlet.Script
import Scriptlet.SyntaxError
import Scriptlet.Token.Lexer

/-!
# Parser: tokens read as a script

One function for each rule of the grammar, on the tokens that are still to be read:

    script     = "function" IDENT "(" ")" "{" statement* "}"
    statement  = "var" IDENT "=" expr ";"  |  IDENT "(" [expr ("," expr)*] ")" ";"
    expr       = term (("+" | "-") term)*
    term       = factor (("*" | "/" | "%") factor)*
    factor     = NUMBER  |  IDENT  |  "(" expr ")"

A function gives what it read with the tokens that follow, and a proof that these are fewer, or
says at which tokens it stopped and why.  The next token always decides what to do.
-/

namespace Scriptlet

/-- what was read, and the tokens after it, fewer than `bound` -/
structure Parsed (α : Type) (bound : Nat) where
  value : α
  rest : List Token
  rest_lt : rest.length < bound

def Parsed.map {α β : Type} {m n : Nat} (f : α → β) (h : m ≤ n) (p : Parsed α m) : Parsed β n :=
  ⟨f p.value, p.rest, Nat.lt_of_lt_of_le p.rest_lt h⟩

namespace Parser

inductive Complaint where
  | expected (what : Expectation)
  /-- The number at hand has more than one point. -/
  | invalidNumber
deriving DecidableEq

/-- a complaint about the first of the tokens left, or about the end of the input if none is left -/
structure Stop where
  complaint : Complaint
  rest : List Token
deriving DecidableEq

def Stop.token (s : Stop) (inputEnd : Token) : Token := s.rest.head?.getD inputEnd

def Stop.error (s : Stop) (inputEnd : Token) : SyntaxError :=
  let t := s.token inputEnd
  match s.complaint with
  | .expected what => ⟨.expected what t.describe, t.span⟩
  | .invalidNumber => ⟨.invalidNumber t.text, t.span⟩

abbrev Result (α : Type) (bound : Nat) := Except Stop (Parsed α bound)

/-! ### single tokens -/

def take (kind : Token.Kind) (what : Expectation) : (ts : List Token) → Result Token ts.length
  | [] => .error ⟨.expected what, []⟩
  | t :: rest =>
    if t.kind = kind then .ok ⟨t, rest, Nat.lt_succ_self _⟩
    else .error ⟨.expected what, t :: rest⟩

def symbol (c : Char) (ts : List Token) : Result Token ts.length := take (.symbol c) (.symbol c) ts

def keyword (k : Keyword) (ts : List Token) : Result Token ts.length :=
  take (.keyword k) (.keyword k) ts

def ident (ts : List Token) : Result Ident ts.length :=
  match take .identifier .identifier ts with
  | .error s => .error s
  | .ok t => .ok (t.map (fun t => ⟨t.text, t.span⟩) (Nat.le_refl _))

def operator? (level : Operator.Level) (t : Token) : Option Operator :=
  match t.kind with
  | .symbol c => (Operator.ofSymbol? c).filter fun op => op.level = level
  | _ => none

/-! ### expressions -/

mutual

def factor (ts : List Token) : Result Expr ts.length :=
  match ts with
  | [] => .error ⟨.expected .expression, []⟩
  | t :: rest =>
    match t.kind with
    | .number =>
      match Number.ofText? t.text with
      | none => .error ⟨.invalidNumber, t :: rest⟩
      | some v => .ok ⟨.number v t.span, rest, Nat.lt_succ_self _⟩
    | .identifier => .ok ⟨.var ⟨t.text, t.span⟩ t.span, rest, Nat.lt_succ_self _⟩
    | .symbol '(' =>
      match chainOf .additive rest with
      | .error s => .error s
      | .ok e =>
        match symbol ')' e.rest with
        | .error s => .error s
        | .ok close => .ok ⟨e.value.withSpan (t.span.union close.value.span), close.rest, by
            have := e.rest_lt; have := close.rest_lt; simp only [List.length_cons]; omega⟩
    | _ => .error ⟨.expected .expression, t :: rest⟩
termination_by 6 * ts.length

def operand (level : Operator.Level) (ts : List Token) : Result Expr ts.length :=
  match level with
  | .multiplicative => factor ts
  | .additive => chainOf .multiplicative ts
termination_by 6 * ts.length + (if level = .additive then 3 else 1)
decreasing_by all_goals simp_all

/-- operands joined by operators of one level, from the left -/
def chainOf (level : Operator.Level) (ts : List Token) : Result Expr ts.length :=
  match operand level ts with
  | .error s => .error s
  | .ok p => chain level p.value p.rest ts.length p.rest_lt
termination_by 6 * ts.length + (if level = .additive then 4 else 2)
decreasing_by
  · cases level <;> simp
  · have := p.rest_lt; cases level <;> simp <;> omega

/-- The rest of a chain: `acc` is what its operators have joined so far. -/
def chain (level : Operator.Level) (acc : Expr) (ts : List Token) (bound : Nat)
    (h : ts.length < bound) : Result Expr bound :=
  match ts with
  | [] => .ok ⟨acc, [], h⟩
  | t :: rest =>
    match operator? level t with
    | none => .ok ⟨acc, t :: rest, h⟩
    | some op =>
      match operand level rest with
      | .error s => .error s
      | .ok p => chain level (acc.join op p.value) p.rest bound (by
          have := p.rest_lt; simp only [List.length_cons] at h; omega)
termination_by 6 * ts.length
decreasing_by
  · cases level <;> simp only [List.length_cons] <;> simp <;> omega
  · have := p.rest_lt; simp only [List.length_cons]; omega

end

def term (ts : List Token) : Result Expr ts.length := chainOf .multiplicative ts

def expr (ts : List Token) : Result Expr ts.length := chainOf .additive ts

/-! ### statements -/

def moreArgs (ts : List Token) : Result (List Expr) (ts.length + 1) :=
  match ts with
  | [] => .ok ⟨[], [], Nat.lt_succ_self _⟩
  | t :: rest =>
    if t.isSymbol ',' then
      match expr rest with
      | .error s => .error s
      | .ok e =>
        match moreArgs e.rest with
        | .error s => .error s
        | .ok es => .ok (es.map (e.value :: ·) (by
            have := e.rest_lt; simp only [List.length_cons]; omega))
    else .ok ⟨[], t :: rest, Nat.lt_succ_self _⟩
termination_by ts.length
decreasing_by have := e.rest_lt; simp only [List.length_cons]; omega

/-- The arguments of a call, up to its closing parenthesis; there may be none. -/
def args (ts : List Token) : Result (List Expr) (ts.length + 1) :=
  if ts.head?.any (·.isSymbol ')') then .ok ⟨[], ts, Nat.lt_succ_self _⟩
  else
    match expr ts with
    | .error s => .error s
    | .ok e =>
      match moreArgs e.rest with
      | .error s => .error s
      | .ok es => .ok (es.map (e.value :: ·) (by have := e.rest_lt; omega))

def assignment (ts : List Token) : Result Statement ts.length :=
  match ident ts with
  | .error s => .error s
  | .ok x =>
    match symbol '=' x.rest with
    | .error s => .error s
    | .ok eq =>
      match expr eq.rest with
      | .error s => .error s
      | .ok e =>
        match symbol ';' e.rest with
        | .error s => .error s
        | .ok semi => .ok (semi.map (fun _ => .assign x.value e.value) (by
            have := x.rest_lt; have := eq.rest_lt; have := e.rest_lt; omega))

def call (ts : List Token) : Result Statement ts.length :=
  match ident ts with
  | .error s => .error s
  | .ok f =>
    match symbol '(' f.rest with
    | .error s => .error s
    | .ok opening =>
      match args opening.rest with
      | .error s => .error s
      | .ok es =>
        match symbol ')' es.rest with
        | .error s => .error s
        | .ok closing =>
          match symbol ';' closing.rest with
          | .error s => .error s
          | .ok semi => .ok (semi.map (fun _ => .call f.value es.value) (by
              have := f.rest_lt; have := opening.rest_lt; have := es.rest_lt
              have := closing.rest_lt; omega))

def statement (ts : List Token) : Result Statement ts.length :=
  match ts with
  | [] => .error ⟨.expected .statement, []⟩
  | t :: rest =>
    match t.kind with
    | .keyword .var =>
      match assignment rest with
      | .error s => .error s
      | .ok p => .ok (p.map id (Nat.le_succ _))
    | .identifier => call (t :: rest)
    | _ => .error ⟨.expected .statement, t :: rest⟩

/-- the statements up to a closing brace or the end of the input -/
def statements (ts : List Token) : Result (List Statement) (ts.length + 1) :=
  match ts with
  | [] => .ok ⟨[], [], Nat.lt_succ_self _⟩
  | t :: rest =>
    if t.isSymbol '\x7d' then .ok ⟨[], t :: rest, Nat.lt_succ_self _⟩
    else
      match statement (t :: rest) with
      | .error s => .error s
      | .ok st =>
        match statements st.rest with
        | .error s => .error s
        | .ok sts => .ok (sts.map (st.value :: ·) (by have := st.rest_lt; omega))
termination_by ts.length
decreasing_by have := st.rest_lt; simp only [List.length_cons] at *; omega

def script (ts : List Token) : Except Stop Script :=
  match keyword .function ts with
  | .error s => .error s
  | .ok start =>
    match ident start.rest with
    | .error s => .error s
    | .ok name =>
      match symbol '(' name.rest with
      | .error s => .error s
      | .ok opening =>
        match symbol ')' opening.rest with
        | .error s => .error s
        | .ok closing =>
          match symbol '\x7b' closing.rest with
          | .error s => .error s
          | .ok brace =>
            match statements brace.rest with
            | .error s => .error s
            | .ok body =>
              match symbol '\x7d' body.rest with
              | .error s => .error s
              | .ok last =>
                match last.rest with
                | [] => .ok ⟨name.value, body.value⟩
                | t :: rest => .error ⟨.expected .endOfInput, t :: rest⟩

end Parser

def Script.parse (text : String) : Except SyntaxError Script :=
  match Parser.script (Token.ofText text) with
  | .ok s => .ok s
  | .error stop => .error (stop.error (Token.endAt (Text.byteLength text.toList)))

end Scriptlet
