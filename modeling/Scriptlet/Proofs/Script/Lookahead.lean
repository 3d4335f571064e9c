import Scriptlet.Proofs.Script.Reader
import Scriptlet.Proofs.Token.Coverage

/-!
# Lookahead: a script read with one token at hand, the others cut when they are asked for

The parser reads a list of tokens.  Here it reads a text: it holds one token, asks the lexer for the
next one when it is done with this one, and loops for as long as the token at hand says so.  Nothing
in the definitions promises that it ever stops, so there is a limit for the rounds of a loop and for
the expressions in one another; a reading that it does not cut off ends by itself.

* `Lookahead`            the token at hand, where the lexer is, and the tokens that were passed;
* `Lookahead.Passes`     some tokens are passed one after the other, none of them the end of input;
* `Reading`              what is read from there, with where the reading leaves off, or an error;
* `Reading.script`       a script, by the rules of the grammar;
* `Reading.expr_eq`      the rule of expressions holds, although one of them can be cut off.
-/

namespace Scriptlet

open Text

/-! ## places of a text -/

def Cursor.Reaches (c c' : Cursor) : Prop :=
  ∃ xs, c.rest = xs ++ c'.rest ∧ c'.offset = c.offset + byteLength xs

namespace Cursor

variable {c c' c'' : Cursor}

theorem Reaches.refl (c : Cursor) : c.Reaches c := ⟨[], rfl, rfl⟩

theorem Reaches.trans (h : c.Reaches c') (h' : c'.Reaches c'') : c.Reaches c'' := by
  obtain ⟨xs, hrest, hoffset⟩ := h
  obtain ⟨ys, hrest', hoffset'⟩ := h'
  refine ⟨xs ++ ys, by rw [hrest, hrest', List.append_assoc], ?_⟩
  rw [hoffset', hoffset, byteLength_append, Nat.add_assoc]

theorem Reaches.stop_eq (h : c.Reaches c') :
    c'.offset + byteLength c'.rest = c.offset + byteLength c.rest := by
  obtain ⟨xs, hrest, hoffset⟩ := h
  rw [hoffset, hrest, byteLength_append, Nat.add_assoc]

end Cursor

namespace Token

/-- **The lexer never goes back**, and it says that the input is over only where the text ends. -/
theorem next_reaches (c : Cursor) :
    c.Reaches (next c).2 ∧
      ((next c).1.kind = .endOfInput → (next c).1 = endAt (c.offset + byteLength c.rest)) := by
  obtain ⟨n, cs⟩ := c
  obtain hgap | ⟨gap, k, t, l, rest, rfl, hgap, hlex⟩ := blanks_or_lexeme cs
  · rw [next_blanks hgap]
    exact ⟨⟨cs, (List.append_nil cs).symm, rfl⟩, fun _ => rfl⟩
  · rw [next_of_lexeme hgap hlex]
    refine ⟨⟨gap ++ l, (List.append_assoc ..).symm, ?_⟩, fun h => absurd h hlex.kind_ne_endOfInput⟩
    rw [byteLength_append, Nat.add_assoc]

end Token

/-! ## the token at hand -/

/-- a token, the place after it, and the tokens that were passed before -/
structure Lookahead where
  current : Token
  ahead : Cursor
  passed : List Token
  cut : ∃ c, Token.next c = (current, ahead)

namespace Lookahead

/-- The first token is cut before it is asked for. -/
def start (text : String) : Lookahead :=
  ⟨(Token.next (.start text.toList)).1, (Token.next (.start text.toList)).2, [], _, rfl⟩

def advance (l : Lookahead) : Lookahead :=
  ⟨(Token.next l.ahead).1, (Token.next l.ahead).2, l.passed ++ [l.current], _, rfl⟩

/-- the tokens that are still to be read, without the end of input -/
def left (l : Lookahead) : List Token :=
  if l.current.kind = .endOfInput then [] else l.current :: Token.allFrom l.ahead

def inputEnd (l : Lookahead) : Token := Token.endAt (l.ahead.offset + byteLength l.ahead.rest)

/-- The tokens are passed one after the other, each when it is at hand, and none is the end of the
input. -/
inductive Passes : Lookahead → List Token → Lookahead → Prop where
  | nil (l : Lookahead) : Passes l [] l
  | cons {l l' : Lookahead} {ts : List Token} (hcurrent : l.current.kind ≠ .endOfInput)
      (hrest : Passes l.advance ts l') : Passes l (l.current :: ts) l'

variable {l l' l'' : Lookahead} {ts us : List Token}

theorem left_start (text : String) : (start text).left = Token.ofText text := by
  rw [Token.ofText, Token.allFrom]
  rfl

theorem left_of_end (h : l.current.kind = .endOfInput) : l.left = [] := if_pos h

theorem left_of_ne (h : l.current.kind ≠ .endOfInput) : l.left = l.current :: l.advance.left := by
  have hahead : l.advance.left = Token.allFrom l.ahead := by
    rw [Token.allFrom]
    rfl
  rw [hahead]
  exact if_neg h

theorem inputEnd_start (text : String) :
    (start text).inputEnd = Token.endAt (byteLength text.toList) := by
  have h := (Token.next_reaches (.start text.toList)).1.stop_eq
  unfold inputEnd
  exact congrArg Token.endAt (h.trans (Nat.zero_add _))

theorem inputEnd_advance (l : Lookahead) : l.advance.inputEnd = l.inputEnd :=
  congrArg Token.endAt (Token.next_reaches l.ahead).1.stop_eq

theorem current_of_end (h : l.current.kind = .endOfInput) : l.current = l.inputEnd := by
  obtain ⟨current, ahead, passed, c, hcut⟩ := l
  have hnext := Token.next_reaches c
  rw [hcut] at hnext
  exact (hnext.2 h).trans (congrArg Token.endAt hnext.1.stop_eq.symm)

theorem head?_left (l : Lookahead) : l.left.head?.getD l.inputEnd = l.current := by
  by_cases h : l.current.kind = .endOfInput
  · rw [left_of_end h]
    exact (current_of_end h).symm
  · rw [left_of_ne h]
    rfl

/-! ### what passing tokens does -/

theorem Passes.trans (h : Passes l ts l') (h' : Passes l' us l'') : Passes l (ts ++ us) l'' := by
  induction h with
  | nil => exact h'
  | cons hcurrent _ ih => exact .cons hcurrent (ih h')

theorem Passes.left_eq (h : Passes l ts l') : l.left = ts ++ l'.left := by
  induction h with
  | nil => rfl
  | cons hcurrent _ ih => rw [left_of_ne hcurrent, ih, List.cons_append]

theorem Passes.length_left_le (h : Passes l ts l') : l'.left.length ≤ l.left.length := by
  rw [h.left_eq, List.length_append]
  exact Nat.le_add_left ..

theorem Passes.kind_ne (h : Passes l ts l') : ∀ t ∈ ts, t.kind ≠ .endOfInput := by
  induction h with
  | nil => nofun
  | cons hcurrent _ ih => exact List.forall_mem_cons.mpr ⟨hcurrent, ih⟩

theorem Passes.eq_of_left (h : Passes l ts l') (h' : Passes l us l'')
    (hleft : l'.left = l''.left) : l' = l'' := by
  have hts : ts = us := by
    have hsame := h.left_eq.symm.trans h'.left_eq
    rw [hleft] at hsame
    exact List.append_cancel_right hsame
  subst hts
  clear hleft
  induction h with
  | nil =>
    cases h'
    rfl
  | cons _ _ ih =>
    cases h' with
    | cons _ h' => exact ih h'

theorem Passes.passed_eq (h : Passes l ts l') : l'.passed = l.passed ++ ts := by
  induction h with
  | nil => exact (List.append_nil _).symm
  | cons _ _ ih => exact ih.trans (List.append_assoc ..)

theorem Passes.inputEnd_eq (h : Passes l ts l') : l'.inputEnd = l.inputEnd := by
  induction h with
  | nil => rfl
  | cons _ _ ih => exact ih.trans (inputEnd_advance _)

theorem Passes.reaches (h : Passes l ts l') : l.ahead.Reaches l'.ahead := by
  induction h with
  | nil => exact .refl _
  | cons _ _ ih => exact (Token.next_reaches _).1.trans ih

end Lookahead

/-! ## readings -/

/-- What is read, or an error, and where the reading leaves off; `none` if the limit cuts it off. -/
abbrev Reading (α : Type) := ReaderT Nat (ExceptT SyntaxError (StateT Lookahead Option)) α

namespace Reading

def current : Reading Token := do return (← get).current

def advance : Reading Token := do
  let l ← get
  set l.advance
  return l.current

def fail {α : Type} (what : Expectation) : Reading α := do
  let t ← current
  throw ⟨.expected what t.describe, t.span⟩

def cutOff {α : Type} : Reading α := fun _ _ => none

def deeper {α : Type} (m : Reading α) : Reading α
  | 0 => cutOff 0
  | n + 1 => m n

/-- Goes on from `a` for as long as the body gives another one, but for fewer rounds than `n`. -/
def rounds {α : Type} (body : α → Reading (Option α)) : Nat → α → Reading α
  | 0, _ => cutOff
  | n + 1, a => do
    match ← body a with
    | none => return a
    | some b => rounds body n b

def loop {α : Type} (body : α → Reading (Option α)) (a : α) : Reading α := do
  rounds body (← read) a

/-! ### single tokens -/

def take (kind : Token.Kind) (what : Expectation) : Reading Token := do
  if (← current).kind = kind then advance else fail what

def symbol (c : Char) : Reading Token := take (.symbol c) (.symbol c)

def keyword (k : Keyword) : Reading Token := take (.keyword k) (.keyword k)

def ident : Reading Ident := do
  let t ← take .identifier .identifier
  return ⟨t.text, t.span⟩

def eat (c : Char) : Reading Bool := do
  if (← current).isSymbol c then
    let _ ← advance
    return true
  else return false

/-! ### expressions -/

def link (level : Operator.Level) (operand : Reading Expr) (acc : Expr) :
    Reading (Option Expr) := do
  match Parser.operator? level (← current) with
  | none => return none
  | some op =>
    let _ ← advance
    let e ← operand
    return some (acc.join op e)

def leftAssoc (level : Operator.Level) (operand : Reading Expr) : Reading Expr := do
  let e ← operand
  loop (link level operand) e

def number (t : Token) : Reading Expr :=
  match Number.ofText? t.text with
  | none => throw ⟨.invalidNumber t.text, t.span⟩
  | some v => return .number v t.span

/-- a factor, with `inner` between parentheses -/
def factorOf (inner : Reading Expr) : Reading Expr := do
  match (← current).kind with
  | .number =>
    let t ← advance
    number t
  | .identifier =>
    let t ← advance
    return .var ⟨t.text, t.span⟩ t.span
  | .symbol '(' =>
    let opening ← advance
    let e ← inner
    let closing ← symbol ')'
    return e.withSpan (opening.span.union closing.span)
  | _ => fail .expression

def exprOf (inner : Reading Expr) : Reading Expr :=
  leftAssoc .additive (leftAssoc .multiplicative (factorOf inner))

/-- Between parentheses the limit is lowered, so it cuts off an expression with as many others in
one another. -/
def expr : Reading Expr
  | 0 => exprOf cutOff 0
  | n + 1 => exprOf (fun _ => expr n) (n + 1)

def factor : Reading Expr := factorOf (deeper expr)

def term : Reading Expr := leftAssoc .multiplicative factor

/-! ### statements -/

def anotherArg (es : List Expr) : Reading (Option (List Expr)) := do
  if ← eat ',' then
    let e ← expr
    return some (es ++ [e])
  else return none

def args : Reading (List Expr) := do
  if (← current).isSymbol ')' then return []
  else
    let e ← expr
    loop anotherArg [e]

def assignment : Reading Statement := do
  let x ← ident
  let _ ← symbol '='
  let e ← expr
  let _ ← symbol ';'
  return .assign x e

def call : Reading Statement := do
  let f ← ident
  let _ ← symbol '('
  let es ← args
  let _ ← symbol ')'
  let _ ← symbol ';'
  return .call f es

def statement : Reading Statement := do
  match (← current).kind with
  | .keyword .var =>
    let _ ← advance
    assignment
  | .identifier => call
  | _ => fail .statement

/-- one more statement, if neither a closing brace nor the end of the input is at hand -/
def anotherStatement (sts : List Statement) : Reading (Option (List Statement)) := do
  let t ← current
  if t.isSymbol '\x7d' || t.kind == .endOfInput then return none
  else
    let st ← statement
    return some (sts ++ [st])

/-! ### scripts -/

def braced : Reading Script := do
  let _ ← keyword .function
  let name ← ident
  let _ ← symbol '('
  let _ ← symbol ')'
  let _ ← symbol '\x7b'
  let body ← loop anotherStatement []
  let _ ← symbol '\x7d'
  return ⟨name, body⟩

def script : Reading Script := do
  let s ← braced
  if (← current).kind = .endOfInput then return s else fail .endOfInput

/-! ### one step after the other -/

section

variable {α β : Type} {m : Reading α} {k : α → Reading β} {limit : Nat} {l l' : Lookahead}

theorem current_run (limit : Nat) (l : Lookahead) :
    current limit l = some (.ok l.current, l) := rfl

theorem bind_of_ok {a : α} (h : m limit l = some (.ok a, l')) :
    (m >>= k) limit l = k a limit l' := by
  show (Option.bind (m limit l) _) = _
  rw [h]
  rfl

theorem bind_of_error {e : SyntaxError} (h : m limit l = some (.error e, l')) :
    (m >>= k) limit l = some (.error e, l') := by
  show (Option.bind (m limit l) _) = _
  rw [h]
  rfl

theorem bind_of_bind {γ : Type} {m' : Reading γ} {f : γ → Reading α}
    (h : m limit l = (m' >>= f) limit l') :
    (m >>= k) limit l = (m' >>= fun c => f c >>= k) limit l' := by
  rw [← bind_assoc]
  show (Option.bind (m limit l) _) = Option.bind ((m' >>= f) limit l') _
  rw [h]

end

section

variable {inner : Reading Expr} {limit : Nat} {l : Lookahead}

theorem factorOf_of_number (h : l.current.kind = .number) :
    factorOf inner limit l = number l.current limit l.advance := by
  rw [factorOf, bind_of_ok (current_run limit l), h]
  rfl

theorem factorOf_of_identifier (h : l.current.kind = .identifier) :
    factorOf inner limit l =
      (pure (.var ⟨l.current.text, l.current.span⟩ l.current.span) : Reading Expr) limit
        l.advance := by
  rw [factorOf, bind_of_ok (current_run limit l), h]
  rfl

theorem factorOf_of_group (h : l.current.kind = .symbol '(') :
    factorOf inner limit l =
      (inner >>= fun e => symbol ')' >>= fun closing =>
        pure (e.withSpan (l.current.span.union closing.span))) limit l.advance := by
  rw [factorOf, bind_of_ok (current_run limit l), h]
  rfl

theorem factorOf_of_other (hnumber : l.current.kind ≠ .number)
    (hident : l.current.kind ≠ .identifier) (hgroup : l.current.kind ≠ .symbol '(') :
    factorOf inner limit l = fail .expression limit l := by
  rw [factorOf, bind_of_ok (current_run limit l)]
  refine congrFun (congrFun ?_ limit) l
  split
  · exact absurd ‹_› hnumber
  · exact absurd ‹_› hident
  · exact absurd ‹_› hgroup
  · rfl

end

/-! ### the rule of expressions

What is between parentheses under a limit is `deeper expr` under it, and readings that agree under a
limit are put together to readings that agree under it. -/

section

variable {α β : Type} {limit : Nat}

theorem bind_agree {m m' : Reading α} {k k' : α → Reading β} (h : m limit = m' limit)
    (hk : ∀ a, k a limit = k' a limit) : (m >>= k) limit = (m' >>= k') limit := by
  show (m limit >>= fun a => k a limit) = (m' limit >>= fun a => k' a limit)
  rw [h, funext hk]

theorem rounds_agree {body body' : α → Reading (Option α)}
    (h : ∀ a, body a limit = body' a limit) (n : Nat) (a : α) :
    rounds body n a limit = rounds body' n a limit := by
  induction n generalizing a with
  | zero => rfl
  | succ n ih =>
    refine bind_agree (h a) fun o => ?_
    cases o with
    | none => rfl
    | some b => exact ih b

theorem leftAssoc_agree {operand operand' : Reading Expr} (h : operand limit = operand' limit)
    (level : Operator.Level) :
    leftAssoc level operand limit = leftAssoc level operand' limit := by
  refine bind_agree h fun e => rounds_agree (fun acc => bind_agree rfl fun t => ?_) limit e
  cases Parser.operator? level t with
  | none => rfl
  | some op => exact bind_agree rfl fun _ => bind_agree h fun _ => rfl

theorem factorOf_agree {inner inner' : Reading Expr} (h : inner limit = inner' limit) :
    factorOf inner limit = factorOf inner' limit := by
  funext l
  by_cases hnumber : l.current.kind = .number
  · rw [factorOf_of_number hnumber, factorOf_of_number hnumber]
  by_cases hident : l.current.kind = .identifier
  · rw [factorOf_of_identifier hident, factorOf_of_identifier hident]
  by_cases hgroup : l.current.kind = .symbol '('
  · rw [factorOf_of_group hgroup, factorOf_of_group hgroup]
    exact congrFun (bind_agree h fun _ => rfl) l.advance
  · rw [factorOf_of_other hnumber hident hgroup, factorOf_of_other hnumber hident hgroup]

theorem expr_eq : expr = leftAssoc .additive term := by
  funext limit
  cases limit with
  | zero =>
    have hfactor : factorOf cutOff 0 = factor 0 := factorOf_agree rfl
    exact leftAssoc_agree (leftAssoc_agree hfactor _) _
  | succ n =>
    have hfactor : factorOf (fun _ => expr n) (n + 1) = factor (n + 1) := factorOf_agree rfl
    exact leftAssoc_agree (leftAssoc_agree hfactor _) _

end

end Reading

end Scriptlet
