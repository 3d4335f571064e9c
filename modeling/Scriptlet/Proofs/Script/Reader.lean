import Scriptlet.Script.Parser

/-!
# Readers: the functions of the parser, put together from smaller ones

A function of the parser carries a proof that the tokens get fewer.  `reader` leaves the proof out;
what is left is put together with `Reader.andThen`, and the equations below say how, for each
function.  All that is proved of the parser goes through these equations.
-/

namespace Scriptlet.Parser

/-- what is read from tokens, with the tokens after it -/
abbrev Reader (α : Type) := List Token → Except Stop (α × List Token)

namespace Reader

def done {α : Type} (a : α) : Reader α := fun ts => .ok (a, ts)

def andThen {α β : Type} (p : Reader α) (q : α → Reader β) : Reader β := fun ts =>
  match p ts with
  | .error s => .error s
  | .ok (a, rest) => q a rest

theorem andThen_of_error {α β : Type} {p : Reader α} {q : α → Reader β} {ts : List Token} {s : Stop}
    (h : p ts = .error s) : p.andThen q ts = .error s := by
  unfold andThen
  rw [h]

theorem andThen_of_ok {α β : Type} {p : Reader α} {q : α → Reader β} {ts rest : List Token} {a : α}
    (h : p ts = .ok (a, rest)) : p.andThen q ts = q a rest := by
  unfold andThen
  rw [h]

end Reader

def forget {α : Type} {n : Nat} : Result α n → Except Stop (α × List Token)
  | .error s => .error s
  | .ok p => .ok (p.value, p.rest)

def reader {α : Type} {bound : List Token → Nat} (f : (ts : List Token) → Result α (bound ts)) :
    Reader α := fun ts => forget (f ts)

theorem andThen_reader {α β : Type} {bound : List Token → Nat}
    (f : (ts : List Token) → Result α (bound ts)) (q : α → Reader β) (ts : List Token) :
    (reader f).andThen q ts =
      match f ts with
      | .error s => .error s
      | .ok p => q p.value p.rest := by
  unfold Reader.andThen reader
  cases f ts with
  | error s => rfl
  | ok p => rfl

/-! ## single tokens -/

theorem take_cons_of_eq {kind : Token.Kind} {t : Token} (h : t.kind = kind) (what : Expectation)
    (rest : List Token) : reader (take kind what) (t :: rest) = .ok (t, rest) := by
  unfold reader take
  simp only [if_pos h]
  rfl

theorem take_cons_of_ne {kind : Token.Kind} {t : Token} (h : t.kind ≠ kind) (what : Expectation)
    (rest : List Token) :
    reader (take kind what) (t :: rest) = .error ⟨.expected what, t :: rest⟩ := by
  unfold reader take
  simp only [if_neg h]
  rfl

theorem symbol_cons {c : Char} {t : Token} (h : t.kind = .symbol c) (rest : List Token) :
    reader (symbol c) (t :: rest) = .ok (t, rest) := take_cons_of_eq h (.symbol c) rest

theorem ident_eq (ts : List Token) :
    reader ident ts =
      (reader (take .identifier .identifier)).andThen (fun t => .done ⟨t.text, t.span⟩) ts := by
  rw [andThen_reader]
  unfold reader ident
  cases take .identifier .identifier ts with
  | error s => rfl
  | ok t => rfl

/-! ## expressions -/

theorem factor_nil : reader factor [] = .error ⟨.expected .expression, []⟩ := by
  unfold reader
  rw [factor]
  rfl

theorem factor_number {t : Token} (h : t.kind = .number) (rest : List Token) :
    reader factor (t :: rest) =
      match Number.ofText? t.text with
      | none => .error ⟨.invalidNumber, t :: rest⟩
      | some v => .ok (.number v t.span, rest) := by
  unfold reader
  rw [factor]
  simp only [h]
  cases Number.ofText? t.text with
  | none => rfl
  | some v => rfl

theorem factor_identifier {t : Token} (h : t.kind = .identifier) (rest : List Token) :
    reader factor (t :: rest) = .ok (.var ⟨t.text, t.span⟩ t.span, rest) := by
  unfold reader
  rw [factor]
  simp only [h]
  rfl

theorem factor_group {t : Token} (h : t.kind = .symbol '(') (rest : List Token) :
    reader factor (t :: rest) =
      (reader expr).andThen (fun e =>
        (reader (symbol ')')).andThen fun close =>
          .done (e.withSpan (t.span.union close.span))) rest := by
  simp only [andThen_reader]
  unfold reader
  rw [factor]
  simp only [h, expr]
  rcases chainOf .additive rest with s | e
  · rfl
  dsimp only
  rcases symbol ')' e.rest with s | close
  · rfl
  rfl

theorem factor_other {t : Token} (hnumber : t.kind ≠ .number) (hident : t.kind ≠ .identifier)
    (hgroup : t.kind ≠ .symbol '(') (rest : List Token) :
    reader factor (t :: rest) = .error ⟨.expected .expression, t :: rest⟩ := by
  unfold reader
  rw [factor]
  split
  · exact absurd ‹_› hnumber
  · exact absurd ‹_› hident
  · exact absurd ‹_› hgroup
  · rfl

theorem forget_chain (level : Operator.Level) (acc : Expr) (ts : List Token) {m n : Nat}
    (hm : ts.length < m) (hn : ts.length < n) :
    forget (chain level acc ts m hm) = forget (chain level acc ts n hn) := by
  induction hlen : ts.length using Nat.strongRecOn generalizing acc ts with
  | ind len ih =>
    cases ts with
    | nil =>
      rw [chain, chain]
      rfl
    | cons t rest =>
      rw [chain, chain]
      cases operator? level t with
      | none => rfl
      | some op =>
        dsimp only
        rcases operand level rest with s | p
        · rfl
        dsimp only
        have hp := p.rest_lt
        rw [List.length_cons] at hlen hm hn
        exact ih p.rest.length (by omega) _ p.rest (by omega) (by omega) rfl

theorem length_lt_succ (ts : List Token) : ts.length < ts.length + 1 := Nat.lt_succ_self _

/-- the links of a chain that go on from `acc` -/
def links (level : Operator.Level) (acc : Expr) : Reader Expr := fun ts =>
  forget (chain level acc ts _ (length_lt_succ ts))

theorem links_nil (level : Operator.Level) (acc : Expr) : links level acc [] = .ok (acc, []) := by
  unfold links
  rw [chain]
  rfl

theorem links_of_none {level : Operator.Level} {t : Token} (h : operator? level t = none)
    (acc : Expr) (rest : List Token) : links level acc (t :: rest) = .ok (acc, t :: rest) := by
  unfold links
  rw [chain]
  simp only [h]
  rfl

theorem links_of_some {level : Operator.Level} {t : Token} {op : Operator}
    (h : operator? level t = some op) (acc : Expr) (rest : List Token) :
    links level acc (t :: rest) =
      (reader (operand level)).andThen (fun e => links level (acc.join op e)) rest := by
  rw [andThen_reader]
  unfold links
  rw [chain]
  simp only [h]
  rcases operand level rest with s | p
  · rfl
  dsimp only
  exact forget_chain ..

theorem chainOf_eq (level : Operator.Level) (ts : List Token) :
    reader (chainOf level) ts = (reader (operand level)).andThen (links level) ts := by
  rw [andThen_reader]
  unfold reader
  rw [chainOf]
  rcases operand level ts with s | p
  · rfl
  dsimp only
  exact forget_chain ..

theorem operand_multiplicative (ts : List Token) :
    reader (operand .multiplicative) ts = reader factor ts := by
  unfold reader
  rw [operand]

theorem operand_additive (ts : List Token) :
    reader (operand .additive) ts = reader (chainOf .multiplicative) ts := by
  unfold reader
  rw [operand]

/-! ## arguments -/

theorem moreArgs_nil : reader moreArgs [] = .ok ([], []) := by
  unfold reader
  rw [moreArgs]
  rfl

theorem moreArgs_of_ne {t : Token} (h : t.kind ≠ .symbol ',') (rest : List Token) :
    reader moreArgs (t :: rest) = .ok ([], t :: rest) := by
  have h : t.isSymbol ',' = false := beq_eq_false_iff_ne.mpr h
  unfold reader
  rw [moreArgs, h, if_neg Bool.false_ne_true]
  rfl

theorem moreArgs_comma {t : Token} (h : t.kind = .symbol ',') (rest : List Token) :
    reader moreArgs (t :: rest) =
      (reader expr).andThen
        (fun e => (reader moreArgs).andThen fun es => .done (e :: es)) rest := by
  have h : t.isSymbol ',' = true := beq_iff_eq.mpr h
  simp only [andThen_reader]
  unfold reader
  rw [moreArgs, if_pos h]
  rcases expr rest with s | e
  · rfl
  dsimp only
  rcases moreArgs e.rest with s | es
  · rfl
  rfl

theorem args_close {ts : List Token} (h : ts.head?.map Token.kind = some (.symbol ')')) :
    reader args ts = .ok ([], ts) := by
  cases ts with
  | nil => cases h
  | cons t rest =>
    have h : t.isSymbol ')' = true := beq_iff_eq.mpr (Option.some.inj h)
    unfold reader args
    rw [List.head?_cons, Option.any_some, if_pos h]
    rfl

theorem args_of_ne {ts : List Token} (h : ts.head?.map Token.kind ≠ some (.symbol ')')) :
    reader args ts =
      (reader expr).andThen (fun e => (reader moreArgs).andThen fun es => .done (e :: es)) ts := by
  have h : ts.head?.any (·.isSymbol ')') = false := by
    cases ts with
    | nil => rfl
    | cons t rest => exact beq_eq_false_iff_ne.mpr fun h' => h (congrArg some h')
  simp only [andThen_reader]
  unfold reader args
  rw [h, if_neg Bool.false_ne_true]
  rcases expr ts with s | e
  · rfl
  dsimp only
  rcases moreArgs e.rest with s | es
  · rfl
  rfl

/-! ## statements -/

theorem assignment_eq (ts : List Token) :
    reader assignment ts =
      (reader ident).andThen (fun x => (reader (symbol '=')).andThen fun _ =>
        (reader expr).andThen fun e => (reader (symbol ';')).andThen fun _ =>
          .done (.assign x e)) ts := by
  simp only [andThen_reader]
  unfold reader assignment
  rcases ident ts with s | x
  · rfl
  dsimp only
  rcases symbol '=' x.rest with s | eq
  · rfl
  dsimp only
  rcases expr eq.rest with s | e
  · rfl
  dsimp only
  rcases symbol ';' e.rest with s | semi
  · rfl
  rfl

theorem call_eq (ts : List Token) :
    reader call ts =
      (reader ident).andThen (fun f => (reader (symbol '(')).andThen fun _ =>
        (reader args).andThen fun es => (reader (symbol ')')).andThen fun _ =>
          (reader (symbol ';')).andThen fun _ => .done (.call f es)) ts := by
  simp only [andThen_reader]
  unfold reader call
  rcases ident ts with s | f
  · rfl
  dsimp only
  rcases symbol '(' f.rest with s | opening
  · rfl
  dsimp only
  rcases args opening.rest with s | es
  · rfl
  dsimp only
  rcases symbol ')' es.rest with s | closing
  · rfl
  dsimp only
  rcases symbol ';' closing.rest with s | semi
  · rfl
  rfl

theorem statement_nil : reader statement [] = .error ⟨.expected .statement, []⟩ := rfl

theorem statement_var {t : Token} (h : t.kind = .keyword .var) (rest : List Token) :
    reader statement (t :: rest) = reader assignment rest := by
  unfold reader statement
  simp only [h]
  rcases assignment rest with s | p
  · rfl
  rfl

theorem statement_identifier {t : Token} (h : t.kind = .identifier) (rest : List Token) :
    reader statement (t :: rest) = reader call (t :: rest) := by
  unfold reader statement
  simp only [h]

theorem statement_other {t : Token} (hvar : t.kind ≠ .keyword .var) (hident : t.kind ≠ .identifier)
    (rest : List Token) :
    reader statement (t :: rest) = .error ⟨.expected .statement, t :: rest⟩ := by
  unfold reader statement
  dsimp only
  split
  · exact absurd ‹_› hvar
  · exact absurd ‹_› hident
  · rfl

theorem statements_nil : reader statements [] = .ok ([], []) := by
  unfold reader
  rw [statements]
  rfl

theorem statements_brace {t : Token} (h : t.kind = .symbol '\x7d') (rest : List Token) :
    reader statements (t :: rest) = .ok ([], t :: rest) := by
  have h : t.isSymbol '\x7d' = true := beq_iff_eq.mpr h
  unfold reader
  rw [statements, if_pos h]
  rfl

theorem statements_of_ne {t : Token} (h : t.kind ≠ .symbol '\x7d') (rest : List Token) :
    reader statements (t :: rest) =
      (reader statement).andThen (fun st =>
        (reader statements).andThen fun sts => .done (st :: sts)) (t :: rest) := by
  have h : t.isSymbol '\x7d' = false := beq_eq_false_iff_ne.mpr h
  simp only [andThen_reader]
  unfold reader
  rw [statements, h, if_neg Bool.false_ne_true]
  rcases statement (t :: rest) with s | st
  · rfl
  dsimp only
  rcases statements st.rest with s | sts
  · rfl
  rfl

/-! ## scripts -/

def braced : Reader Script :=
  (reader (keyword .function)).andThen fun _ => (reader ident).andThen fun name =>
    (reader (symbol '(')).andThen fun _ => (reader (symbol ')')).andThen fun _ =>
      (reader (symbol '\x7b')).andThen fun _ => (reader statements).andThen fun body =>
        (reader (symbol '\x7d')).andThen fun _ => .done ⟨name, body⟩

theorem script_eq (ts : List Token) :
    script ts =
      match braced ts with
      | .error s => .error s
      | .ok (s, []) => .ok s
      | .ok (_, t :: rest) => .error ⟨.expected .endOfInput, t :: rest⟩ := by
  unfold braced
  simp only [andThen_reader]
  unfold script
  rcases keyword .function ts with s | start
  · rfl
  dsimp only
  rcases ident start.rest with s | name
  · rfl
  dsimp only
  rcases symbol '(' name.rest with s | opening
  · rfl
  dsimp only
  rcases symbol ')' opening.rest with s | closing
  · rfl
  dsimp only
  rcases symbol '\x7b' closing.rest with s | brace
  · rfl
  dsimp only
  rcases statements brace.rest with s | body
  · rfl
  dsimp only
  rcases symbol '\x7d' body.rest with s | last
  · rfl
  dsimp only [Reader.done]
  cases last.rest with
  | nil => rfl
  | cons t rest => rfl

end Scriptlet.Parser
