import Scriptlet.Proofs.Script.Expressions
import Scriptlet.Proofs.Script.Repetition

/-!
# Statements: the parser fits the rules of arguments, statements and scripts

The parser takes the parts of these rules one after the other.  `Assignment`, `Call` and `Braced`
are the rules put that way, and the first lemmas under each heading say that they are the rules of
the grammar.

* `fits_statement`  a statement, whatever comes next;
* `fits_braced`     a script up to its closing brace, whatever comes next.
-/

namespace Scriptlet.Parser

open Grammar

section
variable {β : Type} {kind : Token.Kind} {E : Token → Phrase β} {us rest : List Token} {b : β}

theorem nextKind_of_one (h : Then (One kind) E us b) : nextKind (us ++ rest) = some kind := by
  obtain ⟨t, ys, rfl, hkind, -⟩ := then_one_iff.mp h
  exact congrArg some hkind

theorem ends_of_one {c : Char} (hc : Operator.ofSymbol? c = none)
    (h : Then (One (.symbol c)) E us b) : ends .expr (nextKind (us ++ rest)) := by
  rw [nextKind_of_one h]
  exact ends_of_symbol hc _

end

/-! ## arguments -/

theorem starts_expr {r : Rule} {us : List Token} {e : Expr} (h : ExprPhrase exactly r us e) :
    ∃ t ts, us = t :: ts ∧
      (t.kind = .number ∨ t.kind = .identifier ∨ t.kind = .symbol '(') := by
  induction h with
  | number ht => exact ⟨_, _, rfl, .inl ht⟩
  | var ht => exact ⟨_, _, rfl, .inr (.inl ht)⟩
  | group hopening => exact ⟨_, _, rfl, .inr (.inr hopening)⟩
  | chain _ _ _ _ ih =>
    obtain ⟨t, ts, rfl, ht⟩ := ih
    exact ⟨t, _, rfl, ht⟩

def NoComma (k : Option Token.Kind) : Prop := k ≠ some (.symbol ',')

def laterArg : Reader Expr := (reader (symbol ',')).andThen fun _ => reader expr

theorem laterArg_eq :
    Then (One (.symbol ',')) (fun _ => ExprPhrase exactly .expr) = LaterArg exactly := by
  funext us e
  refine propext ⟨?_, ?_⟩
  · intro h
    obtain ⟨comma, ts, rfl, hcomma, he⟩ := then_one_iff.mp h
    exact .mk hcomma he
  · intro h
    obtain ⟨hcomma, he⟩ := h
    exact then_one_iff.mpr ⟨_, _, rfl, hcomma, he⟩

theorem fits_laterArg : Fits laterArg (LaterArg exactly) fun _ => ends .expr := by
  rw [← laterArg_eq]
  exact (Fits.symbol ',').andThen (fun _ => fits_expr) fun _ _ => trivial

theorem repeats_moreArgs : Repeats laterArg (reader moreArgs) NoComma where
  stops ts h := by
    cases ts with
    | nil => exact moreArgs_nil
    | cons t rest => exact moreArgs_of_ne (fun h' => h (congrArg some h')) rest
  goesOn ts h := by
    cases ts with
    | nil => exact absurd (fun h' => by cases h') h
    | cons t rest =>
      have hcomma : t.kind = .symbol ',' := Option.some.inj (Decidable.not_not.mp h)
      rw [moreArgs_comma hcomma, Reader.cons]
      unfold laterArg Reader.andThen
      rw [symbol_cons hcomma]

theorem starts_laterArg : Starts (LaterArg exactly) (ends .expr) NoComma where
  ne_nil h := by
    cases h with
    | mk => exact List.cons_ne_nil _ _
  not_stop rest h := by
    cases h with
    | mk hcomma => exact fun h' => h' (congrArg some hcomma)
  follows rest h := by
    cases h with
    | @mk comma ts e hcomma he =>
      rw [List.cons_append, nextKind_cons, hcomma]
      exact ends_of_symbol rfl _

/-- No argument stands only before the closing parenthesis; the last one ends as an expression that
no comma follows. -/
def endsArgs : Follow (List Expr)
  | [], k => k = some (.symbol ')')
  | _ :: _, k => ends .expr k ∧ NoComma k

theorem argsPhrase_of_more {us : List Token} {es : List Expr}
    (h : More (ExprPhrase exactly .expr) (LaterArg exactly) us es) : ArgsPhrase exactly us es := by
  obtain ⟨xs, ys, e, es, rfl, rfl, he, hes⟩ := more_iff.mp h
  exact .some he hes

theorem completes_more : Completes ((reader expr).cons (reader moreArgs))
    (More (ExprPhrase exactly .expr) (LaterArg exactly)) fun _ k => ends .expr k ∧ NoComma k :=
  completes_cons fits_expr.completes
    (repeats_moreArgs.completes fits_laterArg.completes starts_laterArg)
    (fun hys hG => starts_laterArg.follows_repeated hys hG.1)

theorem fits_args : Fits (reader args) (ArgsPhrase exactly) endsArgs where
  completes := by
    intro us es rest h hrest
    cases h with
    | none => exact args_close hrest
    | @some ts us e es he hes =>
      have hne : nextKind ((ts ++ us) ++ rest) ≠ some (.symbol ')') := by
        obtain ⟨t, ts, rfl, ht⟩ := starts_expr he
        intro h
        rw [Option.some.inj h] at ht
        obtain ht | ht | ht := ht <;> cases ht
      rw [args_of_ne hne]
      exact completes_more rest (more_iff.mpr ⟨ts, us, e, es, rfl, rfl, he, hes⟩) hrest
  fitsAt ts := by
    by_cases hclose : nextKind ts = some (.symbol ')')
    · exact .of_ok [] (args_close hclose) .none hclose
    · have hmore := fitsAt_cons fits_expr
        (repeats_moreArgs.completes fits_laterArg.completes starts_laterArg)
        (fun (_ : ts = _) _ hF => repeats_moreArgs.fitsAt fits_laterArg starts_laterArg hF)
      have hargs : FitsAt ((reader expr).cons (reader moreArgs)) (ArgsPhrase exactly)
          (Whole (ArgsPhrase exactly)) endsArgs ts := by
        refine hmore.mono argsPhrase_of_more (Whole.mono argsPhrase_of_more) fun h hk => ?_
        obtain ⟨_, _, _, _, -, rfl, -⟩ := more_iff.mp h
        exact hk
      exact hargs.congr fun us hus => args_of_ne fun h => hclose (hus.symm.trans h)
  occurs := ⟨[], [], .none⟩

/-! ## statements -/

def Assignment : Phrase Statement :=
  Then Name fun x => Then (One (.symbol '=')) fun _ => Then (ExprPhrase exactly .expr) fun e =>
    Then (One (.symbol ';')) fun _ => Nothing (.assign x e)

def Call : Phrase Statement :=
  Then Name fun f => Then (One (.symbol '(')) fun _ => Then (ArgsPhrase exactly) fun es =>
    Then (One (.symbol ')')) fun _ => Then (One (.symbol ';')) fun _ => Nothing (.call f es)

theorem statementPhrase_of_assignment {var : Token} {us : List Token} {st : Statement}
    (hvar : var.kind = .keyword .var) (h : Assignment us st) :
    StatementPhrase exactly (var :: us) st := by
  obtain ⟨name, _, rfl, hname, h⟩ := then_name_iff.mp h
  obtain ⟨eq, _, rfl, heq, h⟩ := then_one_iff.mp h
  obtain ⟨ts, _, e, rfl, he, h⟩ := h
  obtain ⟨semi, -, rfl, hsemi, rfl, rfl⟩ := then_one_iff.mp h
  exact .assign hvar hname heq he hsemi

theorem statementPhrase_of_call {us : List Token} {st : Statement} (h : Call us st) :
    StatementPhrase exactly us st := by
  obtain ⟨name, _, rfl, hname, h⟩ := then_name_iff.mp h
  obtain ⟨opening, _, rfl, hopening, h⟩ := then_one_iff.mp h
  obtain ⟨ts, _, es, rfl, hes, h⟩ := h
  obtain ⟨closing, _, rfl, hclosing, h⟩ := then_one_iff.mp h
  obtain ⟨semi, -, rfl, hsemi, rfl, rfl⟩ := then_one_iff.mp h
  exact .call hname hopening hes hclosing hsemi

theorem statementPhrase_iff {us : List Token} {st : Statement} :
    StatementPhrase exactly us st ↔
      (∃ t ts, us = t :: ts ∧ t.kind = .keyword .var ∧ Assignment ts st) ∨
        (nextKind us = some .identifier ∧ Call us st) := by
  constructor
  · intro h
    cases h with
    | @assign var name eq semi ts e hvar hname heq he hsemi =>
      refine .inl ⟨var, _, rfl, hvar, ?_⟩
      refine then_name_iff.mpr ⟨name, _, rfl, hname, ?_⟩
      refine then_one_iff.mpr ⟨eq, _, rfl, heq, ts, [semi], e, rfl, he, ?_⟩
      exact then_one_iff.mpr ⟨semi, [], rfl, hsemi, rfl, rfl⟩
    | @call name opening closing semi ts es hname hopening hes hclosing hsemi =>
      refine .inr ⟨congrArg some hname, ?_⟩
      refine then_name_iff.mpr ⟨name, _, rfl, hname, ?_⟩
      refine then_one_iff.mpr ⟨opening, _, rfl, hopening, ts, [closing, semi], es, rfl, hes, ?_⟩
      refine then_one_iff.mpr ⟨closing, _, rfl, hclosing, ?_⟩
      exact then_one_iff.mpr ⟨semi, [], rfl, hsemi, rfl, rfl⟩
  · intro h
    obtain ⟨t, ts, rfl, hvar, h⟩ | ⟨-, h⟩ := h
    · exact statementPhrase_of_assignment hvar h
    · exact statementPhrase_of_call h

theorem fits_semicolon (st : Statement) :
    Fits ((reader (symbol ';')).andThen fun _ => .done st)
      (Then (One (.symbol ';')) fun _ => Nothing st) anything :=
  (Fits.symbol ';').andThen (fun _ => .done st) fun _ _ => trivial

theorem fits_assignment : Fits (reader assignment) Assignment anything := by
  rw [funext assignment_eq]
  refine Fits.ident.andThen (fun x => ?_) fun _ _ => trivial
  refine (Fits.symbol '=').andThen (fun _ => ?_) fun _ _ => trivial
  exact fits_expr.andThen (fun e => fits_semicolon _) fun h _ => ends_of_one rfl h

theorem fits_call : Fits (reader call) Call anything := by
  rw [funext call_eq]
  refine Fits.ident.andThen (fun f => ?_) fun _ _ => trivial
  refine (Fits.symbol '(').andThen (fun _ => ?_) fun _ _ => trivial
  refine fits_args.andThen (fun es => ?_) fun {es _ _ _} h _ => ?_
  · exact (Fits.symbol ')').andThen (fun _ => fits_semicolon _) fun _ _ => trivial
  · cases es with
    | nil => exact nextKind_of_one h
    | cons e es =>
      refine ⟨ends_of_one rfl h, ?_⟩
      rw [nextKind_of_one h]
      exact fun h' => by cases h'

theorem statement_of_identifier {ts : List Token} (h : nextKind ts = some .identifier) :
    reader statement ts = reader call ts := by
  cases ts with
  | nil => cases h
  | cons t rest => exact statement_identifier (Option.some.inj h) rest

theorem nextKind_append {us : List Token} {k : Token.Kind} (h : nextKind us = some k)
    (rest : List Token) : nextKind (us ++ rest) = some k := by
  cases us with
  | nil => cases h
  | cons t us => exact h

theorem fits_statement : Fits (reader statement) (StatementPhrase exactly) anything where
  completes := by
    intro us st rest h _
    obtain ⟨t, ts, rfl, hvar, h⟩ | ⟨hident, h⟩ := statementPhrase_iff.mp h
    · rw [List.cons_append, statement_var hvar]
      exact fits_assignment.completes rest h trivial
    · rw [statement_of_identifier (nextKind_append hident rest)]
      exact fits_call.completes rest h trivial
  fitsAt ts := by
    have hmet : ∀ xs, Expected .statement xs → ∃ vs, Whole (StatementPhrase exactly) (xs ++ vs) :=
      fun xs hxs => append_nil_of hxs
    cases ts with
    | nil => exact .of_stop_nil statement_nil nofun hmet
    | cons t rest =>
      by_cases hvar : t.kind = .keyword .var
      · exact .cons (statement_var hvar) (fits_assignment.fitsAt rest)
          (statementPhrase_of_assignment hvar) (Whole.mono (statementPhrase_of_assignment hvar))
      by_cases hident : t.kind = .identifier
      · have hcall := (fits_call.fitsAt (t :: rest)).mono statementPhrase_of_call
          (Whole.mono statementPhrase_of_call) fun _ h => h
        exact hcall.congr fun us hus => statement_of_identifier (hus.trans (congrArg some hident))
      · exact .of_stop_cons (fun t' rest' hkind => statement_other (hkind ▸ hvar) (hkind ▸ hident)
          rest') nofun hmet
  occurs := by
    obtain ⟨us, st, h⟩ := fits_call.occurs
    exact ⟨us, st, statementPhrase_of_call h⟩

/-! ## scripts -/

def AtBrace (k : Option Token.Kind) : Prop := k = none ∨ k = some (.symbol '\x7d')

theorem repeats_statements : Repeats (reader statement) (reader statements) AtBrace where
  stops ts h := by
    cases ts with
    | nil => exact statements_nil
    | cons t rest =>
      obtain h | h := h
      · cases h
      · exact statements_brace (Option.some.inj h) rest
  goesOn ts h := by
    cases ts with
    | nil => exact absurd (.inl rfl) h
    | cons t rest => exact statements_of_ne (fun h' => h (.inr (congrArg some h'))) rest

theorem starts_statement : Starts (StatementPhrase exactly) (fun _ => True) AtBrace where
  ne_nil h := by
    cases h with
    | assign => exact List.cons_ne_nil _ _
    | call => exact List.cons_ne_nil _ _
  not_stop rest h := by
    have hnext {k : Token.Kind} (hk : k ≠ .symbol '\x7d') : ¬ AtBrace (some k) := by
      intro h
      obtain h | h := h
      · cases h
      · exact hk (Option.some.inj h)
    cases h with
    | assign hvar =>
      show ¬ AtBrace (some _)
      rw [hvar]
      exact hnext Token.Kind.noConfusion
    | call hname =>
      show ¬ AtBrace (some _)
      rw [hname]
      exact hnext Token.Kind.noConfusion
  follows _ _ := trivial

theorem fits_statements :
    Fits (reader statements) (Repeated (StatementPhrase exactly)) fun _ => AtBrace where
  completes := by
    intro us sts rest h hrest
    exact repeats_statements.completes fits_statement.completes starts_statement rest h
      ⟨trivial, hrest⟩
  fitsAt ts := (repeats_statements.fitsAt fits_statement starts_statement trivial).mono id id
    fun _ h => h.2
  occurs := ⟨[], [], .nil⟩

def Braced : Phrase Script :=
  Then (One (.keyword .function)) fun _ => Then Name fun name => Then (One (.symbol '(')) fun _ =>
    Then (One (.symbol ')')) fun _ => Then (One (.symbol '\x7b')) fun _ =>
      Then (Repeated (StatementPhrase exactly)) fun body => Then (One (.symbol '\x7d')) fun _ =>
        Nothing ⟨name, body⟩

theorem braced_iff {us : List Token} {s : Script} : Braced us s ↔ ScriptPhrase exactly us s := by
  constructor
  · intro h
    obtain ⟨function, _, rfl, hfunction, h⟩ := then_one_iff.mp h
    obtain ⟨name, _, rfl, hname, h⟩ := then_name_iff.mp h
    obtain ⟨opening, _, rfl, hopening, h⟩ := then_one_iff.mp h
    obtain ⟨closing, _, rfl, hclosing, h⟩ := then_one_iff.mp h
    obtain ⟨brace, _, rfl, hbrace, h⟩ := then_one_iff.mp h
    obtain ⟨ts, _, body, rfl, hbody, h⟩ := h
    obtain ⟨last, -, rfl, hlast, rfl, rfl⟩ := then_one_iff.mp h
    exact .mk hfunction hname hopening hclosing hbrace hbody hlast
  · intro h
    obtain ⟨hfunction, hname, hopening, hclosing, hbrace, hbody, hlast⟩ := h
    refine then_one_iff.mpr ⟨_, _, rfl, hfunction, ?_⟩
    refine then_name_iff.mpr ⟨_, _, rfl, hname, ?_⟩
    refine then_one_iff.mpr ⟨_, _, rfl, hopening, ?_⟩
    refine then_one_iff.mpr ⟨_, _, rfl, hclosing, ?_⟩
    refine then_one_iff.mpr ⟨_, _, rfl, hbrace, _, _, _, rfl, hbody, ?_⟩
    exact then_one_iff.mpr ⟨_, [], rfl, hlast, rfl, rfl⟩

theorem fits_braced : Fits braced Braced anything := by
  refine (Fits.keyword .function).andThen (fun _ => ?_) fun _ _ => trivial
  refine Fits.ident.andThen (fun name => ?_) fun _ _ => trivial
  refine (Fits.symbol '(').andThen (fun _ => ?_) fun _ _ => trivial
  refine (Fits.symbol ')').andThen (fun _ => ?_) fun _ _ => trivial
  refine (Fits.symbol '\x7b').andThen (fun _ => ?_) fun _ _ => trivial
  refine fits_statements.andThen (fun body => ?_) fun h _ => .inr (nextKind_of_one h)
  exact (Fits.symbol '\x7d').andThen (fun _ => .done _) fun _ _ => trivial

end Scriptlet.Parser
