import Scriptlet.Proofs.Script.Expressions
import Scriptlet.Proofs.Script.Twins

/-!
# Spanless reading: the spans of tokens decide nothing

Tokens that are twins one by one are read as twins: what is read differs in spans only, and where
the reading stops, it does so with one complaint and with as many tokens left.

* `Reader.Twins`     a reader, or two of them, for which this holds;
* `twins_rule`       the rules of expressions, by induction on the number of tokens;
* `twin_script`      scripts.
-/

namespace Scriptlet

open Grammar

namespace Parser

variable {R : Span → Span → Prop}

section

variable (R : Span → Span → Prop)

abbrev TokenTwins : List Token → List Token → Prop := List.Forall₂ (Token.Twin R)

structure Stop.Twin (s s' : Stop) : Prop where
  complaint : s.complaint = s'.complaint
  rest : TokenTwins R s.rest s'.rest

/-- what is read from twins, as `A` says, with twins left -/
abbrev ReadTwins {α : Type} (A : α → α → Prop) :
    Except Stop (α × List Token) → Except Stop (α × List Token) → Prop :=
  Both (Stop.Twin R) fun p q => A p.1 q.1 ∧ TokenTwins R p.2 q.2

def Reader.Twins {α : Type} (A : α → α → Prop) (p q : Reader α) : Prop :=
  ∀ ts us : List Token, TokenTwins R ts us → ReadTwins R A (p ts) (q us)

end

variable {α β : Type} {A : α → α → Prop} {B : β → β → Prop} {ts us : List Token}

theorem readTwins_stop {complaint : Complaint} (h : TokenTwins R ts us) :
    ReadTwins R A (.error ⟨complaint, ts⟩) (.error ⟨complaint, us⟩) := .error ⟨rfl, h⟩

/-- One reader after another; the second one has to agree on what the first one leaves. -/
theorem ReadTwins.andThen {p p' : Reader α} {q q' : α → Reader β}
    (hp : ReadTwins R A (p ts) (p' us))
    (hq : ∀ {a a' rest rest'}, p ts = .ok (a, rest) → A a a' → TokenTwins R rest rest' →
      ReadTwins R B (q a rest) (q' a' rest')) :
    ReadTwins R B (p.andThen q ts) (p'.andThen q' us) := by
  unfold Reader.andThen
  generalize p ts = x at hp hq
  generalize p' us = y at hp
  cases hp with
  | ok h => exact hq rfl h.1 h.2
  | error h => exact .error h

namespace Reader

theorem Twins.andThen {p p' : Reader α} {q q' : α → Reader β} (hp : Twins R A p p')
    (hq : ∀ {a a'}, A a a' → Twins R B (q a) (q' a')) :
    Twins R B (p.andThen q) (p'.andThen q') :=
  fun ts us h => ReadTwins.andThen (hp ts us h) fun _ ha hrest => hq ha _ _ hrest

theorem Twins.done {a a' : α} (h : A a a') : Twins R A (Reader.done a) (Reader.done a') :=
  fun _ _ hts => .ok ⟨h, hts⟩

end Reader

open Reader

/-! ## single tokens -/

theorem twins_take (kind : Token.Kind) (what : Expectation) :
    Twins R (Token.Twin R) (reader (take kind what)) (reader (take kind what)) := by
  intro ts us h
  cases h with
  | nil => exact readTwins_stop .nil
  | @cons t u ts us htu hrest =>
    by_cases hkind : t.kind = kind
    · rw [take_cons_of_eq hkind, take_cons_of_eq (htu.kind ▸ hkind)]
      exact .ok ⟨htu, hrest⟩
    · rw [take_cons_of_ne hkind, take_cons_of_ne (htu.kind ▸ hkind)]
      exact readTwins_stop (.cons htu hrest)

theorem twins_symbol (c : Char) : Twins R (Token.Twin R) (reader (symbol c)) (reader (symbol c)) :=
  twins_take (.symbol c) (.symbol c)

theorem twins_ident : Twins R (Ident.Twin R) (reader ident) (reader ident) := by
  intro ts us h
  rw [ident_eq, ident_eq]
  exact (twins_take .identifier .identifier).andThen (fun ht => .done ⟨ht.text, ht.span⟩) ts us h

theorem operator?_eq_of_kind (level : Operator.Level) {t u : Token} (h : t.kind = u.kind) :
    operator? level t = operator? level u := by
  unfold operator?
  rw [h]

theorem nextKind_eq_of_twins (h : TokenTwins R ts us) : nextKind ts = nextKind us := by
  cases h with
  | nil => rfl
  | cons htu _ => exact congrArg some htu.kind

/-- What a function of the parser leaves is within its bound. -/
theorem length_of_reader {bound : List Token → Nat} {f : (ts : List Token) → Result α (bound ts)}
    {a : α} {rest : List Token} (h : reader f ts = .ok (a, rest)) : rest.length < bound ts := by
  unfold reader at h
  cases hf : f ts with
  | error s =>
    rw [hf] at h
    cases h
  | ok p =>
    rw [hf] at h
    cases h
    exact p.rest_lt

/-! ## expressions -/

abbrev RuleTwinsAt (R : Span → Span → Prop) (r : Rule) (ts : List Token) : Prop :=
  ∀ us, TokenTwins R ts us → ReadTwins R (Expr.Twin R) (ruleReader r ts) (ruleReader r us)

theorem twin_factor (h : ∀ xs, xs.length < ts.length → RuleTwinsAt R .expr xs) :
    RuleTwinsAt R .factor ts := by
  intro us hts
  show ReadTwins R (Expr.Twin R) (reader factor ts) (reader factor us)
  cases hts with
  | nil =>
    rw [factor_nil]
    exact readTwins_stop .nil
  | @cons t u ts us htu hrest =>
    by_cases hnumber : t.kind = .number
    · rw [factor_number hnumber, factor_number (htu.kind ▸ hnumber), ← htu.text]
      cases Number.ofText? t.text with
      | none => exact readTwins_stop (.cons htu hrest)
      | some v => exact .ok ⟨.number v _ _, hrest⟩
    by_cases hident : t.kind = .identifier
    · rw [factor_identifier hident, factor_identifier (htu.kind ▸ hident)]
      exact .ok ⟨.var ⟨htu.text, htu.span⟩ _ _, hrest⟩
    by_cases hgroup : t.kind = .symbol '('
    · rw [factor_group hgroup, factor_group (htu.kind ▸ hgroup)]
      refine ReadTwins.andThen (h ts (Nat.lt_succ_self _) us hrest) fun _ he hrest => ?_
      exact (twins_symbol ')').andThen (fun _ => .done (he.withSpan _ _)) _ _ hrest
    · rw [factor_other hnumber hident hgroup, factor_other (htu.kind ▸ hnumber)
        (htu.kind ▸ hident) (htu.kind ▸ hgroup)]
      exact readTwins_stop (.cons htu hrest)

theorem twin_links {level : Operator.Level}
    (h : ∀ xs, xs.length < ts.length → RuleTwinsAt R (.operand level) xs) {acc acc' : Expr}
    (hacc : acc.Twin R acc') (hts : TokenTwins R ts us) :
    ReadTwins R (Expr.Twin R) (links level acc ts) (links level acc' us) := by
  induction hlen : ts.length using Nat.strongRecOn generalizing ts us acc acc' with
  | ind len ih =>
    cases hts with
    | nil =>
      rw [links_nil, links_nil]
      exact .ok ⟨hacc, .nil⟩
    | @cons t u ts us htu hrest =>
      have hu := operator?_eq_of_kind level htu.kind
      cases hop : operator? level t with
      | none =>
        rw [links_of_none hop, links_of_none (hu ▸ hop)]
        exact .ok ⟨hacc, .cons htu hrest⟩
      | some op =>
        rw [links_of_some hop, links_of_some (hu ▸ hop)]
        have hoperand := h ts (Nat.lt_succ_self _) us hrest
        rw [ruleReader_operand] at hoperand
        refine ReadTwins.andThen hoperand fun {e e' rest rest'} hread he hrest => ?_
        have hshort := length_of_reader hread
        rw [List.length_cons] at hlen
        refine ih rest.length (by omega) (fun xs hxs => h xs ?_) (hacc.join op he) hrest rfl
        rw [List.length_cons]
        omega

theorem twin_chain {level : Operator.Level}
    (h : ∀ xs, xs.length < ts.length → RuleTwinsAt R (.operand level) xs)
    (hts : RuleTwinsAt R (.operand level) ts) : RuleTwinsAt R (.chain level) ts := by
  intro us hus
  rw [ruleReader_chain]
  refine ReadTwins.andThen (hts us hus) fun {e e' rest rest'} hread he hrest => ?_
  rw [ruleReader_operand] at hread
  have hshort := length_of_reader hread
  exact twin_links (fun xs hxs => h xs (by omega)) he hrest

/-- **Whatever the rule, twins are read as twins.** -/
theorem twins_rule (r : Rule) (ts : List Token) : RuleTwinsAt R r ts := by
  induction hlen : ts.length using Nat.strongRecOn generalizing r ts with
  | ind len ih =>
    -- Parentheses and links leave fewer tokens; the first operand of a chain does not, so the levels
    -- come one after the other.
    have hshorter (r : Rule) : ∀ xs, xs.length < ts.length → RuleTwinsAt R r xs := fun xs hxs =>
      ih xs.length (hlen ▸ hxs) r xs rfl
    have hfactor : RuleTwinsAt R .factor ts := twin_factor (hshorter _)
    have hterm : RuleTwinsAt R (.chain .multiplicative) ts := twin_chain (hshorter _) hfactor
    match r with
    | .factor => exact hfactor
    | .chain .multiplicative => exact hterm
    | .chain .additive => exact twin_chain (hshorter _) hterm

theorem twins_expr : Twins R (Expr.Twin R) (reader expr) (reader expr) :=
  fun ts us h => twins_rule .expr ts us h

/-! ## statements -/

theorem twins_more {p : Reader α} {many : Reader (List α)}
    (hp : Twins R A p p)
    (hmany : ∀ {a rest rest'}, p ts = .ok (a, rest) → TokenTwins R rest rest' →
      ReadTwins R (List.Forall₂ A) (many rest) (many rest')) (hts : TokenTwins R ts us) :
    ReadTwins R (List.Forall₂ A)
      (p.andThen (fun a => many.andThen fun as => .done (a :: as)) ts)
      (p.andThen (fun a => many.andThen fun as => .done (a :: as)) us) := by
  refine ReadTwins.andThen (hp ts us hts) fun hread ha hrest => ?_
  exact ReadTwins.andThen (hmany hread hrest) fun _ has hrest => .ok ⟨.cons ha has, hrest⟩

theorem twins_moreArgs :
    Twins R (List.Forall₂ (Expr.Twin R)) (reader moreArgs) (reader moreArgs) := by
  intro ts us hts
  induction hlen : ts.length using Nat.strongRecOn generalizing ts us with
  | ind len ih =>
    cases hts with
    | nil =>
      rw [moreArgs_nil]
      exact .ok ⟨.nil, .nil⟩
    | @cons t u ts us htu hrest =>
      by_cases hcomma : t.kind = .symbol ','
      · rw [moreArgs_comma hcomma, moreArgs_comma (htu.kind ▸ hcomma)]
        refine twins_more twins_expr (fun {e rest rest'} hread hrest => ?_) hrest
        have hshort := length_of_reader hread
        rw [List.length_cons] at hlen
        exact ih rest.length (by omega) rest rest' hrest rfl
      · rw [moreArgs_of_ne hcomma, moreArgs_of_ne (htu.kind ▸ hcomma)]
        exact .ok ⟨.nil, .cons htu hrest⟩

theorem twins_args : Twins R (List.Forall₂ (Expr.Twin R)) (reader args) (reader args) := by
  intro ts us hts
  have hnext : ts.head?.map Token.kind = us.head?.map Token.kind := nextKind_eq_of_twins hts
  by_cases hclose : ts.head?.map Token.kind = some (.symbol ')')
  · rw [args_close hclose, args_close (hnext ▸ hclose)]
    exact .ok ⟨.nil, hts⟩
  · rw [args_of_ne hclose, args_of_ne (hnext ▸ hclose)]
    exact twins_more twins_expr (fun _ hrest => twins_moreArgs _ _ hrest) hts

theorem twins_assignment :
    Twins R (Statement.Twin R) (reader assignment) (reader assignment) := by
  intro ts us hts
  rw [assignment_eq, assignment_eq]
  exact twins_ident.andThen (fun hx => (twins_symbol '=').andThen fun _ =>
    twins_expr.andThen fun he => (twins_symbol ';').andThen fun _ =>
      .done (.assign hx he)) ts us hts

theorem twins_call : Twins R (Statement.Twin R) (reader call) (reader call) := by
  intro ts us hts
  rw [call_eq, call_eq]
  exact twins_ident.andThen (fun hf => (twins_symbol '(').andThen fun _ =>
    twins_args.andThen fun hargs => (twins_symbol ')').andThen fun _ =>
      (twins_symbol ';').andThen fun _ => .done (.call hf hargs)) ts us hts

theorem twins_statement : Twins R (Statement.Twin R) (reader statement) (reader statement) := by
  intro ts us hts
  cases hts with
  | nil => exact readTwins_stop .nil
  | @cons t u ts us htu hrest =>
    by_cases hvar : t.kind = .keyword .var
    · rw [statement_var hvar, statement_var (htu.kind ▸ hvar)]
      exact twins_assignment ts us hrest
    by_cases hident : t.kind = .identifier
    · rw [statement_identifier hident, statement_identifier (htu.kind ▸ hident)]
      exact twins_call _ _ (.cons htu hrest)
    · rw [statement_other hvar hident, statement_other (htu.kind ▸ hvar) (htu.kind ▸ hident)]
      exact readTwins_stop (.cons htu hrest)

theorem twins_statements :
    Twins R (List.Forall₂ (Statement.Twin R)) (reader statements) (reader statements) := by
  intro ts us hts
  induction hlen : ts.length using Nat.strongRecOn generalizing ts us with
  | ind len ih =>
    cases hts with
    | nil =>
      rw [statements_nil]
      exact .ok ⟨.nil, .nil⟩
    | @cons t u ts us htu hrest =>
      by_cases hbrace : t.kind = .symbol '\x7d'
      · rw [statements_brace hbrace, statements_brace (htu.kind ▸ hbrace)]
        exact .ok ⟨.nil, .cons htu hrest⟩
      · rw [statements_of_ne hbrace, statements_of_ne (htu.kind ▸ hbrace)]
        refine twins_more twins_statement (fun {st rest rest'} hread hrest => ?_) (.cons htu hrest)
        have hshort := length_of_reader hread
        exact ih rest.length (by omega) rest rest' hrest rfl

/-! ## scripts -/

theorem twins_braced : Twins R (Script.Twin R) braced braced :=
  (twins_take _ _).andThen fun _ => twins_ident.andThen fun hname =>
    (twins_symbol '(').andThen fun _ => (twins_symbol ')').andThen fun _ =>
      (twins_symbol '\x7b').andThen fun _ => twins_statements.andThen fun hbody =>
        (twins_symbol '\x7d').andThen fun _ => .done ⟨hname, hbody⟩

/-- **Twins are read as scripts that are twins, or neither of them is a script, for one reason and
with as many tokens left.** -/
theorem twin_script (hts : TokenTwins R ts us) :
    Both (Stop.Twin R) (Script.Twin R) (script ts) (script us) := by
  have hbraced : ReadTwins R (Script.Twin R) (braced ts) (braced us) := twins_braced ts us hts
  rw [script_eq, script_eq]
  generalize braced ts = x at hbraced
  generalize braced us = y at hbraced
  cases hbraced with
  | error h => exact .error h
  | @ok p q h =>
    obtain ⟨s, rest⟩ := p
    obtain ⟨s', rest'⟩ := q
    obtain ⟨hs, hrest⟩ := h
    cases hrest with
    | nil => exact .ok hs
    | cons htu hrest => exact .error ⟨rfl, .cons htu hrest⟩

end Parser

end Scriptlet
