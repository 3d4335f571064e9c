import Scriptlet.Proofs.Script.Fit

/-!
# Expressions: the parser fits the rules of expressions

* `completes_rule`  every phrase of a rule is read as what it stands for, if no operator of the rule
                    comes next; by induction on the phrase;
* `fitsAt_rule`     what is read is a phrase, and where the reading stops any expression may stand;
                    by induction on the number of tokens;
* `fits_expr`       both, for expressions.
-/

namespace Scriptlet.Parser

open Grammar

/-! ## operators -/

theorem operator?_eq_some_iff {level : Operator.Level} {t : Token} {op : Operator} :
    operator? level t = some op ↔ t.kind = .symbol op.symbol ∧ op.level = level := by
  unfold operator?
  split
  · rename_i c hc
    rw [Option.filter_eq_some_iff, Operator.ofSymbol?_eq_some_iff, decide_eq_true_iff, hc,
      Token.Kind.symbol.injEq]
  · rename_i hne
    constructor
    · exact fun h => by cases h
    · exact fun h => absurd h.1 (hne _)

theorem symbol_injective {op op' : Operator} (h : op.symbol = op'.symbol) : op = op' := by
  have hop := Operator.ofSymbol?_symbol op
  rw [h, Operator.ofSymbol?_symbol] at hop
  exact (Option.some.inj hop).symm

def NoOperator (level : Operator.Level) (k : Option Token.Kind) : Prop :=
  ∀ op : Operator, op.level = level → k ≠ some (.symbol op.symbol)

theorem noOperator_of_none {level : Operator.Level} {t : Token} (h : operator? level t = none) :
    NoOperator level (some t.kind) := by
  intro op hop hk
  rw [operator?_eq_some_iff.mpr ⟨Option.some.inj hk, hop⟩] at h
  cases h

theorem operator?_of_noOperator {level : Operator.Level} {t : Token}
    (h : NoOperator level (some t.kind)) : operator? level t = none := by
  cases hop : operator? level t with
  | none => rfl
  | some op =>
    obtain ⟨hk, hlevel⟩ := operator?_eq_some_iff.mp hop
    exact absurd (congrArg some hk) (h op hlevel)

/-! ## rules -/

def ruleReader : Rule → Reader Expr
  | .factor => reader factor
  | .chain level => reader (chainOf level)

theorem ruleReader_operand (level : Operator.Level) :
    ruleReader (.operand level) = reader (operand level) := by
  cases level with
  | additive => exact funext fun ts => (operand_additive ts).symm
  | multiplicative => exact funext fun ts => (operand_multiplicative ts).symm

theorem ruleReader_chain (level : Operator.Level) :
    ruleReader (.chain level) = (ruleReader (.operand level)).andThen (links level) := by
  rw [ruleReader_operand]
  exact funext (chainOf_eq level)

/-- A factor ends where it ends; a chain goes on for as long as there are operators. -/
def ends : Rule → Option Token.Kind → Prop
  | .factor, _ => True
  | .chain .multiplicative, k => NoOperator .multiplicative k
  | .chain .additive, k => NoOperator .multiplicative k ∧ NoOperator .additive k

theorem ends_chain_iff {level : Operator.Level} {k : Option Token.Kind} :
    ends (.chain level) k ↔ ends (.operand level) k ∧ NoOperator level k := by
  cases level with
  | additive => exact Iff.rfl
  | multiplicative => exact ⟨fun h => ⟨trivial, h⟩, And.right⟩

/-- An operator ends the operand before it. -/
theorem ends_operand_of_symbol {level : Operator.Level} {op : Operator} (hop : op.level = level) :
    ends (.operand level) (some (.symbol op.symbol)) := by
  cases level with
  | multiplicative => trivial
  | additive =>
    intro op' hop' h
    have hsymbol : op.symbol = op'.symbol := Token.Kind.symbol.inj (Option.some.inj h)
    rw [symbol_injective hsymbol, hop'] at hop
    cases hop

theorem ends_of_symbol {c : Char} (hc : Operator.ofSymbol? c = none) (r : Rule) :
    ends r (some (.symbol c)) := by
  have hno (level : Operator.Level) : NoOperator level (some (.symbol c)) := by
    intro op _ h
    rw [Token.Kind.symbol.inj (Option.some.inj h), Operator.ofSymbol?_symbol] at hc
    cases hc
  match r with
  | .factor => trivial
  | .chain .multiplicative => exact hno _
  | .chain .additive => exact ⟨hno _, hno _⟩

/-! ## phrases are read -/

theorem ends_operand_of_links {level : Operator.Level} {ls : List Link}
    (hsigns : ∀ l ∈ ls, l.Signed level) {rest : List Token}
    (hend : ends (.chain level) (nextKind rest)) :
    ends (.operand level) (nextKind (ls.flatMap Link.all ++ rest)) := by
  cases ls with
  | nil => exact (ends_chain_iff.mp hend).1
  | cons l ls =>
    obtain ⟨hsign, hlevel⟩ := Link.signed_iff.mp (hsigns l List.mem_cons_self)
    show ends (.operand level) (some l.sign.kind)
    rw [hsign]
    exact ends_operand_of_symbol hlevel

theorem links_append {level : Operator.Level} {ls : List Link} (hsigns : ∀ l ∈ ls, l.Signed level)
    (hread : ∀ l ∈ ls, ∀ rest, ends (.operand level) (nextKind rest) →
      ruleReader (.operand level) (l.tokens ++ rest) = .ok (l.operand, rest))
    {rest : List Token} (hend : ends (.chain level) (nextKind rest)) (acc : Expr) :
    links level acc (ls.flatMap Link.all ++ rest) = .ok (ls.foldl Link.onto acc, rest) := by
  induction ls generalizing acc with
  | nil =>
    cases rest with
    | nil => exact links_nil level acc
    | cons t rest =>
      have hnone : operator? level t = none := operator?_of_noOperator (ends_chain_iff.mp hend).2
      exact links_of_none hnone acc rest
  | cons l ls ih =>
    have hsigns' : ∀ l ∈ ls, l.Signed level := fun l' hl' => hsigns l' (List.mem_cons_of_mem _ hl')
    have hop : operator? level l.sign = some l.op :=
      operator?_eq_some_iff.mpr (Link.signed_iff.mp (hsigns l List.mem_cons_self))
    have hl := hread l List.mem_cons_self (ls.flatMap Link.all ++ rest)
      (ends_operand_of_links hsigns' hend)
    rw [ruleReader_operand] at hl
    rw [List.flatMap_cons, List.append_assoc]
    show links level acc (l.sign :: (l.tokens ++ (ls.flatMap Link.all ++ rest))) = _
    rw [links_of_some hop, Reader.andThen_of_ok hl]
    exact ih hsigns' (fun l' hl' => hread l' (List.mem_cons_of_mem _ hl')) _

/-- **Every phrase of a rule is read as what it stands for.** -/
theorem completes_rule (r : Rule) :
    Completes (ruleReader r) (ExprPhrase exactly r) (fun _ => ends r) := by
  intro us e rest h hend
  induction h generalizing rest with
  | @number t v ht hv =>
    have hv : Number.ofText? t.text = some v := hv
    show reader factor (t :: rest) = _
    rw [factor_number ht, hv]
  | var ht => exact factor_identifier ht rest
  | @group opening closing ts e hopening he hclosing ih =>
    have hclose : ends .expr (nextKind (closing :: rest)) := by
      rw [nextKind_cons, hclosing]
      exact ends_of_symbol rfl _
    have hexpr : reader expr (ts ++ (closing :: rest)) = .ok (e, closing :: rest) := ih _ hclose
    show reader factor (opening :: ((ts ++ [closing]) ++ rest)) = _
    rw [factor_group hopening, List.append_assoc, List.singleton_append, Reader.andThen_of_ok hexpr,
      Reader.andThen_of_ok (symbol_cons hclosing rest)]
    rfl
  | @chain level ts e ls he hsigns hlinks ih ihlinks =>
    have hfirst := ih (ls.flatMap Link.all ++ rest) (ends_operand_of_links hsigns hend)
    rw [ruleReader_chain, List.append_assoc, Reader.andThen_of_ok hfirst]
    exact links_append hsigns ihlinks hend e

/-! ## what is read is a phrase -/

def IsExpr : List Token → Prop := Whole (ExprPhrase exactly .expr)

theorem isExpr_of_factor {us : List Token} {e : Expr} (h : ExprPhrase exactly .factor us e) :
    IsExpr us := ⟨e, h.expr_of_factor⟩

/-- An operand and an operator in front of an expression are an expression again, whatever the
operator binds. -/
theorem isExpr_prepend {level : Operator.Level} {us ws : List Token} {a : Expr} {sign : Token}
    {op : Operator} (ha : ExprPhrase exactly (.operand level) us a)
    (hsign : sign.kind = .symbol op.symbol) (hop : op.level = level) (hw : IsExpr ws) :
    IsExpr (us ++ sign :: ws) := by
  obtain ⟨e, he⟩ := hw
  have hsigned (ts : List Token) (e : Expr) : Link.Signed level ⟨op, sign, ts, e⟩ :=
    Link.signed_iff.mpr ⟨hsign, hop⟩
  cases he with
  | @chain _ ts e ls he hsigns hlinks =>
    cases level with
    | additive =>
      have h := ExprPhrase.chain (⟨op, sign, ts, e⟩ :: ls) ha
        (List.forall_mem_cons.mpr ⟨hsigned ts e, hsigns⟩) (List.forall_mem_cons.mpr ⟨he, hlinks⟩)
      exact ⟨_, h⟩
    | multiplicative =>
      cases he with
      | @chain _ ts' e' ls' he' hsigns' hlinks' =>
        have h := ExprPhrase.chain (⟨op, sign, ts', e'⟩ :: ls') ha
          (List.forall_mem_cons.mpr ⟨hsigned ts' e', hsigns'⟩)
          (List.forall_mem_cons.mpr ⟨he', hlinks'⟩)
        have h' := ExprPhrase.chain ls (show ExprPhrase _ (.operand .additive) _ _ from h) hsigns
          hlinks
        rw [List.append_assoc] at h'
        exact ⟨_, h'⟩

/-- The links of a chain, by what comes before them. -/
def LinksPhrase (level : Operator.Level) (acc : Expr) : Phrase Expr := fun us e =>
  ∃ ls : List Link, us = ls.flatMap Link.all ∧ e = ls.foldl Link.onto acc ∧
    (∀ l ∈ ls, l.Signed level) ∧ ∀ l ∈ ls, ExprPhrase exactly (.operand level) l.tokens l.operand

theorem linksPhrase_nil (level : Operator.Level) (acc : Expr) : LinksPhrase level acc [] acc :=
  ⟨[], rfl, rfl, by simp, by simp⟩

theorem linksPhrase_cons {level : Operator.Level} {acc e : Expr} {op : Operator} {sign : Token}
    {us : List Token} (hsign : sign.kind = .symbol op.symbol) (hop : op.level = level)
    (h : Then (ExprPhrase exactly (.operand level)) (fun a => LinksPhrase level (acc.join op a))
      us e) : LinksPhrase level acc (sign :: us) e := by
  obtain ⟨xs, ys, a, rfl, ha, ls, rfl, rfl, hsigns, hlinks⟩ := h
  have hsigned : Link.Signed level ⟨op, sign, xs, a⟩ := Link.signed_iff.mpr ⟨hsign, hop⟩
  exact ⟨⟨op, sign, xs, a⟩ :: ls, rfl, rfl, List.forall_mem_cons.mpr ⟨hsigned, hsigns⟩,
    List.forall_mem_cons.mpr ⟨ha, hlinks⟩⟩

/-- After an operand of the level, the tokens make up an expression with it. -/
def IsTail (level : Operator.Level) (vs : List Token) : Prop :=
  ∀ {us : List Token} {a : Expr}, ExprPhrase exactly (.operand level) us a → IsExpr (us ++ vs)

abbrev RuleFitsAt (r : Rule) (ts : List Token) : Prop :=
  FitsAt (ruleReader r) (ExprPhrase exactly r) IsExpr (fun _ => ends r) ts

theorem fitsAt_links {level : Operator.Level} {ts : List Token}
    (h : ∀ us, us.length < ts.length → RuleFitsAt (.operand level) us)
    (hnext : ends (.operand level) (nextKind ts)) (acc : Expr) :
    FitsAt (links level acc) (LinksPhrase level acc) (IsTail level) (fun _ => ends (.chain level))
      ts := by
  induction hlen : ts.length using Nat.strongRecOn generalizing ts acc with
  | ind len ih =>
    cases ts with
    | nil =>
      refine .of_ok [] (links_nil level acc) (linksPhrase_nil level acc) ?_
      exact ends_chain_iff.mpr ⟨hnext, fun _ _ h' => by cases h'⟩
    | cons t rest =>
      cases hop : operator? level t with
      | none =>
        refine .of_ok [] (links_of_none hop acc rest) (linksPhrase_nil level acc) ?_
        exact ends_chain_iff.mpr ⟨hnext, noOperator_of_none hop⟩
      | some op =>
        obtain ⟨hsign, hlevel⟩ := operator?_eq_some_iff.mp hop
        have hrest := FitsAt.andThen (q := fun a => links level (acc.join op a)) (C := IsExpr)
          (B := fun _ => IsTail level)
          (completes_rule (.operand level)) (h rest (Nat.lt_succ_self _))
          (fun {us a rest'} hrest _ hF => by
            rw [List.length_cons, hrest, List.length_append] at hlen
            refine ih rest'.length (by omega) (fun us' hus' => h us' ?_) hF (acc.join op a) rfl
            rw [List.length_cons, hrest, List.length_append]
            omega)
          append_nil_of (fun hD hC => hC hD)
        refine .cons (fun us => ?_) hrest (linksPhrase_cons hsign hlevel)
          (fun hus _ _ ha => isExpr_prepend ha hsign hlevel hus)
        rw [ruleReader_operand]
        exact links_of_some hop acc us

theorem fitsAt_chain {level : Operator.Level} {ts : List Token}
    (h : ∀ us, us.length < ts.length → RuleFitsAt (.operand level) us)
    (hts : RuleFitsAt (.operand level) ts) : RuleFitsAt (.chain level) ts := by
  have hchain := FitsAt.andThen (q := links level) (C := IsExpr) (B := fun _ => IsTail level)
    (completes_rule (.operand level)) hts
    (fun {us a rest} hrest _ hF => fitsAt_links (fun us' hus' => h us' (by
      rw [hrest, List.length_append]
      omega)) hF a)
    append_nil_of (fun hD hC => hC hD)
  rw [RuleFitsAt, ruleReader_chain]
  refine hchain.mono ?_ id fun _ h' => h'
  intro us e h
  obtain ⟨xs, ys, a, rfl, ha, ls, rfl, rfl, hsigns, hlinks⟩ := h
  exact .chain ls ha hsigns hlinks

def Closing (opening : Token) (e : Expr) : Phrase Expr :=
  Then (One (.symbol ')')) fun closing => Nothing (e.withSpan (opening.span.union closing.span))

def Closed (opening : Token) : Phrase Expr := Then (ExprPhrase exactly .expr) (Closing opening)

theorem group_of_closed {opening : Token} (hopening : opening.kind = .symbol '(')
    {us : List Token} {e : Expr} (h : Closed opening us e) :
    ExprPhrase exactly .factor (opening :: us) e := by
  obtain ⟨xs, _, a, rfl, ha, h⟩ := h
  obtain ⟨closing, -, rfl, hclosing, rfl, rfl⟩ := then_one_iff.mp h
  exact .group hopening ha hclosing

theorem fitsAt_factor {ts : List Token} (h : ∀ us, us.length < ts.length → RuleFitsAt .expr us) :
    RuleFitsAt .factor ts := by
  have hmet : ∀ xs, IsExpr xs → ∃ vs, IsExpr (xs ++ vs) := fun _ => append_nil_of
  cases ts with
  | nil => exact .of_stop_nil factor_nil nofun hmet
  | cons t rest =>
    by_cases hnumber : t.kind = .number
    · cases hv : Number.ofText? t.text with
      | none =>
        have hstop (t' : Token) (rest' : List Token) (hkind : t'.kind = t.kind)
            (htext : t'.text = t.text) :
            reader factor (t' :: rest') = .error ⟨.invalidNumber, t' :: rest'⟩ := by
          rw [factor_number (hkind.trans hnumber), htext, hv]
        refine .of_stop (hstop t rest rfl rfl) ⟨fun _ => ⟨t, rest, rfl, hnumber, hv⟩, nofun⟩ ?_ ?_
        · intro xs h
          obtain ⟨num, rfl, hkind, hread⟩ := h
          obtain ⟨v, hv⟩ := Option.isSome_iff_exists.mp hread
          exact hmet _ (isExpr_of_factor (.number hkind hv))
        · intro ts' h
          obtain ⟨u, us, t', rest', hts, rfl, hkind, htext⟩ := h
          cases hts
          exact hstop t' rest' hkind (htext rfl)
      | some v =>
        refine .of_ok [t] ?_ (.number hnumber hv) trivial
        show reader factor (t :: rest) = _
        rw [factor_number hnumber, hv]
    by_cases hident : t.kind = .identifier
    · exact .of_ok [t] (factor_identifier hident rest) (.var hident) trivial
    by_cases hgroup : t.kind = .symbol '('
    · have hclose (e : Expr) : Fits _ (Closing t e) anything :=
        (Fits.symbol ')').andThen (fun _ => .done _) fun _ _ => trivial
      have hclosed := FitsAt.andThen (C := Whole (Closed t)) (completes_rule .expr)
        (h rest (Nat.lt_succ_self _)) (fun {_ e _} _ _ _ => (hclose e).fitsAt _)
        (Whole.then_left fun e => (hclose e).occurs) Whole.then_right
      refine .cons (factor_group hgroup) hclosed (group_of_closed hgroup) ?_
      intro us h
      obtain ⟨e, he⟩ := h
      exact isExpr_of_factor (group_of_closed hgroup he)
    · exact .of_stop_cons (fun t' rest' hkind => factor_other (hkind ▸ hnumber) (hkind ▸ hident)
        (hkind ▸ hgroup) rest') nofun hmet

/-- **What is read is a phrase, and where the reading stops any expression may stand.** -/
theorem fitsAt_rule (r : Rule) (ts : List Token) : RuleFitsAt r ts := by
  induction hlen : ts.length using Nat.strongRecOn generalizing r ts with
  | ind len ih =>
    have hshorter (r : Rule) : ∀ us, us.length < ts.length → RuleFitsAt r us := fun us hus =>
      ih us.length (hlen ▸ hus) r us rfl
    have hfactor : RuleFitsAt .factor ts := fitsAt_factor (hshorter _)
    have hterm : RuleFitsAt (.chain .multiplicative) ts := fitsAt_chain (hshorter _) hfactor
    match r with
    | .factor => exact hfactor
    | .chain .multiplicative => exact hterm
    | .chain .additive => exact fitsAt_chain (hshorter _) hterm

theorem fits_expr : Fits (reader expr) (ExprPhrase exactly .expr) fun _ => ends .expr where
  completes := completes_rule .expr
  fitsAt := fitsAt_rule .expr
  occurs := by
    have hvar : ExprPhrase exactly .factor [⟨.identifier, "", .empty 0⟩] _ := .var rfl
    exact ⟨_, isExpr_of_factor hvar⟩

end Scriptlet.Parser
