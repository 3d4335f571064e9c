import Scriptlet.Proofs.Grammar.LeftRecursion
import Scriptlet.Proofs.Script.Expressions

/-!
# The last operator: where the tokens of an expression fall in two

* `depthAfter`                        how many parentheses are open;
* `lastSplit?`, `lastSplit?_append`   the split at the last operator of a level outside parentheses;
* `ExprPhrase.lastSplit?_eq_none`     a phrase has no operator outside parentheses but those of its
                                      rule;
* `ExprPhrase.lastSplit?_join`        a chain splits where its last link begins.
-/

namespace Scriptlet

open Grammar

/-! ## parentheses -/

/-- how many parentheses are open after the token -/
def depthStep (depth : Nat) (t : Token) : Nat :=
  if t.kind = .symbol '(' then depth + 1
  else if t.kind = .symbol ')' then depth - 1
  else depth

def depthAfter (depth : Nat) (ts : List Token) : Nat := ts.foldl depthStep depth

theorem depthAfter_append (depth : Nat) (us vs : List Token) :
    depthAfter depth (us ++ vs) = depthAfter (depthAfter depth us) vs := List.foldl_append

theorem depthStep_opening {t : Token} (h : t.kind = .symbol '(') (depth : Nat) :
    depthStep depth t = depth + 1 := if_pos h

theorem depthStep_closing {t : Token} (h : t.kind = .symbol ')') (depth : Nat) :
    depthStep depth t = depth - 1 := by
  rw [depthStep, h]
  rfl

theorem depthStep_of_kind {t : Token} {k : Token.Kind} (h : t.kind = k) (hopening : k ≠ .symbol '(')
    (hclosing : k ≠ .symbol ')') (depth : Nat) : depthStep depth t = depth := by
  rw [depthStep, h, if_neg hopening, if_neg hclosing]

theorem depthStep_operator {t : Token} {op : Operator} (h : t.kind = .symbol op.symbol)
    (depth : Nat) : depthStep depth t = depth :=
  depthStep_of_kind h (by cases op <;> decide) (by cases op <;> decide) depth

/-- What a phrase opens it closes. -/
theorem Grammar.ExprPhrase.depthAfter_eq {lit : Literals} {r : Rule} {us : List Token} {e : Expr}
    (h : ExprPhrase lit r us e) (depth : Nat) : depthAfter depth us = depth := by
  induction h using ExprPhrase.leftInduction generalizing depth with
  | number ht => exact depthStep_of_kind ht nofun nofun depth
  | var ht => exact depthStep_of_kind ht nofun nofun depth
  | @group opening closing ts _ hopening _ hclosing ih =>
    calc depthAfter depth (opening :: (ts ++ [closing]))
        = depthAfter (depthStep depth opening) (ts ++ [closing]) := rfl
      _ = depthStep (depth + 1) closing := by
        rw [depthAfter_append, depthStep_opening hopening, ih]
        rfl
      _ = depth := depthStep_closing hclosing (depth + 1)
  | single _ ih => exact ih depth
  | @join _ us vs _ _ sign _ _ hsign _ _ iha ihb =>
    calc depthAfter depth (us ++ sign :: vs)
        = depthAfter (depthStep (depthAfter depth us) sign) vs := depthAfter_append depth us _
      _ = depth := by rw [ihb, depthStep_operator hsign, iha]

/-! ## the last operator -/

structure Split where
  before : List Token
  op : Operator
  after : List Token

namespace Split

def behind (us : List Token) (s : Split) : Split := { s with before := us ++ s.before }

def ahead (s : Split) (vs : List Token) : Split := { s with after := s.after ++ vs }

end Split

/-- The tokens split at the last operator of the level that is outside all parentheses, where
`depth` of them are open before the first token. -/
def lastSplit? (level : Operator.Level) : Nat → List Token → Option Split
  | _, [] => none
  | depth, t :: ts =>
    match lastSplit? level (depthStep depth t) ts with
    | some s => some (s.behind [t])
    | none => if depth = 0 then (Parser.operator? level t).map fun op => ⟨[], op, ts⟩ else none

section
variable {level : Operator.Level}

theorem lastSplit?_append (us vs : List Token) (depth : Nat) :
    lastSplit? level depth (us ++ vs)
      = ((lastSplit? level (depthAfter depth us) vs).map (Split.behind us)).or
          ((lastSplit? level depth us).map (Split.ahead · vs)) := by
  induction us generalizing depth with
  | nil =>
    show lastSplit? level depth vs = ((lastSplit? level depth vs).map (Split.behind [])).or none
    rw [Option.or_none]
    exact Option.map_id'.symm
  | cons t us ih =>
    rw [List.cons_append, lastSplit?, lastSplit?, ih]
    show _ = ((lastSplit? level (depthAfter (depthStep depth t) us) vs).map _).or _
    cases lastSplit? level (depthAfter (depthStep depth t) us) vs with
    | some s => rfl
    | none =>
      cases lastSplit? level (depthStep depth t) us with
      | some s => rfl
      | none =>
        by_cases hdepth : depth = 0
        · simp only [Option.map_none, Option.or_none, Option.none_or, if_pos hdepth, Option.map_map]
          rfl
        · simp [hdepth]

theorem eq_of_lastSplit? {ts : List Token} {depth : Nat} {s : Split}
    (h : lastSplit? level depth ts = some s) :
    ∃ sign, ts = s.before ++ sign :: s.after ∧ Parser.operator? level sign = some s.op := by
  induction ts generalizing depth s with
  | nil => cases h
  | cons t ts ih =>
    rw [lastSplit?] at h
    split at h
    · rename_i s' hs'
      cases h
      obtain ⟨sign, hts, hsign⟩ := ih hs'
      exact ⟨sign, congrArg (t :: ·) hts, hsign⟩
    · split at h
      · obtain ⟨op, hop, rfl⟩ := Option.map_eq_some_iff.mp h
        exact ⟨t, rfl, hop⟩
      · cases h

theorem Parser.operator?_of_kind {t : Token} {k : Token.Kind} (h : t.kind = k)
    (hk : ∀ op : Operator, k ≠ .symbol op.symbol) : Parser.operator? level t = none :=
  Parser.operator?_of_noOperator fun op _ ht => hk op (h.symm.trans (Option.some.inj ht))

theorem lastSplit?_singleton {t : Token} {depth : Nat}
    (h : 0 < depth ∨ Parser.operator? level t = none) : lastSplit? level depth [t] = none := by
  show (if depth = 0 then _ else none) = none
  split
  · rename_i hdepth
    rw [h.resolve_left (by omega)]
    rfl
  · rfl

theorem lastSplit?_append_none {us vs : List Token} {depth : Nat}
    (hus : lastSplit? level depth us = none)
    (hvs : lastSplit? level (depthAfter depth us) vs = none) :
    lastSplit? level depth (us ++ vs) = none := by
  rw [lastSplit?_append, hus, hvs]
  rfl

end

/-- Outside parentheses, the operators in a phrase of the rule bind tighter than those of the
level. -/
def Tighter (level : Operator.Level) : Rule → Prop
  | .factor => True
  | .chain l => l = .multiplicative ∧ level = .additive

theorem Tighter.operand {level l : Operator.Level} (h : Tighter level (.chain l)) :
    Tighter level (.operand l) := by
  rw [h.1]
  trivial

theorem tighter_operand (level : Operator.Level) : Tighter level (.operand level) := by
  cases level with
  | additive => exact ⟨rfl, rfl⟩
  | multiplicative => trivial

/-- **There is no place to split a phrase at, if its own operators bind tighter or all of it is in
parentheses.** -/
theorem Grammar.ExprPhrase.lastSplit?_eq_none {lit : Literals} {r : Rule} {us : List Token}
    {e : Expr} (h : ExprPhrase lit r us e) {level : Operator.Level} {depth : Nat}
    (hr : 0 < depth ∨ Tighter level r) : lastSplit? level depth us = none := by
  induction h using ExprPhrase.leftInduction generalizing depth with
  | number ht => exact lastSplit?_singleton (.inr (Parser.operator?_of_kind ht nofun))
  | var ht => exact lastSplit?_singleton (.inr (Parser.operator?_of_kind ht nofun))
  | @group opening closing ts _ hopening he hclosing ih =>
    have no_operator {c : Char} (hc : ∀ op : Operator, c ≠ op.symbol) {t : Token}
        (ht : t.kind = .symbol c) (depth : Nat) : lastSplit? level depth [t] = none :=
      lastSplit?_singleton (.inr (Parser.operator?_of_kind ht fun op h =>
        hc op (Token.Kind.symbol.inj h)))
    have hopens : lastSplit? level depth [opening] = none :=
      no_operator (by intro op; cases op <;> decide) hopening depth
    have hcloses : ∀ depth, lastSplit? level depth [closing] = none :=
      no_operator (by intro op; cases op <;> decide) hclosing
    have hinside : lastSplit? level (depthStep depth opening) ts = none := by
      rw [depthStep_opening hopening]
      exact ih (.inl (Nat.succ_pos depth))
    exact lastSplit?_append_none hopens (lastSplit?_append_none hinside (hcloses _))
  | single _ ih => exact ih (hr.imp_right Tighter.operand)
  | @join l us vs _ _ sign op ha hsign hop hb iha ihb =>
    have hsplit : lastSplit? level depth [sign] = none := by
      refine lastSplit?_singleton (hr.imp_right fun hl => ?_)
      -- the operator belongs to the chain, whose level is the other one
      cases hfound : Parser.operator? level sign with
      | none => rfl
      | some op' =>
        obtain ⟨hsign', hop'⟩ := Parser.operator?_eq_some_iff.mp hfound
        cases Parser.symbol_injective (Token.Kind.symbol.inj (hsign.symm.trans hsign'))
        rw [hl.1] at hop
        rw [hl.2, hop] at hop'
        cases hop'
    have hright : lastSplit? level (depthStep depth sign) vs = none := by
      rw [depthStep_operator hsign]
      exact ihb (hr.imp_right Tighter.operand)
    refine lastSplit?_append_none (iha hr) ?_
    rw [ha.depthAfter_eq]
    exact lastSplit?_append_none hsplit hright

/-- A chain splits at the last of its operators. -/
theorem Grammar.ExprPhrase.lastSplit?_join {lit : Literals} {level : Operator.Level}
    {us vs : List Token} {a b : Expr} {sign : Token} {op : Operator}
    (ha : ExprPhrase lit (.chain level) us a) (hsign : sign.kind = .symbol op.symbol)
    (hop : op.level = level) (hb : ExprPhrase lit (.operand level) vs b) :
    lastSplit? level 0 (us ++ sign :: vs) = some ⟨us, op, vs⟩ := by
  have hright : lastSplit? level (depthStep 0 sign) vs = none :=
    hb.lastSplit?_eq_none (.inr (tighter_operand level))
  have hsplit : lastSplit? level 0 (sign :: vs) = some ⟨[], op, vs⟩ := by
    rw [lastSplit?, hright, Parser.operator?_eq_some_iff.mpr ⟨hsign, hop⟩]
    rfl
  rw [lastSplit?_append, ha.depthAfter_eq, hsplit]
  show some (⟨us ++ [], op, vs⟩ : Split) = _
  rw [List.append_nil]

end Scriptlet
