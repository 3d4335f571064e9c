import Mathlib.Data.Option.NAry
import Scriptlet.Proofs.Evaluation.Variables
import Scriptlet.Proofs.Script.Assigned
import Scriptlet.Proofs.Script.LastOperator

/-!
# Reckoning: the value of an expression, from its tokens and without a tree

The last operator outside all parentheses splits the tokens in two, an additive one if there is any
and else a multiplicative one; with no operator there, the tokens are a number, a variable or a
group.  The parser folds a chain from the left, so the operator that comes last in the text is the
first one of the tree, and both ways agree.

* `reckon`                   the value that the tokens stand for;
* `ExprPhrase.reckon_eq`     it is the value of the expression;
* `ExprPhrase.vars_eq`       the variables of an expression are its identifiers, in their order;
* `Script.reckon_assigned`   so an expression that is assigned has the value of its tokens, or fails
                             at the first of them that has none.
-/

namespace Scriptlet

open Grammar

/-! ## the value of tokens -/

/-- the last additive operator outside all parentheses, or else the last multiplicative one -/
def outerSplit? (ts : List Token) : Option Split :=
  (lastSplit? .additive 0 ts).or (lastSplit? .multiplicative 0 ts)

theorem length_of_outerSplit? {ts : List Token} {s : Split} (h : outerSplit? ts = some s) :
    s.before.length < ts.length ∧ s.after.length < ts.length := by
  have hts : ∃ sign, ts = s.before ++ sign :: s.after := by
    rcases Option.or_eq_some_iff.mp h with h | ⟨-, h⟩ <;>
    · obtain ⟨sign, hts, -⟩ := eq_of_lastSplit? h
      exact ⟨sign, hts⟩
  obtain ⟨sign, hts⟩ := hts
  rw [hts, List.length_append, List.length_cons]
  omega

def inside? : List Token → Option (List Token)
  | [] => none
  | t :: rest =>
    if t.isSymbol '(' ∧ rest.getLast?.any (·.isSymbol ')') then some rest.dropLast else none

theorem length_of_inside? {ts us : List Token} (h : inside? ts = some us) :
    us.length < ts.length := by
  cases ts with
  | nil => cases h
  | cons t rest =>
    rw [inside?] at h
    split at h
    · cases h
      rw [List.length_dropLast, List.length_cons]
      omega
    · cases h

theorem inside?_singleton (t : Token) : inside? [t] = none := if_neg nofun

theorem inside?_group {opening closing : Token} (hopening : opening.kind = .symbol '(')
    (hclosing : closing.kind = .symbol ')') (ts : List Token) :
    inside? (opening :: (ts ++ [closing])) = some ts := by
  have hlast : (ts ++ [closing]).getLast?.any (·.isSymbol ')') = true := by
    rw [List.getLast?_concat]
    exact beq_iff_eq.mpr hclosing
  rw [inside?, if_pos ⟨beq_iff_eq.mpr hopening, hlast⟩, List.dropLast_concat]

def reckonSingle (env : Environment) : List Token → Option (Except RuntimeError Number)
  | [t] =>
    match t.kind with
    | .number => (Number.ofText? t.text).map .ok
    | .identifier => some <|
      match env.get? t.text with
      | some v => .ok v
      | none => .error ⟨.unknownVariable t.text, t.span⟩
    | _ => none
  | _ => none

/-- The value of tokens, or the failure of the first variable that has none; nothing, if the tokens
are no expression. -/
def reckon (ops : Arithmetic) (env : Environment) (ts : List Token) :
    Option (Except RuntimeError Number) :=
  match _ : outerSplit? ts with
  | some s => Option.map₂ (both (ops s.op)) (reckon ops env s.before) (reckon ops env s.after)
  | none =>
    match _ : inside? ts with
    | some us => reckon ops env us
    | none => reckonSingle env ts
termination_by ts.length
decreasing_by
  · exact (length_of_outerSplit? ‹_›).1
  · exact (length_of_outerSplit? ‹_›).2
  · exact length_of_inside? ‹_›

variable (ops : Arithmetic) (env : Environment)

theorem reckon_def (ts : List Token) :
    reckon ops env ts
      = match outerSplit? ts with
        | some s => Option.map₂ (both (ops s.op)) (reckon ops env s.before) (reckon ops env s.after)
        | none =>
          match inside? ts with
          | some us => reckon ops env us
          | none => reckonSingle env ts := by
  rw [reckon]
  split
  · rename_i s hs
    rw [hs]
  · rename_i hnone
    rw [hnone]
    split
    · rename_i us hus
      rw [hus]
    · rename_i hus
      rw [hus]

theorem Expr.eval_withSpan (e : Expr) (s : Span) :
    (e.withSpan s).eval ops env = e.eval ops env := by
  cases e <;> rfl

/-- **Tokens that are an expression have its value.** -/
theorem Grammar.ExprPhrase.reckon_eq {r : Rule} {us : List Token} {e : Expr}
    (h : ExprPhrase exactly r us e) : reckon ops env us = some (e.eval ops env) := by
  have no_split {us : List Token} {e : Expr} (h : ExprPhrase exactly .factor us e) :
      outerSplit? us = none := by
    rw [outerSplit?, h.lastSplit?_eq_none (.inr trivial), h.lastSplit?_eq_none (.inr trivial)]
    rfl
  induction h using ExprPhrase.leftInduction with
  | @number t v ht hv =>
    rw [reckon_def, no_split (.number ht hv), inside?_singleton]
    show reckonSingle env [t] = _
    rw [reckonSingle, ht, hv]
    rfl
  | @var t ht =>
    rw [reckon_def, no_split (.var ht), inside?_singleton]
    show reckonSingle env [t] = _
    rw [reckonSingle, ht]
    rfl
  | group hopening he hclosing ih =>
    rw [reckon_def, no_split (.group hopening he hclosing), inside?_group hopening hclosing,
      Expr.eval_withSpan]
    exact ih
  | single _ ih => exact ih
  | @join level us vs a b sign op ha hsign hop hb iha ihb =>
    have hsplit := ha.lastSplit?_join hsign hop hb
    have houter : outerSplit? (us ++ sign :: vs) = some ⟨us, op, vs⟩ := by
      rw [outerSplit?]
      cases level with
      | additive =>
        rw [hsplit]
        rfl
      | multiplicative =>
        rw [hsplit, (ha.chain_join hsign hop hb).lastSplit?_eq_none (.inr ⟨rfl, rfl⟩)]
        rfl
    rw [reckon_def, houter]
    show Option.map₂ (both (ops op)) (reckon ops env us) (reckon ops env vs) = _
    rw [iha, ihb]
    exact congrArg some (Expr.eval_binary ops env op a b _).symm

/-! ## variables with no value -/

def unbound? (env : Environment) (ts : List Token) : Option Token :=
  ts.find? fun t => t.kind = .identifier ∧ env.get? t.text = none

/-- The variables of an expression are the identifiers among its tokens. -/
theorem Grammar.ExprPhrase.vars_eq {lit : Literals} {r : Rule} {us : List Token} {e : Expr}
    (h : ExprPhrase lit r us e) :
    e.vars = (us.filter (·.kind = .identifier)).map identOf := by
  induction h using ExprPhrase.leftInduction with
  | number ht => simp [Expr.vars, ht]
  | var ht => simp [Expr.vars, ht]
  | group hopening _ hclosing ih => simp [Expr.vars_withSpan, ih, hopening, hclosing]
  | single _ ih => exact ih
  | join _ hsign _ _ iha ihb => simp [Expr.vars_join, iha, ihb, hsign]

theorem Grammar.ExprPhrase.undefined?_eq {lit : Literals} {r : Rule} {us : List Token} {e : Expr}
    (h : ExprPhrase lit r us e) :
    undefined? env.domain e.vars = (unbound? env us).map identOf := by
  rw [h.vars_eq, undefined?, List.find?_map, List.find?_filter, unbound?]
  refine congrArg (Option.map identOf) (congrArg (List.find? · us) (funext fun t => ?_))
  rw [decide_eq_decide, decide_eq_true_iff, Function.comp_apply, decide_eq_true_iff,
    Bindings.get?_eq_none_iff]
  exact Iff.rfl

namespace Script

/-- **A text that is an expression has, where it is assigned, the value of its tokens.**  This is a
number if all variables have values, whatever the operators stand for; otherwise the first variable
in the text with no value is unknown. -/
theorem reckon_assigned {t : String} (h : ∃ e, ExprPhrase exactly .expr (Token.ofText t) e) :
    ∃ e, parse (assigning t) = .ok (assigned e) ∧ ∀ ops env,
      reckon ops env (assignedTokens t) = some (e.eval ops env) ∧
      (unbound? env (assignedTokens t) = none → ∃ v, e.eval ops env = .ok v) ∧
      ∀ x, unbound? env (assignedTokens t) = some x →
        e.eval ops env = .error ⟨.unknownVariable x.text, x.span⟩ := by
  obtain ⟨e, he⟩ := h
  have hmoved : ExprPhrase exactly .expr (assignedTokens t) _ := he.later _
  refine ⟨_, parse_assigning he, fun ops env => ⟨hmoved.reckon_eq ops env, fun hnone => ?_,
    fun x hx => ?_⟩⟩
  · refine (Expr.eval_hinges ops env _).ok ?_
    rw [hmoved.undefined?_eq env, hnone]
    rfl
  · refine (Expr.eval_hinges ops env _).error (x := identOf x) ?_
    rw [hmoved.undefined?_eq env, hx]
    rfl

/-- If only `a` has a value, `a-b*(c-a)` fails at `b`, though the innermost operation is `c-a`. -/
theorem reckon_assigned_unknown :
    ∃ e, parse (assigning "a-b*(c-a)") = .ok (assigned e) ∧ ∀ ops v,
      reckon ops (Bindings.empty.set "a" v) (assignedTokens "a-b*(c-a)")
        = some (e.eval ops (Bindings.empty.set "a" v)) ∧
      e.eval ops (Bindings.empty.set "a" v) = .error ⟨.unknownVariable "b", ⟨21, 22⟩⟩ := by
  let product : List Token := [⟨.identifier, "b", ⟨2, 3⟩⟩, ⟨.symbol '*', "*", ⟨3, 4⟩⟩,
    ⟨.symbol '(', "(", ⟨4, 5⟩⟩, ⟨.identifier, "c", ⟨5, 6⟩⟩, ⟨.symbol '-', "-", ⟨6, 7⟩⟩,
    ⟨.identifier, "a", ⟨7, 8⟩⟩, ⟨.symbol ')', ")", ⟨8, 9⟩⟩]
  have htokens : Token.ofText "a-b*(c-a)"
      = [⟨.identifier, "a", ⟨0, 1⟩⟩] ++ ⟨.symbol '-', "-", ⟨1, 2⟩⟩ :: product :=
    Token.allFrom_of_lists (by decide)
  have hminus : Token.Kind.symbol '-' = .symbol Operator.sub.symbol := rfl
  have htimes : Token.Kind.symbol '*' = .symbol Operator.mul.symbol := rfl
  have hdifference : ExprPhrase exactly .expr [⟨.identifier, "c", ⟨5, 6⟩⟩,
      ⟨.symbol '-', "-", ⟨6, 7⟩⟩, ⟨.identifier, "a", ⟨7, 8⟩⟩] _ :=
    .expr_join (.var rfl) hminus (.var rfl)
  have hb : ExprPhrase exactly (.chain .multiplicative) [⟨.identifier, "b", ⟨2, 3⟩⟩] _ :=
    ExprPhrase.chain_of_operand (.var rfl)
  have hproduct : ExprPhrase exactly (.chain .multiplicative) product _ :=
    hb.chain_join htimes rfl (.group rfl hdifference rfl)
  have ha : ExprPhrase exactly .expr [⟨.identifier, "a", ⟨0, 1⟩⟩] _ := .expr_of_factor (.var rfl)
  have hexpr : ∃ e, ExprPhrase exactly .expr (Token.ofText "a-b*(c-a)") e := by
    rw [htokens]
    exact ⟨_, ha.chain_join hminus rfl hproduct⟩
  obtain ⟨e, hparse, h⟩ := reckon_assigned hexpr
  have hunbound (v : Number) : unbound? (Bindings.empty.set "a" v) (assignedTokens "a-b*(c-a)")
      = some ⟨.identifier, "b", ⟨21, 22⟩⟩ := by
    rw [assignedTokens, htokens]
    rfl
  exact ⟨e, hparse, fun ops v => ⟨(h ops _).1, (h ops _).2.2 _ (hunbound v)⟩⟩

end Script

end Scriptlet
