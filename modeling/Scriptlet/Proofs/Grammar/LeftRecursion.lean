import Scriptlet.Proofs.Grammar

/-!
# Left recursion: a chain is an operand, or a chain, an operator and an operand

The grammar lists the links of a chain and folds them.  Here the last link is split off, so that an
induction sees each operation with its two operands.

* `ExprPhrase.chain_join`      a chain goes on with an operator and an operand;
* `ExprPhrase.leftInduction`   induction on phrases, with these two cases for chains.
-/

namespace Scriptlet.Grammar

variable {lit : Literals}

theorem ExprPhrase.chain_join {level : Operator.Level} {us vs : List Token} {a b : Expr}
    {sign : Token} {op : Operator} (ha : ExprPhrase lit (.chain level) us a)
    (hsign : sign.kind = .symbol op.symbol) (hop : op.level = level)
    (hb : ExprPhrase lit (.operand level) vs b) :
    ExprPhrase lit (.chain level) (us ++ sign :: vs) (a.join op b) := by
  cases ha with
  | @chain _ ts e ls he hsigns hlinks =>
    have hl : Link.Signed level ⟨op, sign, vs, b⟩ := Link.signed_iff.mpr ⟨hsign, hop⟩
    have h := ExprPhrase.chain (ls ++ [⟨op, sign, vs, b⟩]) he
      (List.forall_mem_append.mpr ⟨hsigns, List.forall_mem_singleton.mpr hl⟩)
      (List.forall_mem_append.mpr ⟨hlinks, List.forall_mem_singleton.mpr hb⟩)
    rw [List.flatMap_append, List.flatMap_singleton, List.foldl_append] at h
    rw [List.append_assoc]
    exact h

/-- **Induction on phrases, the last operator of a chain first.** -/
@[elab_as_elim]
theorem ExprPhrase.leftInduction
    {motive : (r : Rule) → (us : List Token) → (e : Expr) → ExprPhrase lit r us e → Prop}
    (number : ∀ {t : Token} {v : Number} (ht : t.kind = .number) (hv : lit t v),
      motive .factor [t] (.number v t.span) (.number ht hv))
    (var : ∀ {t : Token} (ht : t.kind = .identifier),
      motive .factor [t] (.var (identOf t) t.span) (.var ht))
    (group : ∀ {opening closing : Token} {ts : List Token} {e : Expr}
      (hopening : opening.kind = .symbol '(') (he : ExprPhrase lit .expr ts e)
      (hclosing : closing.kind = .symbol ')'), motive .expr ts e he →
      motive .factor (opening :: (ts ++ [closing])) _ (.group hopening he hclosing))
    (single : ∀ {level : Operator.Level} {us : List Token} {e : Expr}
      (he : ExprPhrase lit (.operand level) us e), motive (.operand level) us e he →
      motive (.chain level) us e he.chain_of_operand)
    (join : ∀ {level : Operator.Level} {us vs : List Token} {a b : Expr} {sign : Token}
      {op : Operator} (ha : ExprPhrase lit (.chain level) us a)
      (hsign : sign.kind = .symbol op.symbol) (hop : op.level = level)
      (hb : ExprPhrase lit (.operand level) vs b), motive (.chain level) us a ha →
      motive (.operand level) vs b hb →
      motive (.chain level) (us ++ sign :: vs) (a.join op b) (ha.chain_join hsign hop hb))
    {r : Rule} {us : List Token} {e : Expr} (h : ExprPhrase lit r us e) : motive r us e h := by
  induction h with
  | number ht hv => exact number ht hv
  | var ht => exact var ht
  | group hopening he hclosing ih => exact group hopening he hclosing ih
  | @chain level ts e ls he hsigns hlinks ih ihlinks =>
    -- the links that are left go on with a chain for which the motive holds already
    have fold {us : List Token} {acc : Expr} (hacc : ExprPhrase lit (.chain level) us acc)
        (hmotive : motive _ us acc hacc) :
        ∃ h, motive (.chain level) (us ++ ls.flatMap Link.all) (ls.foldl Link.onto acc) h := by
      clear ih
      induction ls generalizing us acc with
      | nil =>
        rw [List.flatMap_nil, List.append_nil]
        exact ⟨hacc, hmotive⟩
      | cons l ls ihls =>
        obtain ⟨hsigned, hsigns⟩ := List.forall_mem_cons.mp hsigns
        obtain ⟨hsign, hop⟩ := Link.signed_iff.mp hsigned
        have hl := hlinks l List.mem_cons_self
        have hjoin := join hacc hsign hop hl hmotive (ihlinks l List.mem_cons_self)
        have hrest := ihls hsigns (fun l' hl' => hlinks l' (List.mem_cons_of_mem _ hl'))
          (fun l' hl' => ihlinks l' (List.mem_cons_of_mem _ hl')) _ hjoin
        rw [List.append_assoc] at hrest
        exact hrest
    obtain ⟨_, h⟩ := fold he.chain_of_operand (single he ih)
    exact h

end Scriptlet.Grammar
