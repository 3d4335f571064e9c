import Scriptlet.Proofs.Script.Lookahead
import Scriptlet.Proofs.Script.Expressions

/-!
# Following: a reading with one token at hand reads what the parser reads from the tokens left

* `FollowsAt`            from a place with fewer tokens left than the limit, a reading passes some
                         tokens and then gives what the parser gives: the value or the error;
* `FollowsAt.bind`       one reading after the other;
* `followsAt_loop`       a loop, by induction on its rounds: each leaves fewer tokens;
* `follows_expr`         expressions, by induction on the limit, which is lower inside parentheses;
* `follows_braced`       a script, up to its closing brace.
-/

namespace Scriptlet.Reading

open Scriptlet.Parser (Stop reader)

/-! ## the tokens left -/

section

variable {l : Lookahead}

theorem left_of_kind {kind : Token.Kind} (h : l.current.kind = kind) (hkind : kind ≠ .endOfInput) :
    l.left = l.current :: l.advance.left := Lookahead.left_of_ne (h ▸ hkind)

theorem length_advance_lt (h : l.current.kind ≠ .endOfInput) :
    l.advance.left.length < l.left.length := by
  rw [Lookahead.left_of_ne h]
  exact Nat.lt_succ_self _

/-- What holds of no tokens, and of tokens that start with the one at hand, holds of those left. -/
theorem left_cases {motive : List Token → Prop} (hnil : motive [])
    (hcons : ∀ rest, motive (l.current :: rest)) : motive l.left := by
  by_cases hend : l.current.kind = .endOfInput
  · rw [Lookahead.left_of_end hend]
    exact hnil
  · rw [Lookahead.left_of_ne hend]
    exact hcons _

end

/-! ## what a reading follows -/

/-- the tokens left at an error: a number is passed before it turns out to be none -/
def leftAt (s : Stop) : List Token :=
  match s.complaint with
  | .expected _ => s.rest
  | .invalidNumber => s.rest.tail

/-- From `l`, if the limit is above the number of tokens left, the reading passes some of them and
then gives what the reader gives for all of them, its value or its error.  Both leave the same ones.
-/
def FollowsAt {α : Type} (m : Reading α) (p : Parser.Reader α) (limit : Nat) (l : Lookahead) :
    Prop :=
  l.left.length < limit → ∃ ts l', l.Passes ts l' ∧
    match p l.left with
    | .ok (a, rest) => m limit l = some (.ok a, l') ∧ l'.left = rest
    | .error s => m limit l = some (.error (s.error l.inputEnd), l') ∧ l'.left = leftAt s

/-- The reading follows the reader where fewer tokens are left than at `l`. -/
def FollowsAfter {α : Type} (m : Reading α) (p : Parser.Reader α) (limit : Nat) (l : Lookahead) :
    Prop := ∀ l' : Lookahead, l'.left.length < l.left.length → FollowsAt m p limit l'

def Follows {α : Type} (m : Reading α) (p : Parser.Reader α) : Prop :=
  ∀ limit l, FollowsAt m p limit l

section

variable {α β : Type} {m m' : Reading α} {p p' : Parser.Reader α} {k : α → Reading β}
  {q : α → Parser.Reader β} {limit : Nat} {l : Lookahead}

theorem FollowsAt.congr (h : FollowsAt m p limit l) (hm : m' limit l = m limit l)
    (hp : p' l.left = p l.left) : FollowsAt m' p' limit l := by
  unfold FollowsAt
  rw [hm, hp]
  exact h

theorem FollowsAfter.mono {l' : Lookahead} (h : FollowsAfter m p limit l)
    (hl' : l'.left.length ≤ l.left.length) : FollowsAfter m p limit l' :=
  fun l'' hl'' => h l'' (Nat.lt_of_lt_of_le hl'' hl')

theorem followsAt_pure (a : α) : FollowsAt (pure a) (.done a) limit l :=
  fun _ => ⟨[], l, .nil l, rfl, rfl⟩

/-- **One reading after the other.**  The second one has no more tokens left than the first. -/
theorem FollowsAt.bind (hm : FollowsAt m p limit l)
    (hk : ∀ a l', p l.left = .ok (a, l'.left) → FollowsAt (k a) (q a) limit l') :
    FollowsAt (m >>= k) (p.andThen q) limit l := by
  intro hlimit
  obtain ⟨ts, l', hts, hout⟩ := hm hlimit
  cases hp : p l.left with
  | error s =>
    rw [hp] at hout
    refine ⟨ts, l', hts, ?_⟩
    rw [Parser.Reader.andThen_of_error hp]
    exact ⟨bind_of_error hout.1, hout.2⟩
  | ok r =>
    obtain ⟨a, rest⟩ := r
    rw [hp] at hout
    obtain ⟨hm, rfl⟩ := hout
    obtain ⟨us, l'', hus, hout⟩ := hk a l' hp (Nat.lt_of_le_of_lt hts.length_left_le hlimit)
    refine ⟨ts ++ us, l'', hts.trans hus, ?_⟩
    rw [Parser.Reader.andThen_of_ok hp, bind_of_ok hm, ← hts.inputEnd_eq]
    exact hout

theorem FollowsAt.of_advance (h : FollowsAt m' p' limit l.advance)
    (hcurrent : l.current.kind ≠ .endOfInput) (hm : m limit l = m' limit l.advance)
    (hp : p l.left = p' l.advance.left) : FollowsAt m p limit l := by
  intro hlimit
  obtain ⟨ts, l', hts, hout⟩ := h (Nat.lt_trans (length_advance_lt hcurrent) hlimit)
  refine ⟨_, l', .cons hcurrent hts, ?_⟩
  rw [hm, hp, ← l.inputEnd_advance]
  exact hout

theorem followsAt_stop {s : Stop} (hp : p l.left = .error s)
    (hm : m limit l = some (.error (s.error l.inputEnd), l)) (hs : l.left = leftAt s) :
    FollowsAt m p limit l := by
  refine fun _ => ⟨[], l, .nil l, ?_⟩
  rw [hp]
  exact ⟨hm, hs⟩

theorem followsAt_fail {what : Expectation} (hm : m limit l = fail what limit l)
    (hnil : p [] = .error ⟨.expected what, []⟩)
    (hcons : ∀ rest, p (l.current :: rest) = .error ⟨.expected what, l.current :: rest⟩) :
    FollowsAt m p limit l := by
  have hp : p l.left = .error ⟨.expected what, l.left⟩ :=
    left_cases (motive := fun ts => p ts = .error ⟨.expected what, ts⟩) hnil hcons
  have herror : Stop.error ⟨.expected what, l.left⟩ l.inputEnd
      = ⟨.expected what l.current.describe, l.current.span⟩ := by
    rw [← l.head?_left]
    rfl
  refine followsAt_stop hp (hm.trans ?_) rfl
  rw [herror]
  rfl

end

/-! ## single tokens -/

section

variable {limit : Nat} {l : Lookahead}

theorem follows_take {kind : Token.Kind} (hkind : kind ≠ .endOfInput) (what : Expectation) :
    Follows (take kind what) (reader (Parser.take kind what)) := by
  intro limit l
  have htake : take kind what limit l
      = (if l.current.kind = kind then advance else fail what) limit l := rfl
  by_cases h : l.current.kind = kind
  · rw [if_pos h] at htake
    have hleft := left_of_kind h hkind
    refine (followsAt_pure l.current).of_advance (h ▸ hkind) htake ?_
    rw [hleft]
    exact Parser.take_cons_of_eq h what _
  · rw [if_neg h] at htake
    exact followsAt_fail htake rfl (Parser.take_cons_of_ne h what)

theorem follows_symbol (c : Char) : Follows (symbol c) (reader (Parser.symbol c)) :=
  follows_take (Token.Kind.noConfusion ·) _

theorem follows_keyword (k : Keyword) : Follows (keyword k) (reader (Parser.keyword k)) :=
  follows_take (Token.Kind.noConfusion ·) _

theorem follows_ident : Follows ident (reader Parser.ident) := by
  intro limit l
  have htake := follows_take (Token.Kind.noConfusion · : Token.Kind.identifier ≠ .endOfInput)
    .identifier limit l
  have h := htake.bind fun t _ _ => followsAt_pure (Ident.mk t.text t.span)
  exact h.congr rfl (Parser.ident_eq l.left)

theorem eat_of_symbol {c : Char} (h : l.current.kind = .symbol c) :
    eat c limit l = some (.ok true, l.advance) := by
  have hc : l.current.isSymbol c = true := beq_iff_eq.mpr h
  rw [eat, bind_of_ok (current_run limit l), if_pos hc]
  rfl

theorem eat_of_ne {c : Char} (h : l.current.kind ≠ .symbol c) :
    eat c limit l = some (.ok false, l) := by
  have hc : l.current.isSymbol c = false := beq_eq_false_iff_ne.mpr h
  rw [eat, bind_of_ok (current_run limit l), hc]
  rfl

end

/-! ## loops -/

section

variable {α : Type} {a : α} {body : α → Reading (Option α)} {limit n : Nat} {l l' : Lookahead}

theorem rounds_of_none (h : body a limit l = some (.ok none, l')) :
    rounds body (n + 1) a limit l = some (.ok a, l') := by
  rw [rounds, bind_of_ok h]
  rfl

theorem rounds_of_some {β : Type} {m : Reading β} {f : β → α}
    (h : body a limit l = (m >>= fun b => pure (some (f b))) limit l') :
    rounds body (n + 1) a limit l = (m >>= fun b => rounds body n (f b)) limit l' :=
  bind_of_bind h

/-- **A loop follows what its rounds follow.**  By induction on the rounds: if each leaves fewer
tokens, a limit above the number of tokens left does not cut off the loop. -/
theorem followsAt_loop {p : α → Parser.Reader α}
    (hround : ∀ n a l', l'.left.length ≤ l.left.length →
      (∀ b l'', l''.left.length < l'.left.length → FollowsAt (rounds body n b) (p b) limit l'') →
      FollowsAt (rounds body (n + 1) a) (p a) limit l') (a : α) :
    FollowsAt (loop body a) (p a) limit l := by
  have hrounds (n : Nat) (a : α) (l' : Lookahead) (hn : l'.left.length < n)
      (hl' : l'.left.length ≤ l.left.length) : FollowsAt (rounds body n a) (p a) limit l' := by
    induction n generalizing a l' with
    | zero => exact absurd hn (Nat.not_lt_zero _)
    | succ n ih => exact hround n a l' hl' fun b l'' hl'' => ih b l'' (by omega) (by omega)
  exact fun hlimit => hrounds limit a l hlimit (Nat.le_refl _) hlimit

theorem length_lt_of_reader {bound : List Token → Nat}
    {f : (ts : List Token) → Parser.Result α (bound ts)} {ts rest : List Token}
    (h : reader f ts = .ok (a, rest)) : rest.length < bound ts := by
  unfold Parser.reader at h
  cases hf : f ts with
  | error s =>
    rw [hf] at h
    cases h
  | ok q =>
    rw [hf] at h
    cases h
    exact q.rest_lt

end

/-! ## expressions -/

/-! ### chains -/

section

variable {level : Operator.Level} {op : Operator} (operand : Reading Expr) (limit : Nat)
  {l : Lookahead}

theorem kind_ne_of_operator? {t : Token} (h : Parser.operator? level t = some op) :
    t.kind ≠ .endOfInput := by
  rw [(Parser.operator?_eq_some_iff.mp h).1]
  nofun

theorem link_of_none (h : Parser.operator? level l.current = none) (acc : Expr) :
    link level operand acc limit l = some (.ok none, l) := by
  rw [link, bind_of_ok (current_run limit l), h]
  rfl

theorem link_of_some (h : Parser.operator? level l.current = some op) (acc : Expr) :
    link level operand acc limit l
      = (operand >>= fun e => pure (some (acc.join op e))) limit l.advance := by
  rw [link, bind_of_ok (current_run limit l), h]
  rfl

theorem links_left_of_none (h : Parser.operator? level l.current = none) (acc : Expr) :
    Parser.links level acc l.left = .ok (acc, l.left) :=
  left_cases (motive := fun ts => Parser.links level acc ts = .ok (acc, ts))
    (Parser.links_nil level acc) (Parser.links_of_none h acc)

variable {operand limit}

theorem followsAt_links (h : FollowsAfter operand (reader (Parser.operand level)) limit l)
    (acc : Expr) :
    FollowsAt (loop (link level operand) acc) (Parser.links level acc) limit l := by
  refine followsAt_loop (fun n acc l' hl' ih => ?_) acc
  cases hop : Parser.operator? level l'.current with
  | none =>
    have hrounds := rounds_of_none (n := n) (link_of_none operand limit hop acc)
    exact (followsAt_pure acc).congr hrounds (links_left_of_none hop acc)
  | some op =>
    have hcurrent := kind_ne_of_operator? hop
    have hadvance := length_advance_lt hcurrent
    have hrounds := rounds_of_some (n := n) (link_of_some operand limit hop acc)
    have hlinks := Parser.links_of_some hop acc l'.advance.left
    rw [← Lookahead.left_of_ne hcurrent] at hlinks
    have hoperand := h l'.advance (Nat.lt_of_lt_of_le hadvance hl')
    refine (hoperand.bind fun e l'' he => ih _ l'' ?_).of_advance hcurrent hrounds hlinks
    exact Nat.lt_trans (length_lt_of_reader he) hadvance

theorem followsAt_leftAssoc
    (h : ∀ l' : Lookahead, l'.left.length ≤ l.left.length →
      FollowsAt operand (reader (Parser.operand level)) limit l') :
    FollowsAt (leftAssoc level operand) (reader (Parser.chainOf level)) limit l := by
  have hchain := (h l (Nat.le_refl _)).bind fun e l' he => followsAt_links
    (fun l'' hl'' => h l'' (Nat.le_of_lt (Nat.lt_trans hl'' (length_lt_of_reader he)))) e
  exact hchain.congr rfl (Parser.chainOf_eq level l.left)

end

/-! ### factors -/

section

variable {inner : Reading Expr} {limit : Nat} {l : Lookahead}

theorem followsAt_number (h : l.current.kind = .number) :
    FollowsAt (factorOf inner) (reader Parser.factor) limit l := by
  -- the number is passed before it turns out to be none
  have hcurrent : l.current.kind ≠ .endOfInput := h ▸ nofun
  have hleft := Lookahead.left_of_ne hcurrent
  have hparser := Parser.factor_number h l.advance.left
  rw [← hleft] at hparser
  have hnumber : FollowsAt (number l.current) (fun _ => reader Parser.factor l.left) limit
      l.advance := by
    cases hv : Number.ofText? l.current.text with
    | none =>
      rw [hv] at hparser
      refine followsAt_stop hparser ?_ (congrArg List.tail hleft).symm
      rw [number, hv, hleft]
      rfl
    | some v =>
      rw [hv] at hparser
      refine (followsAt_pure (Expr.number v l.current.span)).congr ?_ hparser
      rw [number, hv]
  exact hnumber.of_advance hcurrent (factorOf_of_number h) rfl

theorem followsAt_group (h : FollowsAt inner (reader Parser.expr) limit l.advance)
    (hgroup : l.current.kind = .symbol '(') :
    FollowsAt (factorOf inner) (reader Parser.factor) limit l := by
  have hcurrent : l.current.kind ≠ .endOfInput := hgroup ▸ nofun
  have hparser := Parser.factor_group hgroup l.advance.left
  rw [← Lookahead.left_of_ne hcurrent] at hparser
  have hclosed := h.bind fun e l' _ => (follows_symbol ')' limit l').bind fun closing _ _ =>
    followsAt_pure (e.withSpan (l.current.span.union closing.span))
  exact hclosed.of_advance hcurrent (factorOf_of_group hgroup) hparser

theorem followsAt_factorOf (h : FollowsAfter inner (reader Parser.expr) limit l) :
    FollowsAt (factorOf inner) (reader Parser.factor) limit l := by
  by_cases hnumber : l.current.kind = .number
  · exact followsAt_number hnumber
  by_cases hident : l.current.kind = .identifier
  · have hparser := Parser.factor_identifier hident l.advance.left
    rw [← left_of_kind hident nofun] at hparser
    exact (followsAt_pure _).of_advance (hident ▸ nofun) (factorOf_of_identifier hident) hparser
  by_cases hgroup : l.current.kind = .symbol '('
  · exact followsAt_group (h l.advance (length_advance_lt (hgroup ▸ nofun))) hgroup
  · exact followsAt_fail (factorOf_of_other hnumber hident hgroup) Parser.factor_nil
      (Parser.factor_other hnumber hident hgroup)

end

/-! ### expressions in one another -/

section

variable {limit : Nat} {l : Lookahead}

theorem followsAt_term (h : FollowsAfter (deeper expr) (reader Parser.expr) limit l) :
    FollowsAt term (reader Parser.term) limit l := by
  refine followsAt_leftAssoc fun l' hl' => ?_
  have hfactor := followsAt_factorOf (h.mono hl')
  exact hfactor.congr rfl (Parser.operand_multiplicative l'.left)

theorem followsAt_expr (h : FollowsAfter (deeper expr) (reader Parser.expr) limit l) :
    FollowsAt expr (reader Parser.expr) limit l := by
  rw [expr_eq]
  refine followsAt_leftAssoc fun l' hl' => ?_
  have hterm := followsAt_term (h.mono hl')
  exact hterm.congr rfl (Parser.operand_additive l'.left)

/-- By induction on the limit: an expression in another one is after its parenthesis, where fewer
tokens are left. -/
theorem follows_expr : Follows expr (reader Parser.expr) := by
  -- an expression inside another one comes after a parenthesis, where fewer tokens are left
  intro limit
  induction limit with
  | zero => exact fun _ hlimit => absurd hlimit (Nat.not_lt_zero _)
  | succ n ih =>
    intro l hlimit
    exact followsAt_expr (fun l' hl' _ => ih l' (by omega)) hlimit

theorem followsAfter_deeper (hlimit : l.left.length < limit) :
    FollowsAfter (deeper expr) (reader Parser.expr) limit l := by
  intro l' hl'
  cases limit with
  | zero => exact absurd hlimit (Nat.not_lt_zero _)
  | succ n => exact fun _ => follows_expr n l' (by omega)

theorem follows_factor : Follows factor (reader Parser.factor) :=
  fun _ _ hlimit => followsAt_factorOf (followsAfter_deeper hlimit) hlimit

theorem follows_term : Follows term (reader Parser.term) :=
  fun _ _ hlimit => followsAt_term (followsAfter_deeper hlimit) hlimit

end

/-! ## lists -/

def onto {α : Type} (xs : List α) (p : Parser.Reader (List α)) : Parser.Reader (List α) :=
  p.andThen fun ys => .done (xs ++ ys)

section

variable {α : Type} {xs : List α} {p : Parser.Reader (List α)} {q : Parser.Reader α}
  {ts us : List Token}

theorem onto_of_nil (h : p ts = .ok ([], ts)) : onto xs p ts = .ok (xs, ts) := by
  unfold onto
  rw [Parser.Reader.andThen_of_ok h, List.append_nil]
  rfl

theorem onto_of_cons (xs : List α)
    (h : p ts = (q.andThen fun x => p.andThen fun ys => .done (x :: ys)) us) :
    onto xs p ts = (q.andThen fun x => onto (xs ++ [x]) p) us := by
  unfold onto
  unfold Parser.Reader.andThen at h ⊢
  rw [h]
  rcases q us with s | ⟨x, rest⟩
  · rfl
  dsimp only
  rcases p rest with s | ⟨ys, rest'⟩
  · rfl
  · simp only [Parser.Reader.done, List.append_assoc, List.singleton_append]

theorem onto_nil (p : Parser.Reader (List α)) : onto [] p = p := by
  funext ts
  unfold onto Parser.Reader.andThen
  rcases p ts with s | ⟨ys, rest⟩
  · rfl
  · rfl

end

/-! ## arguments -/

section

variable (limit : Nat) {l : Lookahead}

theorem anotherArg_of_comma (h : l.current.kind = .symbol ',') (es : List Expr) :
    anotherArg es limit l = (expr >>= fun e => pure (some (es ++ [e]))) limit l.advance := by
  rw [anotherArg, bind_of_ok (eat_of_symbol h)]
  rfl

theorem anotherArg_of_ne (h : l.current.kind ≠ .symbol ',') (es : List Expr) :
    anotherArg es limit l = some (.ok none, l) := by
  rw [anotherArg, bind_of_ok (eat_of_ne h)]
  rfl

theorem moreArgs_left_of_ne (h : l.current.kind ≠ .symbol ',') :
    reader Parser.moreArgs l.left = .ok ([], l.left) :=
  left_cases (motive := fun ts => reader Parser.moreArgs ts = .ok ([], ts)) Parser.moreArgs_nil
    (Parser.moreArgs_of_ne h)

theorem follows_moreArgs (es : List Expr) :
    Follows (loop anotherArg es) (onto es (reader Parser.moreArgs)) := by
  intro limit l
  refine followsAt_loop (p := fun es => onto es (reader Parser.moreArgs))
    (fun n es l' _ ih => ?_) es
  by_cases h : l'.current.kind = .symbol ','
  · have hcurrent : l'.current.kind ≠ .endOfInput := h ▸ nofun
    have hrounds := rounds_of_some (n := n) (anotherArg_of_comma limit h es)
    have hparser := onto_of_cons es (Parser.moreArgs_comma h l'.advance.left)
    rw [← Lookahead.left_of_ne hcurrent] at hparser
    have hread := (follows_expr limit l'.advance).bind fun e l'' he => ih (es ++ [e]) l''
      (Nat.lt_trans (length_lt_of_reader he) (length_advance_lt hcurrent))
    exact hread.of_advance hcurrent hrounds hparser
  · have hrounds := rounds_of_none (n := n) (anotherArg_of_ne limit h es)
    exact (followsAt_pure es).congr hrounds (onto_of_nil (moreArgs_left_of_ne h))

theorem follows_args : Follows args (reader Parser.args) := by
  intro limit l
  have hargs : args limit l
      = (if l.current.isSymbol ')' then pure [] else expr >>= fun e => loop anotherArg [e]) limit
        l := rfl
  by_cases h : l.current.kind = .symbol ')'
  · have hclose : l.current.isSymbol ')' = true := beq_iff_eq.mpr h
    rw [if_pos hclose] at hargs
    refine (followsAt_pure []).congr hargs (Parser.args_close ?_)
    rw [left_of_kind h nofun]
    exact congrArg some h
  · have hclose : l.current.isSymbol ')' = false := beq_eq_false_iff_ne.mpr h
    rw [hclose, if_neg Bool.false_ne_true] at hargs
    have hread := (follows_expr limit l).bind fun e l' _ => follows_moreArgs [e] limit l'
    refine hread.congr hargs (Parser.args_of_ne ?_)
    exact left_cases (motive := fun ts => ts.head?.map Token.kind ≠ some (.symbol ')')) nofun
      fun _ h' => h (Option.some.inj h')

end

/-! ## statements -/

theorem follows_assignment : Follows assignment (reader Parser.assignment) := by
  intro limit l
  have hread := (follows_ident limit l).bind fun x l _ =>
    (follows_symbol '=' limit l).bind fun _ l _ => (follows_expr limit l).bind fun e l _ =>
      (follows_symbol ';' limit l).bind fun _ _ _ => followsAt_pure (Statement.assign x e)
  exact hread.congr rfl (Parser.assignment_eq l.left)

theorem follows_call : Follows call (reader Parser.call) := by
  intro limit l
  have hread := (follows_ident limit l).bind fun f l _ =>
    (follows_symbol '(' limit l).bind fun _ l _ => (follows_args limit l).bind fun es l _ =>
      (follows_symbol ')' limit l).bind fun _ l _ => (follows_symbol ';' limit l).bind fun _ _ _ =>
        followsAt_pure (Statement.call f es)
  exact hread.congr rfl (Parser.call_eq l.left)

section

variable (limit : Nat) {l : Lookahead}

theorem statement_of_var (h : l.current.kind = .keyword .var) :
    statement limit l = assignment limit l.advance := by
  rw [statement, bind_of_ok (current_run limit l), h]
  rfl

theorem statement_of_identifier (h : l.current.kind = .identifier) :
    statement limit l = call limit l := by
  rw [statement, bind_of_ok (current_run limit l), h]

theorem statement_of_other (hvar : l.current.kind ≠ .keyword .var)
    (hident : l.current.kind ≠ .identifier) :
    statement limit l = fail .statement limit l := by
  rw [statement, bind_of_ok (current_run limit l)]
  refine congrFun (congrFun ?_ limit) l
  split
  · exact absurd ‹_› hvar
  · exact absurd ‹_› hident
  · rfl

theorem follows_statement : Follows statement (reader Parser.statement) := by
  intro limit l
  by_cases hvar : l.current.kind = .keyword .var
  · have hparser := Parser.statement_var hvar l.advance.left
    rw [← left_of_kind hvar nofun] at hparser
    exact (follows_assignment limit l.advance).of_advance (hvar ▸ nofun)
      (statement_of_var limit hvar) hparser
  by_cases hident : l.current.kind = .identifier
  · have hparser := Parser.statement_identifier hident l.advance.left
    rw [← left_of_kind hident nofun] at hparser
    exact (follows_call limit l).congr (statement_of_identifier limit hident) hparser
  exact followsAt_fail (statement_of_other limit hvar hident) Parser.statement_nil
    (Parser.statement_other hvar hident)

theorem anotherStatement_of_brace (h : l.current.kind = .symbol '\x7d')
    (sts : List Statement) : anotherStatement sts limit l = some (.ok none, l) := by
  have hbrace : l.current.isSymbol '\x7d' = true := beq_iff_eq.mpr h
  rw [anotherStatement, bind_of_ok (current_run limit l), hbrace]
  rfl

theorem anotherStatement_of_end (h : l.current.kind = .endOfInput)
    (sts : List Statement) : anotherStatement sts limit l = some (.ok none, l) := by
  rw [anotherStatement, bind_of_ok (current_run limit l), h, beq_self_eq_true, Bool.or_true]
  rfl

theorem anotherStatement_of_ne (hbrace : l.current.kind ≠ .symbol '\x7d')
    (hend : l.current.kind ≠ .endOfInput) (sts : List Statement) :
    anotherStatement sts limit l
      = (statement >>= fun st => pure (some (sts ++ [st]))) limit l := by
  have hbrace : l.current.isSymbol '\x7d' = false := beq_eq_false_iff_ne.mpr hbrace
  have hend : (l.current.kind == .endOfInput) = false := beq_eq_false_iff_ne.mpr hend
  rw [anotherStatement, bind_of_ok (current_run limit l), hbrace, hend]
  rfl

theorem follows_statements (sts : List Statement) :
    Follows (loop anotherStatement sts) (onto sts (reader Parser.statements)) := by
  intro limit l
  refine followsAt_loop (p := fun sts => onto sts (reader Parser.statements))
    (fun n sts l' _ ih => ?_) sts
  by_cases hend : l'.current.kind = .endOfInput
  · have hrounds := rounds_of_none (n := n) (anotherStatement_of_end limit hend sts)
    refine (followsAt_pure sts).congr hrounds (onto_of_nil ?_)
    rw [Lookahead.left_of_end hend]
    exact Parser.statements_nil
  by_cases hbrace : l'.current.kind = .symbol '\x7d'
  · have hrounds := rounds_of_none (n := n) (anotherStatement_of_brace limit hbrace sts)
    refine (followsAt_pure sts).congr hrounds (onto_of_nil ?_)
    rw [Lookahead.left_of_ne hend]
    exact Parser.statements_brace hbrace _
  · have hrounds := rounds_of_some (n := n) (anotherStatement_of_ne limit hbrace hend sts)
    have hparser := onto_of_cons sts (Parser.statements_of_ne hbrace l'.advance.left)
    rw [← Lookahead.left_of_ne hend] at hparser
    have hread := (follows_statement limit l').bind fun st l'' hst =>
      ih (sts ++ [st]) l'' (length_lt_of_reader hst)
    exact hread.congr hrounds hparser

end

/-! ## scripts -/

theorem follows_braced : Follows braced Parser.braced := by
  intro limit l
  refine (follows_keyword .function limit l).bind fun _ l _ =>
    (follows_ident limit l).bind fun name l _ => (follows_symbol '(' limit l).bind fun _ l _ =>
      (follows_symbol ')' limit l).bind fun _ l _ =>
        (follows_symbol '\x7b' limit l).bind fun _ l _ => FollowsAt.bind ?_ fun body l _ =>
          (follows_symbol '\x7d' limit l).bind fun _ _ _ => followsAt_pure (Script.mk name body)
  rw [← onto_nil (reader Parser.statements)]
  exact follows_statements [] limit l

end Scriptlet.Reading
