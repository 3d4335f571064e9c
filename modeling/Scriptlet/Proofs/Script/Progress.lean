import Scriptlet.Proofs.Script.Following

/-!
# Progress: with one token at hand, every reading of a script comes to an end

A reading that is not cut off by a limit ends by itself.  A limit above the number of tokens left
cuts off none: each round of a loop but the last passes a token, and so does each parenthesis.

* `Ends`                 what a call gives, and the tokens it has passed: none is the end of input;
* `Progresses`           a call always ends, and if it succeeds it has passed a token;
* `Iterates`             so does a round of a loop, and if the loop goes on it has passed a token;
* `script_ends`          a script is read to its end or to its error, as by the parser;
* `script_progresses`    all calls, all rounds of loops, and as many tokens as the text has at most.
-/

namespace Scriptlet.Reading

open Scriptlet.Parser (reader)

/-! ## calls that end -/

/-- From `l` the call ends at `l'` with `out`, under any limit above the number of tokens left.  The
tokens `ts` were at hand when it asked for the next one. -/
structure Ends {α : Type} (m : Reading α) (l : Lookahead) (out : Except SyntaxError α)
    (ts : List Token) (l' : Lookahead) : Prop where
  run : ∀ limit, l.left.length < limit → m limit l = some (out, l')
  passed : l'.passed = l.passed ++ ts
  kind_ne : ∀ t ∈ ts, t.kind ≠ .endOfInput
  left : l.left = ts ++ l'.left
  further : l.ahead.Reaches l'.ahead

/-- Every call ends, with what the parser makes of the tokens left; if it succeeds it has passed at
least one token. -/
def Progresses {α : Type} (m : Reading α) (p : Parser.Reader α) : Prop :=
  ∀ l : Lookahead, ∃ out ts l', Ends m l out ts l' ∧
    match p l.left with
    | .ok (a, rest) => out = .ok a ∧ l'.left = rest ∧ ts ≠ []
    | .error s => out = .error (s.error l.inputEnd)

/-- From `l` the round ends; if there is to be another one it has passed at least one token. -/
def IteratesAt {α : Type} (body : Reading (Option α)) (l : Lookahead) : Prop :=
  ∃ out ts l', Ends body l out ts l' ∧ ∀ a, out = .ok (some a) → ts ≠ []

def Iterates {α : Type} (body : Reading (Option α)) : Prop := ∀ l, IteratesAt body l

section

variable {α : Type} {m : Reading α} {p : Parser.Reader α} {l l' : Lookahead}
  {out : Except SyntaxError α} {ts : List Token}

theorem Ends.of_passes (hrun : ∀ limit, l.left.length < limit → m limit l = some (out, l'))
    (hts : l.Passes ts l') : Ends m l out ts l' where
  run := hrun
  passed := hts.passed_eq
  kind_ne := hts.kind_ne
  left := hts.left_eq
  further := hts.reaches

/-- What the parser leaves does not depend on a limit, so where the reading leaves off does not. -/
theorem exists_ends (h : ∀ limit, FollowsAt m p limit l) :
    ∃ out ts l', l.Passes ts l' ∧ Ends m l out ts l' ∧
      match p l.left with
      | .ok (a, rest) => out = .ok a ∧ l'.left = rest
      | .error s => out = .error (s.error l.inputEnd) := by
  obtain ⟨ts, l', hts, hout⟩ := h (l.left.length + 1) (Nat.lt_succ_self _)
  cases hp : p l.left with
  | error s =>
    rw [hp] at hout
    refine ⟨_, ts, l', hts, .of_passes (fun limit hlimit => ?_) hts, rfl⟩
    obtain ⟨us, l'', hus, hout'⟩ := h limit hlimit
    rw [hp] at hout'
    rw [hts.eq_of_left hus (hout.2.trans hout'.2.symm)]
    exact hout'.1
  | ok r =>
    rw [hp] at hout
    refine ⟨_, ts, l', hts, .of_passes (fun limit hlimit => ?_) hts, rfl, hout.2⟩
    obtain ⟨us, l'', hus, hout'⟩ := h limit hlimit
    rw [hp] at hout'
    rw [hts.eq_of_left hus (hout.2.trans hout'.2.symm)]
    exact hout'.1

theorem Follows.progresses {f : (ts : List Token) → Parser.Result α ts.length}
    (h : Follows m (reader f)) : Progresses m (reader f) := by
  intro l
  obtain ⟨out, ts, l', -, hends, hout⟩ := exists_ends fun limit => h limit l
  refine ⟨out, ts, l', hends, ?_⟩
  cases hp : reader f l.left with
  | error s =>
    rw [hp] at hout
    exact hout
  | ok r =>
    obtain ⟨a, rest⟩ := r
    rw [hp] at hout
    obtain ⟨hok, hrest⟩ := hout
    refine ⟨hok, hrest, ?_⟩
    rintro rfl
    have hlt := length_lt_of_reader hp
    rw [hends.left, hrest, List.nil_append] at hlt
    exact absurd hlt (Nat.lt_irrefl _)

theorem Progresses.ends (h : Progresses m p) (l : Lookahead) :
    ∃ out ts l', Ends m l out ts l' ∧ ∀ a, out = .ok a → ts ≠ [] := by
  obtain ⟨out, ts, l', hends, hout⟩ := h l
  refine ⟨out, ts, l', hends, ?_⟩
  cases hp : p l.left with
  | error s =>
    rw [hp] at hout
    rw [hout]
    nofun
  | ok r =>
    rw [hp] at hout
    exact fun _ _ => hout.2.2

theorem eat_ends (c : Char) (l : Lookahead) :
    ∃ b ts l', Ends (eat c) l (.ok b) ts l' ∧ (b = true → ts ≠ []) := by
  by_cases h : l.current.kind = .symbol c
  · exact ⟨true, _, _, .of_passes (fun _ _ => eat_of_symbol h) (.cons (h ▸ nofun) (.nil _)), nofun⟩
  · exact ⟨false, [], l, .of_passes (fun _ _ => eat_of_ne h) (.nil l), nofun⟩

end

/-! ## rounds of the loops -/

section

variable {α β : Type} {body : Reading (Option α)} {m : Reading β} {f : β → α} {l : Lookahead}

theorem iteratesAt_of_none (h : ∀ limit, body limit l = some (.ok none, l)) :
    IteratesAt body l := ⟨.ok none, [], l, .of_passes (fun limit _ => h limit) (.nil l), nofun⟩

theorem iteratesAt_of_advance {p : Parser.Reader β} (hcurrent : l.current.kind ≠ .endOfInput)
    (hbody : ∀ limit, body limit l = (m >>= fun b => pure (some (f b))) limit l.advance)
    (hm : ∀ limit, FollowsAt m p limit l.advance) : IteratesAt body l := by
  obtain ⟨out, ts, l', hts, hends, -⟩ := exists_ends fun limit =>
    (hm limit).bind fun b _ _ => followsAt_pure (some (f b))
  refine ⟨out, _, l', .of_passes (fun limit hlimit => ?_) (.cons hcurrent hts), fun _ _ => nofun⟩
  rw [hbody]
  exact hends.run limit (Nat.lt_trans (length_advance_lt hcurrent) hlimit)

theorem iterates_link (level : Operator.Level) {operand : Reading Expr} {p : Parser.Reader Expr}
    (hoperand : Follows operand p) (acc : Expr) : Iterates (link level operand acc) := by
  intro l
  cases hop : Parser.operator? level l.current with
  | none => exact iteratesAt_of_none fun limit => link_of_none operand limit hop acc
  | some op =>
    exact iteratesAt_of_advance (kind_ne_of_operator? hop)
      (fun limit => link_of_some operand limit hop acc) fun limit => hoperand limit l.advance

theorem iterates_anotherArg (es : List Expr) : Iterates (anotherArg es) := by
  intro l
  by_cases h : l.current.kind = .symbol ','
  · exact iteratesAt_of_advance (h ▸ nofun) (fun limit => anotherArg_of_comma limit h es)
      fun limit => follows_expr limit l.advance
  · exact iteratesAt_of_none fun limit => anotherArg_of_ne limit h es

/-- No token is passed before the statement, which passes one itself. -/
theorem iterates_anotherStatement (sts : List Statement) : Iterates (anotherStatement sts) := by
  intro l
  by_cases hend : l.current.kind = .endOfInput
  · exact iteratesAt_of_none fun limit => anotherStatement_of_end limit hend sts
  by_cases hbrace : l.current.kind = .symbol '\x7d'
  · exact iteratesAt_of_none fun limit => anotherStatement_of_brace limit hbrace sts
  have hbody (limit : Nat) := anotherStatement_of_ne limit hbrace hend sts
  obtain ⟨out, ts, l', hends, hne⟩ := follows_statement.progresses.ends l
  cases out with
  | error e =>
    refine ⟨.error e, ts, l', { hends with run := fun limit hlimit => ?_ }, nofun⟩
    exact (hbody limit).trans (bind_of_error (hends.run limit hlimit))
  | ok st =>
    refine ⟨.ok (some (sts ++ [st])), ts, l', { hends with run := fun limit hlimit => ?_ },
      fun _ _ => hne st rfl⟩
    exact (hbody limit).trans (bind_of_ok (hends.run limit hlimit))

end

/-! ## scripts -/

theorem script_ends (l : Lookahead) :
    ∃ ts l', Ends script l
      (match Parser.script l.left with
        | .ok s => .ok s
        | .error stop => .error (stop.error l.inputEnd)) ts l' := by
  obtain ⟨out, ts, l', hts, hends, hout⟩ := exists_ends fun limit => follows_braced limit l
  refine ⟨ts, l', .of_passes (fun limit hlimit => ?_) hts⟩
  have hrun := hends.run limit hlimit
  rw [Parser.script_eq]
  cases hp : Parser.braced l.left with
  | error stop =>
    rw [hp] at hout
    subst hout
    exact bind_of_error hrun
  | ok r =>
    obtain ⟨s, rest⟩ := r
    rw [hp] at hout
    obtain ⟨rfl, rfl⟩ := hout
    have hscript : script limit l
        = (if l'.current.kind = .endOfInput then pure s else fail .endOfInput) limit l' := by
      rw [script, bind_of_ok hrun]
      rfl
    rw [hscript]
    by_cases hend : l'.current.kind = .endOfInput
    · rw [if_pos hend, Lookahead.left_of_end hend]
      rfl
    · rw [if_neg hend, ← hts.inputEnd_eq, Lookahead.left_of_ne hend]
      rfl

/-- **The reading of a script always goes forward, and it comes to an end.**  A call that succeeds
passes a token, so does each round of a loop that is not the last, and no call goes back or passes
the end of the input.  A text is read to the end or to its first error, with the result of the
parser, and no more tokens are passed than it has. -/
theorem script_progresses :
    (∀ k, Progresses (keyword k) (reader (Parser.keyword k))) ∧
      (∀ c, Progresses (symbol c) (reader (Parser.symbol c))) ∧
      (∀ c l, ∃ b ts l', Ends (eat c) l (.ok b) ts l' ∧ (b = true → ts ≠ [])) ∧
      Progresses ident (reader Parser.ident) ∧
      Progresses factor (reader Parser.factor) ∧
      Progresses term (reader Parser.term) ∧
      Progresses expr (reader Parser.expr) ∧
      Progresses statement (reader Parser.statement) ∧
      (∀ acc, Iterates (link .multiplicative factor acc)) ∧
      (∀ acc, Iterates (link .additive term acc)) ∧
      (∀ es, Iterates (anotherArg es)) ∧
      (∀ sts, Iterates (anotherStatement sts)) ∧
      ∀ text, ∃ ts l', Ends script (.start text) (Script.parse text) ts l' ∧ l'.passed = ts ∧
        ts <+: Token.ofText text ∧ ts.length ≤ (Token.ofText text).length := by
  refine ⟨fun k => (follows_keyword k).progresses, fun c => (follows_symbol c).progresses, eat_ends,
    follows_ident.progresses, follows_factor.progresses, follows_term.progresses,
    follows_expr.progresses, follows_statement.progresses,
    iterates_link .multiplicative follows_factor, iterates_link .additive follows_term,
    iterates_anotherArg, iterates_anotherStatement, fun text => ?_⟩
  obtain ⟨ts, l', hends⟩ := script_ends (.start text)
  rw [Lookahead.left_start, Lookahead.inputEnd_start] at hends
  have hleft := hends.left
  rw [Lookahead.left_start] at hleft
  have hprefix : ts <+: Token.ofText text := ⟨l'.left, hleft.symm⟩
  exact ⟨ts, l', hends, hends.passed, hprefix, hprefix.length_le⟩

/-- An operator is missing behind the ninth of twelve tokens, inside of two parentheses. -/
example : (script 13 (.start "function f()\x7bg((1 2);")).map (fun r => r.2.passed.length)
    = some 9 := by
  decide +kernel

end Scriptlet.Reading
