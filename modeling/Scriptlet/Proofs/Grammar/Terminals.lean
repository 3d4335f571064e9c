import Scriptlet.Proofs.Grammar.LeftRecursion

/-!
# Terminals: which tokens can be part of a phrase

The rules name keywords, identifiers, numbers and some symbols, and nothing else.  `Admits lit P`:
the predicate `P` holds of every token of such a kind, where a number has to stand for something.

* `ExprPhrase.admitted` … `ScriptPhrase.admitted`   then it holds of every token of a phrase;
* `ScriptPhrase.terminal`                           so only tokens of these kinds make up a script.
-/

namespace Scriptlet.Grammar

def symbols : List Char := ['(', ')', '\x7b', '\x7d', ',', ';', '=', '+', '-', '*', '/', '%']

def Terminal : Token.Kind → Prop
  | .keyword _ | .identifier | .number => True
  | .symbol c => c ∈ symbols
  | .string | .endOfInput => False

theorem terminal_operator (op : Operator) : Terminal (.symbol op.symbol) := by
  show op.symbol ∈ symbols
  cases op <;> decide

/-- What holds of numbers that stand for something, and of all other tokens that the rules name. -/
structure Admits (lit : Literals) (P : Token → Prop) : Prop where
  number : ∀ {t v}, t.kind = .number → lit t v → P t
  other : ∀ {t k}, t.kind = k → Terminal k → k ≠ .number → P t

variable {lit : Literals} {P : Token → Prop}

theorem Admits.symbol (hP : Admits lit P) {t : Token} {c : Char} (ht : t.kind = .symbol c)
    (hc : c ∈ symbols) : P t := hP.other ht hc nofun

theorem ExprPhrase.admitted (hP : Admits lit P) {r : Rule} {us : List Token} {e : Expr}
    (h : ExprPhrase lit r us e) : ∀ t ∈ us, P t := by
  induction h using ExprPhrase.leftInduction with
  | number ht hv => exact List.forall_mem_singleton.mpr (hP.number ht hv)
  | var ht => exact List.forall_mem_singleton.mpr (hP.other ht trivial nofun)
  | group hopening _ hclosing ih =>
    simp only [List.forall_mem_cons, List.forall_mem_append]
    exact ⟨hP.symbol hopening (by decide), ih, hP.symbol hclosing (by decide),
      List.forall_mem_nil _⟩
  | single _ ih => exact ih
  | @join _ _ _ _ _ _ op _ hsign _ _ iha ihb =>
    simp only [List.forall_mem_cons, List.forall_mem_append]
    exact ⟨iha, hP.symbol hsign (terminal_operator op), ihb⟩

theorem Repeated.forall_mem {α : Type} {D : Phrase α} (h : ∀ {us a}, D us a → ∀ t ∈ us, P t)
    {us : List Token} {as : List α} (has : Repeated D us as) : ∀ t ∈ us, P t := by
  induction has with
  | nil => exact List.forall_mem_nil P
  | cons ha _ ih => exact List.forall_mem_append.mpr ⟨h ha, ih⟩

theorem LaterArg.admitted (hP : Admits lit P) {us : List Token} {e : Expr}
    (he : LaterArg lit us e) : ∀ t ∈ us, P t := by
  cases he with
  | mk hcomma he =>
    exact List.forall_mem_cons.mpr ⟨hP.symbol hcomma (by decide), he.admitted hP⟩

theorem ArgsPhrase.admitted (hP : Admits lit P) {us : List Token} {es : List Expr}
    (hes : ArgsPhrase lit us es) : ∀ t ∈ us, P t := by
  cases hes with
  | none => exact List.forall_mem_nil P
  | some he hes =>
    exact List.forall_mem_append.mpr ⟨he.admitted hP, hes.forall_mem (LaterArg.admitted hP)⟩

theorem StatementPhrase.admitted (hP : Admits lit P) {us : List Token} {st : Statement}
    (hst : StatementPhrase lit us st) : ∀ t ∈ us, P t := by
  cases hst with
  | assign hvar hname heq he hsemi =>
    simp only [List.forall_mem_cons, List.forall_mem_append]
    exact ⟨hP.other hvar trivial nofun, hP.other hname trivial nofun, hP.symbol heq (by decide),
      he.admitted hP, hP.symbol hsemi (by decide), List.forall_mem_nil P⟩
  | call hname hopening hes hclosing hsemi =>
    simp only [List.forall_mem_cons, List.forall_mem_append]
    exact ⟨hP.other hname trivial nofun, hP.symbol hopening (by decide), hes.admitted hP,
      hP.symbol hclosing (by decide), hP.symbol hsemi (by decide), List.forall_mem_nil P⟩

theorem ScriptPhrase.admitted (hP : Admits lit P) {us : List Token} {s : Script}
    (hs : ScriptPhrase lit us s) : ∀ t ∈ us, P t := by
  cases hs with
  | mk hfunction hname hopening hclosing hbrace hbody hlast =>
    simp only [List.forall_mem_cons, List.forall_mem_append]
    exact ⟨hP.other hfunction trivial nofun, hP.other hname trivial nofun,
      hP.symbol hopening (by decide), hP.symbol hclosing (by decide),
      hP.symbol hbrace (by decide), hbody.forall_mem (StatementPhrase.admitted hP),
      hP.symbol hlast (by decide), List.forall_mem_nil P⟩

theorem admits_terminal : Admits lit fun t => Terminal t.kind where
  number ht _ := by
    rw [ht]
    trivial
  other ht hk _ := by rwa [ht]

/-- **Only tokens that the rules name make up a script.** -/
theorem ScriptPhrase.terminal {us : List Token} {s : Script} (hs : ScriptPhrase lit us s) :
    ∀ t ∈ us, Terminal t.kind := hs.admitted admits_terminal

end Scriptlet.Grammar
