import Mathlib.Order.MinMax
import Scriptlet.Proofs.Token.Coverage

/-!
# Relocation: the tokens of a text that starts somewhere else

Tokens hold their offsets, and nothing that the lexer decides depends on these.  So the tokens of a
text after `m` bytes are its tokens at the start, each of them `m` bytes later.

* `Token.relocate f`   the token with its offsets changed by `f`, and `later m` if `f` adds `m`;
* `allFrom_later`      the tokens of a text at two places.
-/

namespace Scriptlet

def Span.map (f : Nat → Nat) (s : Span) : Span := ⟨f s.start, f s.stop⟩

/-- Unions stay unions as long as no two offsets change their order. -/
theorem Span.map_union {f : Nat → Nat} (hf : Monotone f) (a b : Span) :
    (a.union b).map f = (a.map f).union (b.map f) := by
  unfold union map
  rw [hf.map_min, hf.map_max]

namespace Token

open Text

def relocate (f : Nat → Nat) (t : Token) : Token := ⟨t.kind, t.text, t.span.map f⟩

def later (m : Nat) : Token → Token := relocate (m + ·)

theorem Covers.later {n : Nat} {cs : List Char} {ts : List Token} (h : Covers n cs ts) (m : Nat) :
    Covers (m + n) cs (ts.map (later m)) := by
  induction h with
  | blanks hgap => exact .blanks hgap
  | @token n gap l rest k t ts hgap hlex _ ih =>
    have hadd : m + n + byteLength gap = m + (n + byteLength gap) := Nat.add_assoc ..
    have hadd' : m + n + byteLength gap + byteLength l
        = m + (n + byteLength gap + byteLength l) := by rw [hadd, Nat.add_assoc m]
    rw [← hadd'] at ih
    have htoken := Covers.token hgap hlex ih
    rw [hadd', hadd] at htoken
    exact htoken

/-- **The tokens of a text, wherever it starts.** -/
theorem allFrom_later (m n : Nat) (cs : List Char) :
    allFrom ⟨m + n, cs⟩ = (allFrom ⟨n, cs⟩).map (later m) :=
  ((covers_allFrom n cs).later m).allFrom_eq

end Token

end Scriptlet
