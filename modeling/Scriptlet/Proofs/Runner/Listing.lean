import Mathlib.Data.List.Forall2
import Scriptlet.Proofs.Source.Positions
import Scriptlet.Proofs.Text.OneLine
import Scriptlet.Proofs.Token.Coverage
import Scriptlet.Runner

/-!
# Listing: the tokens of a source, one a line, where they start

* `placed_positionIn`     every token has the position of its first byte;
* `pairwise_positionIn`   these positions ascend;
* `oneLine_listed`        what a listing tells of a token has no line feed;
* `tokenListing_lines`    so a listing has a line for each token, with ascending positions.
-/

namespace Scriptlet

open Text

def Position.Before (p q : Position) : Prop :=
  p.line < q.line ∨ p.line = q.line ∧ p.column < q.column

/-! ## where tokens start -/

namespace Token

theorem Kind.oneLine_label (k : Kind) : OneLine k.label := by
  cases k with
  | keyword k => cases k <;> decide
  | identifier => decide
  | number => decide
  | string => decide
  | symbol c =>
    unfold Kind.label
    rw [oneLine_append, oneLine_append]
    exact ⟨⟨by decide, oneLine_quotedChar c⟩, by decide⟩
  | endOfInput => decide

variable {source : Source}

def positionIn (source : Source) (t : Token) : Position :=
  (source.position? t.span.start).getD ⟨0, 0⟩

/-- **Every token has the position of its first byte.** -/
theorem placed_positionIn {t : Token} (ht : t ∈ ofText source.text) :
    source.Placed t.span.start (t.positionIn source) := by
  have hordered := (covers_ofText source.text).ordered
  rw [Nat.zero_add, byteLength_toList] at hordered
  obtain ⟨p, hp⟩ := Source.exists_placed (s := source) (hordered.bounds.2 t ht).2.le
  have hposition : t.positionIn source = p := by rw [positionIn, hp.position, Option.getD_some]
  rw [hposition]
  exact hp

theorem pairwise_positionIn :
    ((ofText source.text).map (positionIn source)).Pairwise Position.Before := by
  rw [List.pairwise_map]
  refine (covers_ofText source.text).ordered.pairwise_start.imp_of_mem ?_
  intro t u ht hu hlt
  exact (placed_positionIn ht).before (placed_positionIn hu) hlt

end Token

/-! ## the listing -/

namespace Runner

def listed (t : Token) (p : Position) : String :=
  toString p.line ++ ":" ++ toString p.column ++ " " ++ t.kind.label ++ " " ++ quoted t.text

theorem oneLine_listed (t : Token) (p : Position) : OneLine (listed t p) := by
  unfold listed
  have hliteral : OneLine ":" ∧ OneLine " " := by decide
  simp only [oneLine_append, oneLine_toString, t.kind.oneLine_label, oneLine_quoted, hliteral,
    and_self]

theorem tokenListing_eq (source : Source) : tokenListing source
    = written ((Token.ofText source.text).map fun t => listed t (t.positionIn source)) := by
  rw [tokenListing, written, List.map_map]
  rfl

/-- **A listing has one line for each token of its source, in their order.**  The line tells the
position of the first byte of the token, which always has one: the number of its line comes from the
line feeds before this byte, and the column from the bytes since the last of them.  Positions ascend
from line to line, and no token breaks its line, whatever is in it. -/
theorem tokenListing_lines (source : Source) : ∃ (lines : List String) (positions : List Position),
    (∀ r : Runner, r.step source .tokens = .ok ⟨true, [], written lines, ""⟩) ∧
    lines = List.zipWith listed (Token.ofText source.text) positions ∧
    lines.length = (Token.ofText source.text).length ∧
    (∀ line ∈ lines, OneLine line) ∧
    (written lines).toList.count '\n' = (Token.ofText source.text).length ∧
    List.Forall₂ (fun t p => source.position? t.span.start = some p ∧
        p.line = 1 + (source.bytes.take t.span.start).count lineFeed ∧
        p.column = 1 + ((source.bytes.take t.span.start).rtakeWhile (· != lineFeed)).length)
      (Token.ofText source.text) positions ∧
    (∀ p ∈ positions, p ≠ ⟨0, 0⟩) ∧
    positions.Pairwise Position.Before := by
  have hlines : ∀ line ∈ (Token.ofText source.text).map fun t => listed t (t.positionIn source),
      OneLine line := by
    rw [List.forall_mem_map]
    exact fun t _ => oneLine_listed t _
  refine ⟨_, (Token.ofText source.text).map (Token.positionIn source), fun r => ?_, ?_,
    List.length_map _, hlines, ?_, ?_, ?_, Token.pairwise_positionIn⟩
  · rw [← tokenListing_eq]
    rfl
  · rw [List.zipWith_map_right, List.zipWith_self]
  · rw [count_written hlines, List.length_map]
  · rw [List.forall₂_map_right_iff, List.forall₂_same]
    intro t ht
    have hplaced := Token.placed_positionIn ht
    exact ⟨hplaced.position, hplaced.line, hplaced.column⟩
  · rw [List.forall_mem_map]
    intro t ht hzero
    have hline := (Token.placed_positionIn ht).line
    rw [hzero] at hline
    exact absurd hline (by show 0 ≠ 1 + _; omega)

example : tokenListing (.ofText "demo" "var é = 1.5;\n\t'a\tb'!")
    = "1:1 Keyword(Var) \"var\"\n1:5 Identifier \"é\"\n1:8 Symbol('=') \"=\"\n"
      ++ "1:10 Number \"1.5\"\n1:13 Symbol(';') \";\"\n"
      ++ "2:2 String \"a\\tb\"\n2:7 Symbol('!') \"!\"\n" := by
  decide +kernel

end Runner

end Scriptlet
