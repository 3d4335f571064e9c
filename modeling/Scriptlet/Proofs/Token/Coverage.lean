import Scriptlet.Proofs.Text.Slice
import Scriptlet.Proofs.Token.Lexeme

/-!
# Coverage: the tokens of a text are all of it but for blanks

`Covers n cs ts`: the text `cs`, which starts at the offset `n`, is made up of blanks and of the
lexemes of the tokens `ts`, in their order.

* `covers_iff`         the tokens that cover a text are those that the lexer gives, and no others;
* `Covers.firstOf_eq`  asked on and on, the lexer gives these tokens and then the end of the input;
* `ofText_lossless`    where the tokens of a text stand in it, what they say, and what is between
                       them.
-/

namespace Scriptlet.Token

open Text

inductive Covers : Nat → List Char → List Token → Prop where
  | blanks {n : Nat} {gap : List Char} (hgap : Blanks gap) : Covers n gap []
  | token {n : Nat} {gap l rest : List Char} {k : Kind} {t : String} {ts : List Token}
      (hgap : Blanks gap) (hlex : Lexeme k t l rest)
      (hrest : Covers (n + byteLength gap + byteLength l) rest ts) :
      Covers n (gap ++ (l ++ rest))
        (⟨k, t, ⟨n + byteLength gap, n + byteLength gap + byteLength l⟩⟩ :: ts)

/-! ### the lexer covers its text -/

theorem allFrom_blanks {gap : List Char} (hgap : Blanks gap) (n : Nat) : allFrom ⟨n, gap⟩ = [] := by
  rw [allFrom, next_blanks hgap]
  rfl

theorem Lexeme.kind_ne_endOfInput {k : Kind} {t : String} {l rest : List Char}
    (h : Lexeme k t l rest) : k ≠ .endOfInput := by
  cases h with
  | word =>
    unfold wordKind
    split <;> exact Kind.noConfusion
  | number => exact Kind.noConfusion
  | closed => exact Kind.noConfusion
  | unclosed => exact Kind.noConfusion
  | symbol => exact Kind.noConfusion

theorem allFrom_lexeme {gap l rest : List Char} {k : Kind} {t : String} (hgap : Blanks gap)
    (h : Lexeme k t l rest) (n : Nat) :
    allFrom ⟨n, gap ++ (l ++ rest)⟩ =
      ⟨k, t, ⟨n + byteLength gap, n + byteLength gap + byteLength l⟩⟩
        :: allFrom ⟨n + byteLength gap + byteLength l, rest⟩ := by
  rw [allFrom, next_of_lexeme hgap h]
  exact if_neg h.kind_ne_endOfInput

theorem allFrom_gap {gap : List Char} (hgap : Blanks gap) (n : Nat) (cs : List Char) :
    allFrom ⟨n, gap ++ cs⟩ = allFrom ⟨n + byteLength gap, cs⟩ := by
  rw [allFrom, next_gap hgap]
  exact (allFrom.eq_1 _).symm

theorem Covers.allFrom_eq {n : Nat} {cs : List Char} {ts : List Token} (h : Covers n cs ts) :
    allFrom ⟨n, cs⟩ = ts := by
  induction h with
  | blanks hgap => exact allFrom_blanks hgap _
  | token hgap hlex _ ih => rw [allFrom_lexeme hgap hlex, ih]

theorem covers_allFrom (n : Nat) (cs : List Char) : Covers n cs (allFrom ⟨n, cs⟩) := by
  induction hlen : cs.length using Nat.strongRecOn generalizing n cs with
  | ind len ih =>
    obtain hgap | ⟨gap, k, t, l, rest, rfl, hgap, hlex⟩ := blanks_or_lexeme cs
    · rw [allFrom_blanks hgap]
      exact .blanks hgap
    · obtain ⟨ch, tail, rfl, -⟩ := hlex.exists_cons
      rw [allFrom_lexeme hgap hlex]
      refine .token hgap hlex (ih rest.length ?_ _ rest rfl)
      simp only [List.length_append, List.length_cons] at hlen
      omega

theorem covers_iff {n : Nat} {cs : List Char} {ts : List Token} :
    Covers n cs ts ↔ allFrom ⟨n, cs⟩ = ts :=
  ⟨Covers.allFrom_eq, fun h => h ▸ covers_allFrom n cs⟩

/-! ### the tokens of a given text -/

/-- The lexer gives these tokens one after the other, and then the end of the input. -/
def lists : Cursor → List Token → Bool
  | c, [] => (next c).1.kind == .endOfInput
  | c, t :: ts => (next c).1 == t && t.kind != .endOfInput && lists (next c).2 ts

theorem allFrom_of_lists {c : Cursor} {ts : List Token} (h : lists c ts = true) :
    allFrom c = ts := by
  induction ts generalizing c with
  | nil =>
    rw [allFrom]
    exact if_pos (beq_iff_eq.mp h)
  | cons t ts ih =>
    rw [lists, Bool.and_eq_true, Bool.and_eq_true, beq_iff_eq, bne_iff_ne] at h
    obtain ⟨⟨ht, hkind⟩, hts⟩ := h
    rw [← ht] at hkind
    have hall : allFrom c = (next c).1 :: allFrom (next c).2 := by
      rw [allFrom]
      exact if_neg hkind
    rw [hall, ih hts, ht]

/-! ### what covering tokens are like -/

theorem firstOf_atEnd (k n : Nat) : firstOf k ⟨n, []⟩ = List.replicate k (endAt n) := by
  induction k with
  | zero => rfl
  | succ k ih =>
    have h : next ⟨n, []⟩ = (endAt n, ⟨n, []⟩) := rfl
    rw [firstOf, h, ih, List.replicate_succ]

/-- Once the tokens of a text are read, the lexer gives the end of the input for ever. -/
theorem Covers.firstOf_eq {n : Nat} {cs : List Char} {ts : List Token} (h : Covers n cs ts)
    (k : Nat) :
    firstOf (ts.length + k) ⟨n, cs⟩ = ts ++ List.replicate k (endAt (n + byteLength cs)) := by
  induction h with
  | @blanks n gap hgap =>
    rw [List.length_nil, Nat.zero_add, List.nil_append]
    cases k with
    | zero => rfl
    | succ k => rw [firstOf, next_blanks hgap, firstOf_atEnd, List.replicate_succ]
  | @token n gap l rest kd t ts hgap hlex _ ih =>
    rw [List.length_cons, Nat.succ_add, firstOf, next_of_lexeme hgap hlex, ih, List.cons_append,
      byteLength_append, byteLength_append, Nat.add_assoc, Nat.add_assoc]
    simp only [Nat.add_assoc]

theorem Covers.kind_ne_endOfInput {n : Nat} {cs : List Char} {ts : List Token}
    (h : Covers n cs ts) : ∀ t ∈ ts, t.kind ≠ .endOfInput := by
  induction h with
  | blanks => exact fun _ ht => nomatch ht
  | token _ hlex _ ih => exact List.forall_mem_cons.mpr ⟨hlex.kind_ne_endOfInput, ih⟩

/-- A token that covers a part of a text stands there as a lexeme, with what comes after it. -/
theorem Covers.lexeme_of_mem {n : Nat} {cs : List Char} {ts : List Token} (h : Covers n cs ts)
    {t : Token} (ht : t ∈ ts) :
    ∃ a l b, cs = a ++ l ++ b ∧ Lexeme t.kind t.text l b ∧
      t.span = ⟨n + byteLength a, n + byteLength a + byteLength l⟩ := by
  induction h with
  | blanks => cases ht
  | @token n gap l rest k s ts hgap hlex _ ih =>
    obtain rfl | ht := List.mem_cons.mp ht
    · exact ⟨gap, l, rest, (List.append_assoc ..).symm, hlex, rfl⟩
    · obtain ⟨a, l', b, rfl, hl', hspan⟩ := ih ht
      refine ⟨gap ++ l ++ a, l', b, by simp only [List.append_assoc], hl', ?_⟩
      rw [hspan, byteLength_append, byteLength_append]
      simp only [Nat.add_assoc]

/-- The tokens start at `n` or later and are over at `stop`; none is empty, and each is over where
the next one starts or before. -/
def Ordered : Nat → Nat → List Token → Prop
  | n, stop, [] => n ≤ stop
  | n, stop, t :: ts => n ≤ t.span.start ∧ t.span.start < t.span.stop ∧ Ordered t.span.stop stop ts

theorem Covers.ordered {n : Nat} {cs : List Char} {ts : List Token} (h : Covers n cs ts) :
    Ordered n (n + byteLength cs) ts := by
  induction h with
  | blanks => exact Nat.le_add_right _ _
  | token _ hlex _ ih =>
    have hpos := hlex.byteLength_pos
    refine ⟨Nat.le_add_right _ _, Nat.lt_add_of_pos_right hpos, ?_⟩
    rw [byteLength_append, byteLength_append, ← Nat.add_assoc, ← Nat.add_assoc]
    exact ih

theorem Ordered.bounds {n stop : Nat} {ts : List Token} (h : Ordered n stop ts) :
    n ≤ stop ∧ ∀ t ∈ ts, n ≤ t.span.start ∧ t.span.start < stop := by
  induction ts generalizing n with
  | nil => exact ⟨h, fun _ ht => nomatch ht⟩
  | cons t ts ih =>
    obtain ⟨hstart, hstop, hts⟩ := h
    obtain ⟨hle, hbounds⟩ := ih hts
    refine ⟨by omega, List.forall_mem_cons.mpr ⟨⟨hstart, by omega⟩, fun u hu => ?_⟩⟩
    have hu := hbounds u hu
    exact ⟨by omega, hu.2⟩

theorem Ordered.pairwise_start {n stop : Nat} {ts : List Token} (h : Ordered n stop ts) :
    ts.Pairwise fun t u => t.span.start < u.span.start := by
  induction ts generalizing n with
  | nil => exact .nil
  | cons t ts ih =>
    obtain ⟨-, hstop, hts⟩ := h
    refine .cons (fun u hu => ?_) (ih hts)
    have hu := (hts.bounds.2 u hu).1
    omega

/-- the stretches before, between and after tokens, in a text that goes from `n` to `stop` -/
def gaps : Nat → Nat → List Token → List Span
  | n, stop, [] => [⟨n, stop⟩]
  | n, stop, t :: ts => ⟨n, t.span.start⟩ :: gaps t.span.stop stop ts

theorem Covers.slice?_gaps {cs : List Char} {ts : List Token} (pre : List Char)
    (h : Covers (byteLength pre) cs ts) :
    ∀ g ∈ gaps (byteLength pre) (byteLength (pre ++ cs)) ts,
      ∃ xs, slice? g (pre ++ cs) = some xs ∧ Blanks xs := by
  generalize hn : byteLength pre = n at h
  induction h generalizing pre with
  | @blanks n gap hgap =>
    intro g hg
    obtain rfl := List.mem_singleton.mp hg
    refine ⟨gap, slice?_eq_some_iff.mpr ⟨pre, [], (List.append_nil _).symm, ?_⟩, hgap⟩
    rw [byteLength_append, hn]
  | @token n gap l rest k t ts hgap hlex _ ih =>
    intro g hg
    obtain rfl | hg := List.mem_cons.mp hg
    · refine ⟨gap, slice?_eq_some_iff.mpr ⟨pre, l ++ rest, (List.append_assoc ..).symm, ?_⟩, hgap⟩
      rw [hn]
    · have happ : pre ++ (gap ++ (l ++ rest)) = (pre ++ gap ++ l) ++ rest := by
        simp only [List.append_assoc]
      rw [happ] at hg ⊢
      exact ih _ (by rw [byteLength_append, byteLength_append, hn]) g hg

/-! ### where a token stands -/

/-- The text has the token at its span: a string between two quotes that do not occur in it, or
after one if nothing follows; any other token as it is. -/
def StandsIn (cs : List Char) (t : Token) : Prop :=
  if t.kind = .string then
    ∃ q, isQuote q = true ∧ q ∉ t.text.toList ∧
      (slice? t.span cs = some (q :: t.text.toList ++ [q]) ∨
        slice? t.span cs = some (q :: t.text.toList) ∧ t.span.stop = byteLength cs)
  else slice? t.span cs = some t.text.toList

theorem standsIn_of_lexeme {a l b : List Char} {t : Token} (h : Lexeme t.kind t.text l b)
    (hspan : t.span = ⟨byteLength a, byteLength a + byteLength l⟩) :
    StandsIn (a ++ l ++ b) t := by
  obtain ⟨k, text, span⟩ := t
  have hslice : slice? span (a ++ l ++ b) = some l := slice?_eq_some_iff.mpr ⟨a, b, rfl, hspan⟩
  unfold StandsIn
  simp only at h hspan ⊢
  cases h with
  | @word ch tail _ hch htail hend =>
    have hk : wordKind (String.ofList (ch :: tail)) ≠ .string := by
      unfold wordKind
      split <;> exact Kind.noConfusion
    rw [if_neg hk, String.toList_ofList]
    exact hslice
  | number =>
    rw [if_neg Kind.noConfusion, String.toList_ofList]
    exact hslice
  | @closed q text _ hq htext =>
    rw [if_pos rfl, String.toList_ofList]
    exact ⟨q, hq, htext, .inl hslice⟩
  | @unclosed q text hq htext =>
    rw [if_pos rfl, String.toList_ofList]
    refine ⟨q, hq, htext, .inr ⟨hslice, ?_⟩⟩
    rw [hspan, byteLength_append, byteLength_append, byteLength_nil, Nat.add_zero]
  | symbol =>
    rw [if_neg Kind.noConfusion, String.toList_ofList]
    exact hslice

theorem covers_ofText (s : String) : Covers 0 s.toList (ofText s) := covers_allFrom 0 s.toList

/-- **The tokens of a text stand in it in order, between characters, and all else is blank.**
Asked on and on, the lexer gives these tokens and then the end of the input, at the end of the
text. -/
theorem ofText_lossless (s : String) :
    (∀ t ∈ ofText s, t.kind ≠ .endOfInput) ∧
    (∀ k, firstOf ((ofText s).length + k) (.start s.toList)
      = ofText s ++ List.replicate k (endAt s.utf8ByteSize)) ∧
    Ordered 0 s.utf8ByteSize (ofText s) ∧
    (∀ t ∈ ofText s,
      isBoundary t.span.start s.toList = true ∧ isBoundary t.span.stop s.toList = true) ∧
    (∀ g ∈ gaps 0 s.utf8ByteSize (ofText s), ∃ xs, slice? g s.toList = some xs ∧ Blanks xs) ∧
    ∀ t ∈ ofText s, StandsIn s.toList t := by
  have hcov := covers_ofText s
  have hsize : 0 + byteLength s.toList = s.utf8ByteSize := by rw [Nat.zero_add, byteLength_toList]
  refine ⟨hcov.kind_ne_endOfInput, fun k => ?_, ?_, fun t ht => ?_, ?_, fun t ht => ?_⟩
  · rw [← hsize]
    exact hcov.firstOf_eq k
  · rw [← hsize]
    exact hcov.ordered
  · obtain ⟨a, l, b, hcs, -, hspan⟩ := hcov.lexeme_of_mem ht
    rw [Nat.zero_add] at hspan
    exact isBoundary_of_slice? (slice?_eq_some_iff.mpr ⟨a, b, hcs, hspan⟩)
  · rw [← byteLength_toList]
    exact Covers.slice?_gaps [] hcov
  · obtain ⟨a, l, b, hcs, hlex, hspan⟩ := hcov.lexeme_of_mem ht
    rw [Nat.zero_add] at hspan
    rw [hcs]
    exact standsIn_of_lexeme hlex hspan

end Scriptlet.Token
