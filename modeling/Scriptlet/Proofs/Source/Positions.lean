import Mathlib.Data.List.DropRight
import Scriptlet.Proofs.Text.Utf8
import Scriptlet.Source

/-!
# Positions: line and column of every byte of a text

An offset may be anywhere in a text, inside a character too, so here a text is its bytes.

* `Source.breaks_eq_idxsOf`     the table of breaks has the offsets of all line feeds, in order;
* `Finds`, `finds_iff`          what a search in such a table finds is how many breaks come before;
* `Source.lineIndex?_of_le`     the line of an offset, by the line feeds before it;
* `Source.lineStart?_of_bytes`  where a line starts, by the last of them;
* `Source.position?_exact`      so positions tell offsets, and are in the order of the offsets.
-/

namespace Scriptlet

open Text

/-! ## the table of breaks -/

theorem lineBreaks_eq (n : Nat) (cs : List Char) :
    lineBreaks n cs = (bytes cs).idxsOf lineFeed n := by
  induction cs generalizing n with
  | nil => rfl
  | cons c cs ih =>
    rw [lineBreaks, bytes_cons, List.idxsOf_append, String.length_utf8EncodeChar, ih]
    split
    · rename_i hc
      rw [hc, utf8EncodeChar_newline, List.idxsOf_cons, if_pos (beq_self_eq_true _)]
      rfl
    · rename_i hc
      have hnone : (String.utf8EncodeChar c).idxsOf lineFeed n = [] := by
        rw [List.idxsOf_eq_nil_iff]
        intro b hb
        rw [beq_eq_false_iff_ne]
        rintro rfl
        exact lineFeed_not_mem_utf8EncodeChar hc hb
      rw [hnone, List.nil_append]

namespace Source

variable (s : Source)

def bytes : List UInt8 := s.text.toUTF8.data.toList

theorem length_bytes : s.bytes.length = s.size := by
  rw [bytes, ← bytes_toList, Text.length_bytes, byteLength_toList, size]

variable {s} in
theorem bytes_of_text {above below : List Char} (htext : s.text.toList = above ++ below) :
    s.bytes = Text.bytes above ++ Text.bytes below := by
  rw [bytes, ← bytes_toList, htext, bytes_append]

variable {s} in
theorem take_bytes {above below : List Char} (htext : s.text.toList = above ++ below) :
    s.bytes.take (byteLength above) = Text.bytes above := by
  rw [bytes_of_text htext, ← Text.length_bytes, List.take_left]

/-- **The table has the offsets of all line feeds, in order.** -/
theorem breaks_eq_idxsOf : s.breaks = s.bytes.idxsOf lineFeed := by
  rw [s.breaks_eq, lineBreaks_eq, bytes_toList, bytes]

end Source

/-! ## searching an ascending table -/

/-- The index is one where the value is in the table or, if it is nowhere, the one where it could be
put in. -/
def Finds (table : List Nat) (value i : Nat) : Prop :=
  table[i]? = some value ∨
    value ∉ table ∧ i ≤ table.length ∧ (∀ m ∈ table.take i, m < value) ∧
      ∀ m ∈ table.drop i, value < m

section

variable {table : List Nat} (h : table.Pairwise (· < ·)) (value : Nat)
include h

theorem lesser_come_first :
    (∀ m ∈ table.take (table.countP (· < value)), m < value) ∧
      ∀ m ∈ table.drop (table.countP (· < value)), value ≤ m := by
  induction table with
  | nil => simp
  | cons m table ih =>
    obtain ⟨hm, htable⟩ := List.pairwise_cons.mp h
    by_cases hlt : m < value
    · rw [List.countP_cons_of_pos (by simpa using hlt), List.take_succ_cons, List.drop_succ_cons,
        List.forall_mem_cons]
      exact ⟨⟨hlt, (ih htable).1⟩, (ih htable).2⟩
    · have hnone : (m :: table).countP (· < value) = 0 := by
        rw [List.countP_eq_zero, List.forall_mem_cons]
        refine ⟨by simpa using hlt, fun m' hm' => ?_⟩
        have := hm m' hm'
        rw [decide_eq_true_iff]
        omega
      rw [hnone, List.take_zero, List.drop_zero, List.forall_mem_cons]
      refine ⟨by simp, by omega, fun m' hm' => ?_⟩
      have := hm m' hm'
      omega

omit h in
/-- Where the lesser values stop, there are as many before. -/
theorem eq_countP_of_partition {i : Nat} (hi : i ≤ table.length)
    (hless : ∀ m ∈ table.take i, m < value) (hmore : ∀ m ∈ table.drop i, value ≤ m) :
    i = table.countP (· < value) := by
  have hbefore : (table.take i).countP (· < value) = i := by
    rw [List.countP_eq_length.mpr, List.length_take_of_le hi]
    intro m hm
    exact decide_eq_true (hless m hm)
  have hafter : (table.drop i).countP (· < value) = 0 := by
    rw [List.countP_eq_zero]
    intro m hm
    have := hmore m hm
    rw [decide_eq_true_iff]
    omega
  rw [← List.take_append_drop i table, List.countP_append, hbefore, hafter, Nat.add_zero]

/-- **A search finds how many values of an ascending table are less.** -/
theorem finds_iff {i : Nat} : Finds table value i ↔ i = table.countP (· < value) := by
  constructor
  · rintro (hget | ⟨-, hi, hless, hmore⟩)
    · obtain ⟨hi, hvalue⟩ := List.getElem?_eq_some_iff.mp hget
      have htable := h
      rw [← List.take_append_drop i table, List.drop_eq_getElem_cons hi, hvalue,
        List.pairwise_append, List.pairwise_cons] at htable
      obtain ⟨-, ⟨hmore, -⟩, hless⟩ := htable
      refine eq_countP_of_partition value hi.le (fun m hm => hless m hm value List.mem_cons_self) ?_
      rw [List.drop_eq_getElem_cons hi, hvalue, List.forall_mem_cons]
      exact ⟨le_rfl, fun m hm => (hmore m hm).le⟩
    · exact eq_countP_of_partition value hi hless fun m hm => (hmore m hm).le
  · rintro rfl
    obtain ⟨hless, hmore⟩ := lesser_come_first h value
    have hdrop : (table.drop (table.countP (· < value))).Pairwise (· < ·) := h.drop
    rw [Finds, ← List.head?_drop]
    by_cases hvalue : value ∈ table
    · rw [← List.take_append_drop (table.countP (· < value)) table, List.mem_append] at hvalue
      -- No lesser value is the value, and only the first of the others can be.
      left
      obtain hmem | hmem := hvalue
      · exact absurd (hless value hmem) (lt_irrefl value)
      · generalize table.drop (table.countP (· < value)) = rest at hmem hmore hdrop
        cases rest with
        | nil => cases hmem
        | cons m rest =>
          obtain rfl | hlater := List.mem_cons.mp hmem
          · rfl
          · have hlt := (List.pairwise_cons.mp hdrop).1 value hlater
            have hle := hmore m List.mem_cons_self
            omega
    · right
      refine ⟨hvalue, List.countP_le_length, hless, fun m hm => ?_⟩
      have hle := hmore m hm
      have hne : m ≠ value := by
        rintro rfl
        exact hvalue (List.mem_of_mem_drop hm)
      omega

end

/-! ## the line of an offset -/

theorem countP_idxsOf (before after : List UInt8) :
    ((before ++ after).idxsOf lineFeed).countP (· < before.length) = before.count lineFeed := by
  have hbefore : (before.idxsOf lineFeed).countP (· < before.length) = before.count lineFeed := by
    rw [List.countP_eq_length.mpr, List.length_idxsOf]
    intro m hm
    exact decide_eq_true (List.lt_add_of_mem_idxsOf m hm)
  have hafter : (after.idxsOf lineFeed (0 + before.length)).countP (· < before.length) = 0 := by
    rw [List.countP_eq_zero]
    intro m hm
    have := List.ge_of_mem_idxsOf m hm
    rw [decide_eq_true_iff]
    omega
  rw [List.idxsOf_append, List.countP_append, hbefore, hafter, Nat.add_zero]

/-- A list up to the last `u` in it, and what has come since. -/
theorem exists_last_break {α : Type} [BEq α] [LawfulBEq α] (u : α) (us : List α) :
    ∃ above, us = above ++ us.rtakeWhile (· != u) ∧
      (above = [] ∨ ∃ lines, above = lines ++ [u]) ∧ u ∉ us.rtakeWhile (· != u) := by
  refine ⟨us.rdropWhile (· != u), List.rdropWhile_append_rtakeWhile.symm, ?_, ?_⟩
  · by_cases habove : us.rdropWhile (· != u) = []
    · exact .inl habove
    · have hlast := List.rdropWhile_last_not (· != u) us habove
      rw [Bool.not_eq_true, bne_eq_false_iff_eq] at hlast
      have happend := List.dropLast_append_getLast habove
      rw [hlast] at happend
      exact .inr ⟨_, happend.symm⟩
  · intro hmem
    have hne := List.mem_rtakeWhile_imp hmem
    rw [bne_self_eq_false] at hne
    cases hne

namespace Source

variable (s : Source)

theorem ascending_breaks : s.breaks.Pairwise (· < ·) := by
  rw [s.breaks_eq_idxsOf]
  exact List.pairwise_idxsOf

theorem lineCount_eq : s.lineCount = s.bytes.count lineFeed + 1 := by
  rw [lineCount, s.breaks_eq_idxsOf, List.length_idxsOf]

variable {s}

theorem countP_breaks {b : Nat} (hb : b ≤ s.size) :
    s.breaks.countP (· < b) = (s.bytes.take b).count lineFeed := by
  have hcount := countP_idxsOf (s.bytes.take b) (s.bytes.drop b)
  rw [← s.length_bytes] at hb
  rwa [List.take_append_drop, List.length_take_of_le hb, ← s.breaks_eq_idxsOf] at hcount

/-- **The line of an offset** comes after as many lines as there are line feeds before it. -/
theorem lineIndex?_of_le {b : Nat} (hb : b ≤ s.size) :
    s.lineIndex? b = some ((s.bytes.take b).count lineFeed) := by
  rw [lineIndex?, if_pos hb, countP_breaks hb]

theorem lineStart?_of_bytes {above below : List UInt8} (hbytes : s.bytes = above ++ below)
    (habove : above = [] ∨ ∃ lines, above = lines ++ [lineFeed]) :
    s.lineStart? (above.count lineFeed) = some above.length := by
  obtain rfl | ⟨lines, rfl⟩ := habove
  · rfl
  · have hbreak : s.breaks[lines.count lineFeed]? = some lines.length := by
      rw [s.breaks_eq_idxsOf, hbytes, List.append_assoc, List.idxsOf_append,
        ← List.length_idxsOf (s := 0), List.getElem?_append_right le_rfl, Nat.sub_self,
        List.singleton_append, List.idxsOf_cons, if_pos (beq_self_eq_true _), Nat.zero_add]
      rfl
    rw [List.count_append, List.count_singleton_self, List.length_append]
    show s.breaks[lines.count lineFeed]?.map (· + 1) = _
    rw [hbreak]
    rfl

theorem lineStart?_of_text {above below : List Char} (htext : s.text.toList = above ++ below)
    (habove : above = [] ∨ ∃ lines, above = lines ++ ['\n']) :
    s.lineStart? (above.count '\n') = some (byteLength above) := by
  rw [← count_bytes, ← Text.length_bytes]
  refine lineStart?_of_bytes (bytes_of_text htext) ?_
  obtain rfl | ⟨lines, rfl⟩ := habove
  · exact .inl rfl
  · exact .inr ⟨Text.bytes lines, bytes_append lines ['\n']⟩

theorem exists_lineStart {b : Nat} (hb : b ≤ s.size) :
    ∃ start, s.lineStart? ((s.bytes.take b).count lineFeed) = some start ∧
      start + ((s.bytes.take b).rtakeWhile (· != lineFeed)).length = b := by
  obtain ⟨above, htake, habove, hsince⟩ := exists_last_break lineFeed (s.bytes.take b)
  generalize (s.bytes.take b).rtakeWhile (· != lineFeed) = since at htake hsince ⊢
  have hbytes : s.bytes = above ++ (since ++ s.bytes.drop b) := by
    rw [← List.append_assoc, ← htake, List.take_append_drop]
  have hlength : above.length + since.length = b := by
    rw [← List.length_append, ← htake, List.length_take_of_le]
    rw [s.length_bytes]
    exact hb
  refine ⟨above.length, ?_, hlength⟩
  rw [htake, List.count_append, List.count_eq_zero_of_not_mem hsince, Nat.add_zero]
  exact lineStart?_of_bytes hbytes habove

/-! ## positions -/

theorem position?_eq_none_iff {b : Nat} : s.position? b = none ↔ s.size < b := by
  unfold position?
  by_cases hb : b ≤ s.size
  · obtain ⟨start, hstart, -⟩ := exists_lineStart hb
    simp only [lineIndex?_of_le hb, hstart]
    exact iff_of_false nofun (by omega)
  · rw [lineIndex?, if_neg hb]
    exact iff_of_true rfl (by omega)

variable (s) in
/-- The position is the one of the offset: the line is told by the line feeds among the bytes before
it and the column by the bytes since the last of them; any search in the table of breaks finds this
line, and from where it starts the column leads back to the offset. -/
structure Placed (b : Nat) (p : Position) : Prop where
  position : s.position? b = some p
  line : p.line = 1 + (s.bytes.take b).count lineFeed
  column : p.column = 1 + ((s.bytes.take b).rtakeWhile (· != lineFeed)).length
  lineIndex : s.lineIndex? b = some (p.line - 1)
  search : ∀ i, Finds s.breaks b i ↔ i = p.line - 1
  lt_lineCount : p.line - 1 < s.lineCount
  recovered : ∃ start, s.lineStart? (p.line - 1) = some start ∧ start ≤ b ∧
    start + (p.column - 1) = b

theorem exists_placed {b : Nat} (hb : b ≤ s.size) : ∃ p, s.Placed b p := by
  obtain ⟨start, hstart, hcolumn⟩ := exists_lineStart hb
  have hle : (s.bytes.take b).count lineFeed ≤ s.bytes.count lineFeed :=
    (List.take_sublist b s.bytes).count_le lineFeed
  have hposition : s.position? b = some ⟨(s.bytes.take b).count lineFeed + 1, b - start + 1⟩ := by
    unfold position?
    simp only [lineIndex?_of_le hb, hstart]
  refine ⟨_, hposition, Nat.add_comm _ _, ?_, lineIndex?_of_le hb, ?_, ?_, ?_⟩
  · show b - start + 1 = _
    omega
  · intro i
    rw [finds_iff s.ascending_breaks, countP_breaks hb]
    rfl
  · rw [s.lineCount_eq]
    show (s.bytes.take b).count lineFeed + 1 - 1 < _
    omega
  · refine ⟨start, hstart, ?_, ?_⟩
    · omega
    · show start + (b - start + 1 - 1) = b
      omega

theorem Placed.before {b b' : Nat} {p p' : Position} (hp : s.Placed b p) (hp' : s.Placed b' p')
    (h : b < b') : p.line < p'.line ∨ p.line = p'.line ∧ p.column < p'.column := by
  have hprefix : (s.bytes.take b).count lineFeed ≤ (s.bytes.take b').count lineFeed :=
    ((List.take_prefix_take_left h.le).sublist).count_le lineFeed
  obtain hlt | heq := Nat.lt_or_eq_of_le hprefix
  · left
    rw [hp.line, hp'.line]
    omega
  · right
    have hline : p.line = p'.line := by rw [hp.line, hp'.line, heq]
    obtain ⟨start, hstart, -, hcolumn⟩ := hp.recovered
    obtain ⟨start', hstart', -, hcolumn'⟩ := hp'.recovered
    rw [hline, hstart'] at hstart
    obtain rfl := Option.some.inj hstart
    have hpos := hp.column
    have hpos' := hp'.column
    exact ⟨hline, by omega⟩

/-- **Offsets and positions correspond exactly.**  An offset beyond the end has no position, and
every other one has its own, whether it is between characters or inside of one.  Later offsets have
later positions. -/
theorem position?_exact (s : Source) :
    (∀ b, s.position? b = none ↔ s.size < b) ∧
    (∀ b, b ≤ s.size → ∃ p, s.Placed b p) ∧
    ∀ b b', b < b' → b' ≤ s.size → ∃ p p', s.position? b = some p ∧ s.position? b' = some p' ∧
      (p.line < p'.line ∨ p.line = p'.line ∧ p.column < p'.column) := by
  refine ⟨fun b => position?_eq_none_iff, fun b => exists_placed, ?_⟩
  intro b b' hlt hb'
  obtain ⟨p, hp⟩ := exists_placed (s := s) (by omega : b ≤ s.size)
  obtain ⟨p', hp'⟩ := exists_placed hb'
  exact ⟨p, p', hp.position, hp'.position, hp.before hp' hlt⟩

end Source

end Scriptlet
