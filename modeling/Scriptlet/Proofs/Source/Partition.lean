import Scriptlet.Proofs.Source.Lines

/-!
# Partition: a text is its lines, with a line feed between each and the next

The lines here are as they stand in the text, with the carriage returns at their ends.

* `exists_spot_of_line`      each line is the one of a spot, after all lines before it;
* `Source.slice?_line`       it is the slice from where it starts to where it stops;
* `Source.between_of_line`   the offsets that lie on it are between these two;
* `Source.lines_partition`   the lines put together are the text.
-/

namespace Scriptlet

open Text

/-! ## lines put together -/

def joined (raws : List (List Char)) : List Char := raws.flatMap (· ++ ['\n'])

theorem joined_nil : joined [] = [] := rfl
theorem joined_cons (raw : List Char) (raws : List (List Char)) :
    joined (raw :: raws) = raw ++ ['\n'] ++ joined raws := rfl
theorem joined_concat (raws : List (List Char)) (raw : List Char) :
    joined (raws ++ [raw]) = joined raws ++ raw ++ ['\n'] := by
  rw [joined, List.flatMap_append, List.flatMap_singleton, List.append_assoc]
  rfl

theorem joined_whole (raws : List (List Char)) :
    joined raws = [] ∨ ∃ lines, joined raws = lines ++ ['\n'] := by
  obtain rfl | ⟨raws, raw, rfl⟩ := List.eq_nil_or_concat' raws
  · exact .inl joined_nil
  · exact .inr ⟨joined raws ++ raw, joined_concat raws raw⟩

theorem count_joined {raws : List (List Char)} (h : ∀ raw ∈ raws, '\n' ∉ raw) :
    (joined raws).count '\n' = raws.length := by
  induction raws with
  | nil => rfl
  | cons raw raws ih =>
    obtain ⟨hraw, hraws⟩ := List.forall_mem_cons.mp h
    rw [joined_cons, List.count_append, List.count_append, List.count_eq_zero_of_not_mem hraw,
      List.count_singleton_self, ih hraws, List.length_cons]
    omega

theorem intercalate_of_getElem? {raws : List (List Char)} {i : Nat} {raw : List Char}
    (h : raws[i]? = some raw) : ∃ below,
      List.intercalate ['\n'] raws = joined (raws.take i) ++ (raw ++ below) ∧
      (below = [] ∨ ∃ lines, below = '\n' :: lines) := by
  induction raws generalizing i with
  | nil => cases h
  | cons first rest ih =>
    cases i with
    | zero =>
      cases h
      cases rest with
      | nil =>
        refine ⟨[], ?_, .inl rfl⟩
        rw [List.intercalate_singleton, List.append_nil]
        rfl
      | cons second rest =>
        refine ⟨'\n' :: List.intercalate ['\n'] (second :: rest), ?_, .inr ⟨_, rfl⟩⟩
        rw [List.intercalate_cons_cons, List.append_assoc]
        rfl
    | succ i =>
      obtain ⟨below, heq, hbelow⟩ := ih h
      have hrest : rest ≠ [] := by
        rintro rfl
        cases h
      refine ⟨below, ?_, hbelow⟩
      rw [List.intercalate_cons_of_ne_nil hrest, heq, List.take_succ_cons, joined_cons,
        List.append_assoc (first ++ ['\n'])]

/-! ## the lines of a text -/

theorem intercalate_splitLines (cs : List Char) :
    List.intercalate ['\n'] (splitLines cs) = cs := by
  rw [splitLines_eq_splitOn]
  exact List.intercalate_splitOn '\n'

theorem not_mem_of_mem_splitLines {cs raw : List Char} (h : raw ∈ splitLines cs) :
    '\n' ∉ raw := by
  rw [splitLines_eq_splitOn] at h
  induction cs generalizing raw with
  | nil =>
    rw [List.splitOn_nil, List.mem_singleton] at h
    rw [h]
    exact List.not_mem_nil
  | cons c cs ih =>
    rw [List.splitOn_cons_eq_if_modifyHead] at h
    split at h
    · obtain rfl | h := List.mem_cons.mp h
      · exact List.not_mem_nil
      · exact ih h
    · rename_i hc
      obtain ⟨line, rest, hcs⟩ := List.exists_cons_of_ne_nil (List.splitOn_ne_nil '\n' cs)
      rw [hcs, List.modifyHead_cons] at h
      obtain rfl | h := List.mem_cons.mp h
      · rw [List.mem_cons, not_or]
        refine ⟨fun heq => hc (beq_iff_eq.mpr heq.symm), ih ?_⟩
        rw [hcs]
        exact List.mem_cons_self
      · refine ih ?_
        rw [hcs]
        exact List.mem_cons_of_mem line h

/-- **Each line of a text is the one of a spot**, which comes after all lines before it. -/
theorem exists_spot_of_line {cs raw : List Char} {i : Nat} (h : (splitLines cs)[i]? = some raw) :
    ∃ p : Spot cs, p.index = i ∧ p.above = joined ((splitLines cs).take i) ∧ p.line = raw := by
  obtain ⟨below, htext, hbelow⟩ := intercalate_of_getElem? h
  rw [intercalate_splitLines] at htext
  have hi : i < (splitLines cs).length := (List.getElem?_eq_some_iff.mp h).1
  have hfeeds : ∀ raw ∈ (splitLines cs).take i, '\n' ∉ raw := by
    intro raw hraw
    exact not_mem_of_mem_splitLines (List.mem_of_mem_take hraw)
  refine ⟨⟨joined ((splitLines cs).take i), [], raw, below, htext, joined_whole _,
    List.not_mem_nil, not_mem_of_mem_splitLines (List.mem_of_getElem? h), hbelow⟩, ?_, rfl, rfl⟩
  show (joined ((splitLines cs).take i)).count '\n' = i
  rw [count_joined hfeeds, List.length_take_of_le hi.le]

/-! ## the lines of a source -/

namespace Source

variable {s : Source}

/-- where a line stops: at its line feed, or where the text does -/
def lineStop (s : Source) (i : Nat) : Nat := s.breaks[i]?.getD s.size

theorem lineStop_index (p : Spot s.text.toList) :
    s.lineStop p.index = p.start + byteLength p.line := by
  have htext : s.text.toList = p.above ++ (p.line ++ p.below) := p.text_eq
  unfold lineStop
  obtain hbelow | ⟨lines, hbelow⟩ := p.below_whole
  · -- Without a line feed below there are no more breaks than those above.
    rw [hbelow, List.append_nil] at htext
    have hcount := congrArg (List.count '\n') htext
    have hlength := congrArg byteLength htext
    rw [List.count_append, List.count_eq_zero_of_not_mem p.not_mem_line, Nat.add_zero,
      ← length_lineBreaks 0, ← s.breaks_eq] at hcount
    rw [byteLength_toList, byteLength_append] at hlength
    rw [Spot.index, List.getElem?_eq_none hcount.le, Option.getD_none]
    exact hlength
  · have hnext : s.lineStart? (p.index + 1) = some (p.start + byteLength p.line + 1) := by
      have habove : s.text.toList = p.above ++ p.line ++ ['\n'] ++ lines := by
        simpa [hbelow] using htext
      have hstart := lineStart?_of_text habove (.inr ⟨_, rfl⟩)
      rwa [List.count_append, List.count_append, List.count_eq_zero_of_not_mem p.not_mem_line,
        byteLength_append, byteLength_append] at hstart
    obtain ⟨m, hm, hsucc⟩ := Option.map_eq_some_iff.mp hnext
    rw [hm]
    exact Nat.succ.inj hsucc

/-- **A line is the slice from where it starts to where it stops.** -/
theorem slice?_line (p : Spot s.text.toList) :
    slice? ⟨p.start, s.lineStop p.index⟩ s.text.toList = some p.line := by
  rw [slice?_eq_some_iff, lineStop_index]
  refine ⟨p.above, p.below, ?_, rfl⟩
  rw [List.append_assoc]
  exact p.text_eq

/-- **The offsets that lie on a line** are between where it starts and where it stops. -/
theorem between_of_line {b i : Nat} (h : s.lineIndex? b = some i) :
    ∃ start, s.lineStart? i = some start ∧ start ≤ b ∧ b ≤ s.lineStop i := by
  unfold lineIndex? at h
  split at h
  · rename_i hb
    obtain ⟨start, hstart, hcolumn⟩ := exists_lineStart hb
    obtain ⟨-, hmore⟩ := lesser_come_first s.ascending_breaks b
    have hi := Option.some.inj h
    rw [← countP_breaks hb, hi] at hstart
    rw [hi] at hmore
    refine ⟨start, hstart, by omega, ?_⟩
    unfold lineStop
    cases hbreak : s.breaks[i]? with
    | none => exact hb
    | some m =>
      refine hmore m ?_
      rw [← List.head?_drop] at hbreak
      exact List.mem_of_head? hbreak
  · cases h

theorem isSome_line?_iff {i : Nat} : (s.line? i).isSome = true ↔ i < s.lineCount := by
  rw [line?, Option.isSome_map, isSome_getElem?, length_splitLines 0,
    lineCount, s.breaks_eq]

theorem isSome_lineStart?_iff {i : Nat} :
    (s.lineStart? i).isSome = true ↔ i < s.lineCount := by
  cases i with
  | zero => exact iff_of_true rfl (Nat.succ_pos _)
  | succ i =>
    show (s.breaks[i]?.map (· + 1)).isSome = true ↔ _
    rw [Option.isSome_map, isSome_getElem?, lineCount]
    omega

theorem not_mem_of_line? {i : Nat} {shown : List Char} (h : s.line? i = some shown) :
    '\n' ∉ shown := by
  obtain ⟨raw, hraw, rfl⟩ := Option.map_eq_some_iff.mp h
  intro hmem
  exact not_mem_of_mem_splitLines (List.mem_of_getElem? hraw) (mem_of_mem_dropReturn hmem)

/-- One of the lines of a source: it is shown without one carriage return if it ends in one, it
starts right after the lines before it, and cutting the text from there to its line feed gives it. -/
structure IsLine (s : Source) (raws : List (List Char)) (i : Nat) (raw : List Char) : Prop where
  shown : ∃ shown, s.line? i = some shown ∧
    (raw = shown ++ ['\r'] ∨ raw = shown ∧ raw.getLast? ≠ some '\r')
  lineStart : s.lineStart? i = some (byteLength (joined (raws.take i)))
  slice : slice? ⟨byteLength (joined (raws.take i)), s.lineStop i⟩ s.text.toList = some raw
  lineStop : s.lineStop i = byteLength (joined (raws.take i)) + byteLength raw

theorem isLine_of_getElem? {i : Nat} {raw : List Char}
    (h : (splitLines s.text.toList)[i]? = some raw) :
    s.IsLine (splitLines s.text.toList) i raw := by
  obtain ⟨p, rfl, habove, rfl⟩ := exists_spot_of_line h
  have hp := s.locates p
  have hstart : p.start = byteLength (joined ((splitLines s.text.toList).take p.index)) :=
    congrArg byteLength habove
  constructor
  case shown => exact ⟨p.shown, hp.line, dropReturn_cases p.line⟩
  case lineStart => rw [← hstart, hp.lineStart]
  case slice => rw [← hstart, slice?_line p]
  case lineStop => rw [← hstart, lineStop_index p]

/-- **The lines of a source partition its text.**  There is one for each index below their number;
with a line feed between each and the next they are the text, and every offset lies on one of them
between its two ends. -/
theorem lines_partition (s : Source) :
    (∀ i, (s.line? i).isSome = true ↔ i < s.lineCount) ∧
    (∀ i, (s.lineStart? i).isSome = true ↔ i < s.lineCount) ∧
    (∀ i shown, s.line? i = some shown → '\n' ∉ shown) ∧
    ∃ raws : List (List Char), raws.length = s.lineCount ∧
      List.intercalate ['\n'] raws = s.text.toList ∧
      (∀ i raw, raws[i]? = some raw → s.IsLine raws i raw) ∧
      ∀ b i, s.lineIndex? b = some i → ∃ raw start, raws[i]? = some raw ∧
        s.lineStart? i = some start ∧ start ≤ b ∧ b ≤ start + byteLength raw := by
  have hlength : (splitLines s.text.toList).length = s.lineCount := by
    rw [length_splitLines 0, lineCount, s.breaks_eq]
  refine ⟨fun i => isSome_line?_iff, fun i => isSome_lineStart?_iff, fun i shown => not_mem_of_line?,
    splitLines s.text.toList, hlength, intercalate_splitLines _, fun i raw => isLine_of_getElem?, ?_⟩
  intro b i hindex
  obtain ⟨start, hstart, hle, hstop⟩ := between_of_line hindex
  have hi : i < (splitLines s.text.toList).length := by
    rw [hlength, ← isSome_lineStart?_iff, hstart]
    rfl
  have hraw := List.getElem?_eq_getElem hi
  have hline := isLine_of_getElem? hraw
  have heq := hstart.symm.trans hline.lineStart
  refine ⟨_, start, hraw, hstart, hle, ?_⟩
  rw [Option.some.inj heq, ← hline.lineStop]
  exact hstop

end Source

end Scriptlet
