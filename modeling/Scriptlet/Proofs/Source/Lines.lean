import Scriptlet.Proofs.Source.Positions
import Scriptlet.Proofs.Text.Slice

/-!
# Lines: where a spot of a text is, and what its line is

A `Spot` is between two characters of a text and cuts it in four: the lines above, the line of the
spot up to it and from it on, and what is below that line.

* `exists_spot`     there is one at every offset between characters;
* `Source.Locates`  a source tells its line (by the line feeds above), where this line starts, the
                    position of the spot, the line as it is shown and the part before the spot;
* `Source.locates`  and it does so for every spot of its text.
-/

namespace Scriptlet

open Text

/-! ## lines -/

theorem length_lineBreaks (n : Nat) (cs : List Char) :
    (lineBreaks n cs).length = cs.count '\n' := by
  rw [lineBreaks_eq, List.length_idxsOf, count_bytes]

/-- The lines are what stands between the line feeds. -/
theorem splitLines_eq_splitOn (cs : List Char) : splitLines cs = cs.splitOn '\n' := by
  induction cs with
  | nil => rfl
  | cons c cs ih =>
    rw [List.splitOn_cons_eq_if_modifyHead, ← ih]
    unfold splitLines
    rw [List.foldr_cons]
    split
    · rename_i hc
      rw [if_pos (beq_iff_eq.mpr hc)]
    · rename_i hc
      rw [if_neg (fun h => hc (beq_iff_eq.mp h))]
      split
      · rename_i hnil
        exact absurd hnil (splitLines_ne_nil cs)
      · rename_i hcons
        rw [hcons]
        rfl

theorem mem_of_mem_dropReturn {c : Char} {line : List Char} (h : c ∈ dropReturn line) :
    c ∈ line := by
  unfold dropReturn at h
  split at h
  · exact (List.dropLast_sublist line).subset h
  · exact h

/-- At most one character is dropped from a line, and it is a carriage return. -/
theorem dropReturn_cases (line : List Char) :
    line = dropReturn line ++ ['\r'] ∨ line = dropReturn line ∧ line.getLast? ≠ some '\r' := by
  unfold dropReturn
  split
  · rename_i h
    obtain ⟨shown, rfl⟩ := List.getLast?_eq_some_iff.mp h
    exact .inl (by rw [List.dropLast_concat])
  · rename_i h
    exact .inr ⟨rfl, h⟩

/-! ## spots -/

/-- a place between two characters of a text, with what is around it -/
structure Spot (cs : List Char) where
  /-- the lines above -/
  above : List Char
  /-- the line of the spot, up to it -/
  before : List Char
  /-- the rest of that line -/
  after : List Char
  below : List Char
  text_eq : cs = above ++ (before ++ after ++ below)
  above_whole : above = [] ∨ ∃ lines, above = lines ++ ['\n']
  not_mem_before : '\n' ∉ before
  not_mem_after : '\n' ∉ after
  below_whole : below = [] ∨ ∃ lines, below = '\n' :: lines

namespace Spot

variable {cs : List Char} (p : Spot cs)

def start : Nat := byteLength p.above

def offset : Nat := p.start + byteLength p.before

def index : Nat := p.above.count '\n'

def line : List Char := p.before ++ p.after

def shown : List Char := dropReturn p.line

def position : Position := ⟨p.index + 1, byteLength p.before + 1⟩

theorem not_mem_line : '\n' ∉ p.line := by
  rw [line, List.mem_append, not_or]
  exact ⟨p.not_mem_before, p.not_mem_after⟩

theorem not_mem_shown : '\n' ∉ p.shown := fun h => p.not_mem_line (mem_of_mem_dropReturn h)

/-- The line of the spot comes after as many lines as there are line feeds above. -/
theorem getElem?_splitLines : (splitLines cs)[p.index]? = some p.line := by
  have hline : ∃ rest, (p.line ++ p.below).splitOn '\n' = p.line :: rest := by
    have hwhole := List.splitOn_eq_singleton p.not_mem_line
    obtain hbelow | ⟨lines, hbelow⟩ := p.below_whole
    · exact ⟨[], by rw [hbelow, List.append_nil, hwhole]⟩
    · refine ⟨lines.splitOn '\n', ?_⟩
      rw [hbelow, List.splitOn_append_cons_self, hwhole, List.singleton_append]
  obtain ⟨rest, hrest⟩ := hline
  have htext : splitLines cs = (p.above ++ (p.line ++ p.below)).splitOn '\n' := by
    rw [splitLines_eq_splitOn]
    exact congrArg (List.splitOn '\n') p.text_eq
  rw [htext, index]
  -- What is above has no line, or one line for each of its line feeds: the last one ends it.
  obtain habove | ⟨lines, habove⟩ := p.above_whole
  · rw [habove, List.nil_append, hrest]
    rfl
  · have hlength : (lines.splitOn '\n').length = lines.count '\n' + 1 := by
      rw [← splitLines_eq_splitOn, length_splitLines 0, length_lineBreaks]
    rw [habove, List.append_assoc, List.singleton_append, List.splitOn_append_cons_self, hrest,
      List.count_append, List.count_singleton_self, ← hlength,
      List.getElem?_append_right (Nat.le_refl _), Nat.sub_self]
    rfl

theorem offset_le : p.offset ≤ byteLength cs := by
  have h := congrArg byteLength p.text_eq
  simp only [byteLength_append] at h
  unfold offset start
  omega

end Spot

theorem exists_first_line (cs : List Char) : ∃ after below, cs = after ++ below ∧
    '\n' ∉ after ∧ (below = [] ∨ ∃ lines, below = '\n' :: lines) := by
  induction cs with
  | nil => exact ⟨[], [], rfl, List.not_mem_nil, .inl rfl⟩
  | cons c cs ih =>
    by_cases hc : c = '\n'
    · subst hc
      exact ⟨[], '\n' :: cs, rfl, List.not_mem_nil, .inr ⟨cs, rfl⟩⟩
    · obtain ⟨after, below, rfl, hafter, hbelow⟩ := ih
      refine ⟨c :: after, below, rfl, ?_, hbelow⟩
      rw [List.mem_cons, not_or]
      exact ⟨Ne.symm hc, hafter⟩

/-- **There is a spot at every offset between characters.** -/
theorem exists_spot {n : Nat} {cs : List Char} (h : isBoundary n cs = true) :
    ∃ p : Spot cs, p.offset = n := by
  obtain ⟨a, b, rfl, rfl⟩ := isBoundary_iff.mp h
  obtain ⟨above, ha, habove, hbefore⟩ := exists_last_break '\n' a
  obtain ⟨after, below, rfl, hafter, hbelow⟩ := exists_first_line b
  refine ⟨⟨above, _, after, below, ?_, habove, hbefore, hafter, hbelow⟩, ?_⟩
  · rw [List.append_assoc, ← List.append_assoc above, ← ha]
  · rw [Spot.offset, Spot.start, ← byteLength_append, ← ha]

/-! ## what a source tells about a spot -/

namespace Source

theorem ofText_name_text (s : Source) : ofText s.name s.text = s := by
  obtain ⟨name, text, breaks, rfl⟩ := s
  rfl

structure Locates (s : Source) (p : Spot s.text.toList) : Prop where
  le : p.offset ≤ s.size
  lineIndex : s.lineIndex? p.offset = some p.index
  lineStart : s.lineStart? p.index = some p.start
  position : s.position? p.offset = some p.position
  line : s.line? p.index = some p.shown
  before : s.before? p.index p.offset = some p.before

variable (s : Source) (p : Spot s.text.toList)

theorem offset_le_size : p.offset ≤ s.size := by
  have h := p.offset_le
  rwa [byteLength_toList] at h

theorem lineIndex?_offset : s.lineIndex? p.offset = some p.index := by
  have htext : s.text.toList = (p.above ++ p.before) ++ (p.after ++ p.below) := by
    simpa only [List.append_assoc] using p.text_eq
  have hoffset : p.offset = byteLength (p.above ++ p.before) := (byteLength_append _ _).symm
  rw [lineIndex?_of_le (s.offset_le_size p), hoffset, take_bytes htext, count_bytes,
    List.count_append, List.count_eq_zero_of_not_mem p.not_mem_before, Nat.add_zero, Spot.index]

theorem lineStart?_index : s.lineStart? p.index = some p.start :=
  lineStart?_of_text p.text_eq p.above_whole

theorem before?_offset : s.before? p.index p.offset = some p.before := by
  unfold before?
  simp only [s.lineStart?_index p, p.getElem?_splitLines]
  rw [Spot.offset, Nat.add_sub_cancel_left]
  exact takeBytes?_append p.before p.after

/-- **A source tells everything about every spot of its text.** -/
theorem locates : s.Locates p where
  le := s.offset_le_size p
  lineIndex := s.lineIndex?_offset p
  lineStart := s.lineStart?_index p
  position := by
    unfold position?
    simp only [s.lineIndex?_offset p, s.lineStart?_index p]
    rw [Spot.offset, Nat.add_sub_cancel_left]
    rfl
  line := by
    unfold line?
    rw [p.getElem?_splitLines]
    rfl
  before := s.before?_offset p

variable {s p}

theorem Locates.eq_of_line (h : s.Locates p) {i start : Nat} {shown : List Char}
    (hindex : s.lineIndex? p.offset = some i) (hstart : s.lineStart? i = some start)
    (hshown : s.line? i = some shown) : i = p.index ∧ start = p.start ∧ shown = p.shown := by
  obtain rfl := Option.some.inj (h.lineIndex.symm.trans hindex)
  exact ⟨rfl, Option.some.inj (hstart.symm.trans h.lineStart),
    Option.some.inj (hshown.symm.trans h.line)⟩

end Source

end Scriptlet
