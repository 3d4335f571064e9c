import Scriptlet.Text.Blank
import Scriptlet.Text.Numeric

/-!
# Character classes: which of them have no character in common

A table of ranges is compared with another one code point by code point (`Ranges.apart`), so that
each fact below is one evaluation on the tables.
-/

namespace Scriptlet.Text

theorem Ranges.exists_of_covers {r : Ranges} {n : Nat} (h : r.covers n = true) :
    ∃ p ∈ r, p.1 ≤ n ∧ n ≤ p.2 := by
  induction r with
  | nil => cases h
  | cons p r ih =>
    obtain ⟨lo, hi⟩ := p
    rw [covers_cons, Bool.and_eq_true, Bool.or_eq_true, decide_eq_true_iff, decide_eq_true_iff] at h
    obtain ⟨hlo, hhi | hr⟩ := h
    · exact ⟨_, List.mem_cons_self, hlo, hhi⟩
    · obtain ⟨p, hp, hn⟩ := ih hr
      exact ⟨p, List.mem_cons_of_mem _ hp, hn⟩

def Ranges.apart (r q : Ranges) : Bool :=
  r.all fun p => (List.range' p.1 (p.2 + 1 - p.1)).all fun n => !q.covers n

theorem Ranges.not_covers_of_apart {r q : Ranges} (h : r.apart q = true) {n : Nat}
    (hn : r.covers n = true) : q.covers n = false := by
  obtain ⟨p, hp, hlo, hhi⟩ := exists_of_covers hn
  have hp := List.all_eq_true.mp h p hp
  have hmem : n ∈ List.range' p.1 (p.2 + 1 - p.1) := List.mem_range'_1.mpr ⟨hlo, by omega⟩
  have hq := List.all_eq_true.mp hp n hmem
  rwa [Bool.not_eq_true'] at hq

def digitRanges : Ranges := [(0x30, 0x39)]

theorem toNat_bounds_of_isDigit {c : Char} (h : c.isDigit = true) :
    0x30 ≤ c.toNat ∧ c.toNat ≤ 0x39 := by
  rw [Char.isDigit, Bool.and_eq_true, decide_eq_true_iff, decide_eq_true_iff] at h
  exact h

theorem covers_digitRanges_of_isDigit {c : Char} (h : c.isDigit = true) :
    digitRanges.covers c.toNat = true := by
  obtain ⟨hlo, hhi⟩ := toNat_bounds_of_isDigit h
  simp [digitRanges, Ranges.covers, hlo, hhi]

theorem isAlphanumeric_of_isDigit {c : Char} (h : c.isDigit = true) :
    isAlphanumeric c = true := by
  obtain ⟨hlo, hhi⟩ := toNat_bounds_of_isDigit h
  have hnumeric : isNumeric c = true := by
    rw [isNumeric, numericRanges, Ranges.covers_cons, decide_eq_true hlo, decide_eq_true hhi,
      Bool.true_or, Bool.true_and]
  rw [isAlphanumeric, hnumeric, Bool.or_true]

theorem isAlphabetic_of_isBlank {c : Char} (h : isBlank c = true) : isAlphabetic c = false :=
  Ranges.not_covers_of_apart (r := blankRanges) (by decide +kernel) h

theorem isBlank_of_isAlphabetic {c : Char} (h : isAlphabetic c = true) : isBlank c = false := by
  rw [Bool.eq_false_iff]
  intro hb
  rw [isAlphabetic_of_isBlank hb] at h
  cases h

theorem isBlank_of_isDigit {c : Char} (h : c.isDigit = true) : isBlank c = false :=
  Ranges.not_covers_of_apart (q := blankRanges) (by decide) (covers_digitRanges_of_isDigit h)

theorem isAlphabetic_of_isDigit {c : Char} (h : c.isDigit = true) : isAlphabetic c = false :=
  Ranges.not_covers_of_apart (q := alphabeticRanges) (by decide) (covers_digitRanges_of_isDigit h)

end Scriptlet.Text
