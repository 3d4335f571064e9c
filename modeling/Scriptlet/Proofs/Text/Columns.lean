import Mathlib.Tactic.SplitIfs
import Scriptlet.Proofs.Text.Classes
import Scriptlet.Text.Bytes
import Scriptlet.Text.Width

/-!
# Columns: how wide the characters of a text are

* `width_eq_length`         a text of narrow characters takes as many columns as it has characters;
* `width_toString`          the digits of a number are such a text;
* `width_le_byteLength`     no text takes more columns than bytes;
* `width_eq_byteLength_iff` it takes as many if each of its characters does.
-/

namespace Scriptlet.Text

/-! ## narrow characters -/

theorem width_eq_length {cs : List Char} (h : ∀ c ∈ cs, charWidth c = 1) : width cs = cs.length := by
  induction cs with
  | nil => rfl
  | cons c cs ih =>
    obtain ⟨hc, hcs⟩ := List.forall_mem_cons.mp h
    rw [width_cons, hc, ih hcs, List.length_cons, Nat.add_comm]

theorem charWidth_of_isDigit {c : Char} (h : c.isDigit = true) : charWidth c = 1 := by
  obtain ⟨hlo, hhi⟩ := toNat_bounds_of_isDigit h
  have hweight : weightlessRanges.covers c.toNat = false :=
    Ranges.not_covers_of_apart (r := digitRanges) (by decide +kernel)
      (covers_digitRanges_of_isDigit h)
  have hwide : wideRanges.covers c.toNat = false :=
    Ranges.not_covers_of_apart (r := digitRanges) (by decide +kernel)
      (covers_digitRanges_of_isDigit h)
  unfold charWidth
  rw [if_neg (by omega), if_neg (by omega), hweight, hwide]
  rfl

theorem width_toString (n : Nat) : width (toString n).toList = (toString n).length := by
  rw [Nat.toString_eq_ofList_toDigits, String.toList_ofList, String.length_ofList]
  refine width_eq_length fun c hc => charWidth_of_isDigit ?_
  exact Nat.isDigit_of_mem_toDigits (by decide) (by decide) hc

/-! ## columns and bytes -/

/-- Every character of ASCII takes a column, those that do not show included. -/
theorem charWidth_pos_of_utf8Size {c : Char} (h : c.utf8Size = 1) : 0 < charWidth c := by
  have hascii : c.toNat ≤ 0x7f := UInt32.le_iff_toNat_le.mp (Char.utf8Size_eq_one_iff.mp h)
  unfold charWidth
  split_ifs with hthree htwo hnone hwide
  · decide
  · decide
  · obtain ⟨p, hp, hlo, -⟩ := Ranges.exists_of_covers hnone
    have hfirst : ∀ p ∈ weightlessRanges, 0x80 ≤ p.1 := by decide +kernel
    have hle := hfirst p hp
    omega
  · decide
  · decide

theorem three_le_utf8Size {c : Char} (h : 0x800 ≤ c.toNat) : 3 ≤ c.utf8Size := by
  obtain hone | htwo | hthree | hfour := c.utf8Size_eq
  · have hle : c.toNat ≤ 0x7f := UInt32.le_iff_toNat_le.mp (Char.utf8Size_eq_one_iff.mp hone)
    omega
  · have hle : c.toNat ≤ 0x7ff := UInt32.le_iff_toNat_le.mp (Char.utf8Size_eq_two_iff.mp htwo).2
    omega
  · omega
  · omega

/-- **No character takes more columns than bytes.**  Those that take two are far beyond ASCII. -/
theorem charWidth_le_utf8Size (c : Char) : charWidth c ≤ c.utf8Size := by
  have hpos := c.utf8Size_pos
  unfold charWidth
  split_ifs with hthree htwo hnone hwide
  · exact three_le_utf8Size (by omega)
  · have hsize := three_le_utf8Size (c := c) (by omega)
    omega
  · omega
  · obtain ⟨p, hp, hlo, -⟩ := Ranges.exists_of_covers hwide
    have hfirst : ∀ p ∈ wideRanges, 0x1100 ≤ p.1 := by decide +kernel
    have hle := hfirst p hp
    have hsize := three_le_utf8Size (c := c) (by omega)
    omega
  · exact hpos

theorem width_le_byteLength (cs : List Char) : width cs ≤ byteLength cs := by
  induction cs with
  | nil => exact Nat.le_refl 0
  | cons c cs ih =>
    rw [width_cons, byteLength_cons]
    exact Nat.add_le_add (charWidth_le_utf8Size c) ih

theorem width_eq_byteLength_iff {cs : List Char} :
    width cs = byteLength cs ↔ ∀ c ∈ cs, charWidth c = c.utf8Size := by
  induction cs with
  | nil => exact iff_of_true rfl (List.forall_mem_nil _)
  | cons c cs ih =>
    rw [width_cons, byteLength_cons, List.forall_mem_cons, ← ih]
    have hc := charWidth_le_utf8Size c
    have hcs := width_le_byteLength cs
    constructor
    · intro h
      exact ⟨by omega, by omega⟩
    · intro h
      rw [h.1, h.2]

end Scriptlet.Text
