import Scriptlet.Number.Decimal
import Scriptlet.Proofs.Token.Lexeme

/-!
# Decimals: what is written is read back, and which texts are decimals

* `Decimal.ofChars?_chars`  reading undoes writing, for every decimal;
* `Decimal.isSome_ofChars?` digits and points that start with a digit are a decimal if and only if
                            there is one point at most.
-/

namespace Scriptlet.Decimal

open Token (isNumberChar)

/-! ### reading what is written -/

theorem isDigit_of_mem_toDigits {n : Nat} {c : Char} (h : c ∈ Nat.toDigits 10 n) :
    c.isDigit = true :=
  Nat.isDigit_of_mem_toDigits (by decide) (by decide) h

theorem isDigit_of_mem_padded {k n : Nat} {c : Char} (h : c ∈ padded k n) : c.isDigit = true := by
  obtain h | h := List.mem_append.mp h
  · rw [List.eq_of_mem_replicate h]
    decide
  · exact isDigit_of_mem_toDigits h

theorem length_padded {k n : Nat} (hk : 0 < k) (h : n < Nat.pow 10 k) :
    (padded k n).length = k := by
  have hlen := (Nat.length_toDigits_le_iff (by decide) hk).mpr h
  rw [padded, List.length_append, List.length_replicate]
  omega

theorem ofDigitChars_padded (k n : Nat) : Nat.ofDigitChars 10 (padded k n) 0 = n := by
  rw [padded, Nat.ofDigitChars_append, Nat.ofDigitChars_replicate_zero, Nat.mul_zero,
    Nat.ofDigitChars_ten_toDigits]

theorem mod_pow_lt (n p : Nat) : n % Nat.pow 10 p < Nat.pow 10 p :=
  Nat.mod_lt _ (Nat.pow_pos (by decide))

theorem ofDigitChars_toDigits_append_padded {p : Nat} (hp : 0 < p) (n : Nat) :
    Nat.ofDigitChars 10 (Nat.toDigits 10 (n / Nat.pow 10 p) ++ padded p (n % Nat.pow 10 p)) 0
      = n := by
  rw [Nat.ofDigitChars_append, Nat.ofDigitChars_ten_toDigits, Nat.ofDigitChars_eq_ofDigitChars_zero,
    ofDigitChars_padded, length_padded hp (mod_pow_lt n p)]
  exact Nat.div_add_mod n (Nat.pow 10 p)

private theorem ends_isDigit_point (places : List Char) :
    Token.Ends Char.isDigit ('.' :: places) :=
  Token.ends_cons.mpr (by decide)

theorem ofChars?_of_digits {ds : List Char} (hne : ds ≠ []) (hds : ∀ c ∈ ds, c.isDigit = true) :
    ofChars? ds = some ⟨Nat.ofDigitChars 10 ds 0, 0⟩ := by
  have htake := Token.takeWhile_append_of_ends hds (Token.ends_nil _)
  have hdrop := Token.dropWhile_append_of_ends hds (Token.ends_nil _)
  rw [List.append_nil] at htake hdrop
  unfold ofChars?
  simp only [htake, hdrop]
  rw [List.isEmpty_eq_false_iff.mpr hne]
  rfl

theorem ofChars?_of_point {whole places : List Char} (hne : whole ≠ [])
    (hw : ∀ c ∈ whole, c.isDigit = true) :
    ofChars? (whole ++ '.' :: places) =
      if places.all Char.isDigit then
        some ⟨Nat.ofDigitChars 10 (whole ++ places) 0, places.length⟩
      else none := by
  have htake := Token.takeWhile_append_of_ends hw (ends_isDigit_point places)
  have hdrop := Token.dropWhile_append_of_ends hw (ends_isDigit_point places)
  have happ : (whole ++ places).isEmpty = false := by
    rw [List.isEmpty_eq_false_iff]
    exact List.append_ne_nil_of_left_ne_nil hne _
  unfold ofChars?
  simp only [htake, hdrop, happ, decide_true, Bool.true_and, Bool.not_false, Bool.and_true]

/-- **Reading undoes writing.** -/
theorem ofChars?_chars (d : Decimal) : ofChars? d.chars = some d := by
  obtain ⟨n, p⟩ := d
  unfold chars
  split
  · rename_i hp
    simp only at hp
    rw [ofChars?_of_digits Nat.toDigits_ne_nil (fun _ => isDigit_of_mem_toDigits),
      Nat.ofDigitChars_ten_toDigits, hp]
  · rename_i hp
    have hpos : 0 < p := Nat.pos_of_ne_zero hp
    have hall : (padded p (n % Nat.pow 10 p)).all Char.isDigit = true :=
      List.all_eq_true.mpr fun _ => isDigit_of_mem_padded
    rw [ofChars?_of_point Nat.toDigits_ne_nil (fun _ => isDigit_of_mem_toDigits), if_pos hall,
      ofDigitChars_toDigits_append_padded hpos,
      length_padded hpos (mod_pow_lt n p)]

/-! ### which texts are decimals -/

private theorem count_point_of_digits {ds : List Char} (h : ∀ c ∈ ds, c.isDigit = true) :
    ds.count '.' = 0 := by
  rw [List.count_eq_zero]
  intro hmem
  exact absurd (h _ hmem) (by decide)

/-- Digits and points that start with a digit are a decimal if there is one point at most, and only
then. -/
theorem isSome_ofChars? {ch : Char} {tail : List Char} (hch : ch.isDigit = true)
    (htail : ∀ c ∈ tail, isNumberChar c = true) :
    (ofChars? (ch :: tail)).isSome = true ↔ (ch :: tail).count '.' ≤ 1 := by
  have hcs : tail.takeWhile Char.isDigit ++ tail.dropWhile Char.isDigit = tail :=
    List.takeWhile_append_dropWhile
  have hw : ∀ c ∈ ch :: tail.takeWhile Char.isDigit, c.isDigit = true :=
    List.forall_mem_cons.mpr ⟨hch, List.all_eq_true.mp List.all_takeWhile⟩
  have hend := Token.ends_dropWhile Char.isDigit tail
  generalize tail.takeWhile Char.isDigit = whole at hcs hw
  generalize tail.dropWhile Char.isDigit = rest at hcs hend
  have hzero := count_point_of_digits hw
  cases rest with
  | nil =>
    rw [List.append_nil] at hcs
    rw [← hcs, ofChars?_of_digits (List.cons_ne_nil _ _) hw, hzero]
    exact ⟨fun _ => Nat.zero_le _, fun _ => rfl⟩
  | cons c places =>
    have hc : c = '.' := by
      have hn : isNumberChar c = true := htail c (by rw [← hcs]; simp)
      rw [isNumberChar, Bool.or_eq_true, Token.ends_cons.mp hend, beq_iff_eq] at hn
      exact hn.resolve_left Bool.false_ne_true
    have hcount : (ch :: tail).count '.' = places.count '.' + 1 := by
      rw [← hcs, ← List.cons_append, List.count_append, hzero, hc, List.count_cons_self,
        Nat.zero_add]
    have hplaces : places.all Char.isDigit = true ↔ places.count '.' = 0 := by
      constructor
      · exact fun h => count_point_of_digits (List.all_eq_true.mp h)
      · intro h
        refine List.all_eq_true.mpr fun c' hc' => ?_
        have hn : isNumberChar c' = true := htail c' (by rw [← hcs]; simp [hc'])
        rw [isNumberChar, Bool.or_eq_true, beq_iff_eq] at hn
        exact hn.resolve_right fun h' => List.count_eq_zero.mp h (h' ▸ hc')
    rw [hcount, ← hcs, hc, ← List.cons_append, ofChars?_of_point (List.cons_ne_nil _ _) hw]
    split
    · rename_i h
      have hp := hplaces.mp h
      exact ⟨fun _ => by omega, fun _ => rfl⟩
    · rename_i h
      have hp : places.count '.' ≠ 0 := fun h' => h (hplaces.mpr h')
      exact ⟨fun h' => (by cases h'), fun h' => by omega⟩

end Scriptlet.Decimal
