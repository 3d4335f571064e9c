import Scriptlet.Number.Shortest
import Scriptlet.Proofs.Number.Decimal

/-!
# Reading back: the text of a finite number is read as that number

The search for the shortest decimal takes none that does not read back, and ends in the decimal
with all digits.  That one reads back because a whole number of units, which is what it stands for,
is rounded to the magnitude that it came from (`roundUnits_units`).

* `ofText?_text`       a finite number without sign is read back from its text;
* `isUnsigned_of_ofText?`  what is read from a text has no sign and is no NaN.
-/

namespace Scriptlet.Number

/-! ### rounding whole units -/

theorem roundDiv_mul_right {d : Nat} (hd : 0 < d) (q : Nat) : roundDiv (q * d) d = q := by
  unfold roundDiv
  simp only [Nat.mul_mod_left, Nat.mul_div_cancel q hd]
  rw [if_neg]
  simp only [Nat.mul_zero, Nat.not_lt_zero, decide_false, Bool.false_or, Bool.and_eq_true,
    beq_iff_eq, not_and]
  omega

/-- A number of `k` more than 53 bits that ends in `k` zeros keeps all its bits. -/
theorem roundUnits_mul_pow {d : Nat} (hd : 0 < d) {q k : Nat} (hq : q < Nat.pow 2 53)
    (hk : 0 < k → Nat.pow 2 52 ≤ q) :
    roundUnits (q * Nat.pow 2 k * d) d = min (k * Nat.pow 2 52 + q) infinity := by
  have hscale : (q * Nat.pow 2 k * d / d).log2 - 52 = k := by
    rw [Nat.mul_div_cancel _ hd]
    rcases Nat.eq_zero_or_pos k with rfl | hpos
    · show (q * 1).log2 - 52 = 0
      rw [Nat.mul_one]
      rcases Nat.eq_zero_or_pos q with rfl | h
      · rfl
      · have hlog := (Nat.log2_lt (Nat.pos_iff_ne_zero.mp h)).mpr hq
        omega
    · have hlow := hk hpos
      have hne : q ≠ 0 := Nat.pos_iff_ne_zero.mp (Nat.lt_of_lt_of_le (Nat.two_pow_pos 52) hlow)
      have hne' : q * Nat.pow 2 k ≠ 0 :=
        Nat.mul_ne_zero hne (Nat.pos_iff_ne_zero.mp (Nat.two_pow_pos k))
      have hlog : (q * Nat.pow 2 k).log2 = 52 + k := by
        refine (Nat.log2_eq_iff hne').mpr ⟨?_, ?_⟩
        · rw [Nat.pow_add]
          exact Nat.mul_le_mul_right _ hlow
        · rw [Nat.add_right_comm, Nat.pow_add]
          exact Nat.mul_lt_mul_of_pos_right hq (Nat.two_pow_pos k)
      rw [hlog]
      omega
  have hround : roundDiv (q * Nat.pow 2 k * d) (d * Nat.pow 2 k) = q := by
    rw [Nat.mul_assoc, Nat.mul_comm (Nat.pow 2 k) d]
    exact roundDiv_mul_right (Nat.mul_pos hd (Nat.two_pow_pos k)) q
  unfold roundUnits
  simp only [hscale, hround]

/-- The units of a finite number are rounded to its magnitude. -/
theorem roundUnits_units {x : Number} (hx : x.isFinite = true) {d : Nat} (hd : 0 < d) :
    roundUnits (x.units * d) d = x.magnitude := by
  have hfin : x.magnitude < infinity := of_decide_eq_true hx
  have h52 : Nat.pow 2 52 = 0x10000000000000 := rfl
  have h53 : Nat.pow 2 53 = 0x20000000000000 := rfl
  unfold units
  generalize x.magnitude = m at hfin ⊢
  simp only [h52]
  rw [roundUnits_mul_pow hd (by rw [h53]; omega) (by rw [h52]; omega), h52]
  omega

theorem infinity_lt : infinity < Nat.pow 2 63 := by decide

theorem toNat_ofNat {m : Nat} (hm : m < Nat.pow 2 63) : (UInt64.ofNat m).toNat = m :=
  UInt64.toNat_ofNat_of_lt' (Nat.lt_trans hm (by decide))

theorem magnitude_ofMagnitude {m : Nat} (hm : m < Nat.pow 2 63) :
    (ofMagnitude false m).magnitude = m := by
  show (UInt64.ofNat m).toNat % Nat.pow 2 63 = m
  rw [toNat_ofNat hm, Nat.mod_eq_of_lt hm]

theorem isNegative_ofMagnitude {m : Nat} (hm : m < Nat.pow 2 63) :
    (ofMagnitude false m).isNegative = false := by
  show decide (Nat.pow 2 63 ≤ (UInt64.ofNat m).toNat) = false
  rw [toNat_ofNat hm]
  exact decide_eq_false (Nat.not_le.mpr hm)

theorem ofMagnitude_magnitude {x : Number} (hx : x.isNegative = false) :
    ofMagnitude false x.magnitude = x := by
  have hlt : x.bits.toNat < Nat.pow 2 63 := Nat.not_le.mp (of_decide_eq_false hx)
  obtain ⟨bits⟩ := x
  show (⟨UInt64.ofNat (bits.toNat % Nat.pow 2 63)⟩ : Number) = ⟨bits⟩
  rw [Nat.mod_eq_of_lt hlt, UInt64.ofNat_toNat]

theorem roundUnits_le (n d : Nat) : roundUnits n d ≤ infinity := Nat.min_le_right _ _

/-! ### decimals as numbers -/

theorem toNumber_eq (d : Decimal) :
    d.toNumber =
      ofMagnitude false (roundUnits (d.digits * Nat.pow 2 1074) (Nat.pow 10 d.places)) := by
  unfold Decimal.toNumber ofRatio
  rfl

theorem magnitude_toNumber (d : Decimal) :
    d.toNumber.magnitude = roundUnits (d.digits * Nat.pow 2 1074) (Nat.pow 10 d.places) := by
  rw [toNumber_eq, magnitude_ofMagnitude (Nat.lt_of_le_of_lt (roundUnits_le _ _) infinity_lt)]

theorem toNumber_eq_ofMagnitude (d : Decimal) :
    d.toNumber = ofMagnitude false d.toNumber.magnitude := by
  rw [magnitude_toNumber, ← toNumber_eq]

/-- A decimal that reads back as a number without sign is read as that number. -/
theorem toNumber_of_readsAs {x : Number} {d : Decimal} (h : x.readsAs d = true)
    (hx : x.isNegative = false) : d.toNumber = x := by
  have hm : d.toNumber.magnitude = x.magnitude := beq_iff_eq.mp h
  rw [toNumber_eq_ofMagnitude, hm, ofMagnitude_magnitude hx]

private theorem mul_five_mul_two (u k : Nat) :
    u * Nat.pow 5 k * Nat.pow 2 k = u * Nat.pow 10 k := by
  rw [Nat.mul_assoc]
  exact congrArg (u * ·) (Nat.mul_pow 5 2 k).symm

-- The power is a variable here, so that no step compares powers of a numeral unary step by step.
private theorem roundUnits_allDigits {x : Number} (hx : x.isFinite = true) {d : Decimal} {k : Nat}
    (hd : d = ⟨x.units * Nat.pow 5 k, k⟩) :
    roundUnits (d.digits * Nat.pow 2 k) (Nat.pow 10 d.places) = x.magnitude := by
  rw [hd, mul_five_mul_two]
  exact roundUnits_units hx (Nat.pow_pos (by decide))

theorem readsAs_exact {x : Number} (hx : x.isFinite = true) : x.readsAs x.exact = true := by
  have hm := magnitude_toNumber x.exact
  have hexact : x.exact = ⟨x.units * Nat.pow 5 1074, 1074⟩ := rfl
  generalize 1074 = k at hm hexact
  exact beq_iff_eq.mpr (hm.trans (roundUnits_allDigits hx hexact))

private theorem readsAs_findSome? {ι : Type} {x : Number} {e : Decimal} (he : x.readsAs e = true)
    (grids : List ι) (points : ι → List Decimal) :
    x.readsAs ((grids.findSome? fun i => (points i).find? x.readsAs).getD e) = true := by
  cases hhit : grids.findSome? fun i => (points i).find? x.readsAs with
  | none => exact he
  | some d =>
    obtain ⟨i, -, hi⟩ := List.exists_of_findSome?_eq_some hhit
    exact List.find?_some hi

theorem shortest_eq (x : Number) :
    x.shortest =
      ((List.range 17).findSome? fun (i : Nat) =>
        (around x.units (Nat.pow 2 1074)
          (leading x.units (Nat.pow 2 1074) - 1 - i)).find? x.readsAs).getD x.exact := by
  unfold shortest
  rfl

theorem readsAs_shortest {x : Number} (hx : x.isFinite = true) : x.readsAs x.shortest = true := by
  rw [shortest_eq]
  exact readsAs_findSome? (readsAs_exact hx) _ _

/-! ### texts of numbers -/

def IsPlain (x : Number) : Prop := x.isFinite = true ∧ x.isNegative = false

def IsUnsigned (x : Number) : Prop := x.isNegative = false ∧ x.isNaN = false

theorem isUnsigned_of_ofText? {s : String} {x : Number} (h : ofText? s = some x) :
    x.IsUnsigned := by
  obtain ⟨d, -, rfl⟩ := Option.map_eq_some_iff.mp h
  have hle : d.toNumber.magnitude ≤ infinity := magnitude_toNumber d ▸ roundUnits_le _ _
  refine ⟨?_, decide_eq_false (Nat.not_lt.mpr hle)⟩
  rw [toNumber_eq_ofMagnitude]
  exact isNegative_ofMagnitude (Nat.lt_of_le_of_lt hle infinity_lt)

theorem text_of_finite {x : Number} (hx : x.isFinite = true) (hs : x.isNegative = false) :
    x.text = String.ofList x.shortest.chars := by
  have hfin : x.magnitude < infinity := of_decide_eq_true hx
  have hnan : x.isNaN = false := decide_eq_false (by omega)
  have hinf : x.isInfinite = false := beq_eq_false_iff_ne.mpr (by omega)
  unfold text
  simp only [hnan, hinf, hs, Bool.false_eq_true, if_false]

/-- **A finite number without sign is read back from its text.** -/
theorem ofText?_text {x : Number} (hx : x.isFinite = true) (hs : x.isNegative = false) :
    ofText? x.text = some x := by
  rw [text_of_finite hx hs, ofText?, String.toList_ofList, Decimal.ofChars?_chars, Option.map_some,
    toNumber_of_readsAs (readsAs_shortest hx) hs]

end Scriptlet.Number
