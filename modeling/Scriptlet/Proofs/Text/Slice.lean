import Scriptlet.Span
import Scriptlet.Text.Bytes

/-!
# Slices: the part of a text that a span covers

`slice? s cs` is the text from the byte `s.start` up to the byte `s.stop`; there is none when a
bound lies inside a character or beyond the text, or when the bounds are reversed.

* `slice?_eq_some_iff`   a slice is what stands between two parts of known lengths;
* `isBoundary_of_slice?` both bounds of a slice lie between characters;
* `replace?_append`      another text may stand in its place, between the same parts.
-/

namespace Scriptlet.Text

/-- The text after the first `n` bytes: `none` if the text is shorter or `n` lies inside a
character. -/
def dropBytes? : Nat → List Char → Option (List Char)
  | 0, cs => some cs
  | _ + 1, [] => none
  | n + 1, c :: cs => if c.utf8Size ≤ n + 1 then dropBytes? (n + 1 - c.utf8Size) cs else none

def isBoundary (n : Nat) (cs : List Char) : Bool := (dropBytes? n cs).isSome

def slice? (s : Span) (cs : List Char) : Option (List Char) :=
  if s.start ≤ s.stop then (dropBytes? s.start cs).bind (takeBytes? (s.stop - s.start)) else none

theorem dropBytes?_zero (cs : List Char) : dropBytes? 0 cs = some cs := by cases cs <;> rfl

private theorem utf8Size_le_byteLength_cons (c : Char) (a : List Char) :
    ∃ n, byteLength (c :: a) = n + 1 ∧ c.utf8Size ≤ n + 1 ∧ n + 1 - c.utf8Size = byteLength a := by
  have hc := byteLength_cons c a
  have hpos := c.utf8Size_pos
  exact ⟨c.utf8Size + byteLength a - 1, by omega, by omega, by omega⟩

theorem dropBytes?_append (a b : List Char) : dropBytes? (byteLength a) (a ++ b) = some b := by
  induction a with
  | nil => exact dropBytes?_zero b
  | cons c a ih =>
    obtain ⟨n, hn, hle, hsub⟩ := utf8Size_le_byteLength_cons c a
    rw [hn, List.cons_append, dropBytes?, if_pos hle, hsub, ih]

theorem dropBytes?_eq_some_iff {n : Nat} {cs b : List Char} :
    dropBytes? n cs = some b ↔ ∃ a, cs = a ++ b ∧ byteLength a = n := by
  constructor
  · intro h
    induction cs generalizing n with
    | nil =>
      cases n with
      | zero => exact ⟨[], Option.some.inj h, rfl⟩
      | succ n => cases h
    | cons c cs ih =>
      cases n with
      | zero => exact ⟨[], Option.some.inj h, rfl⟩
      | succ n =>
        rw [dropBytes?] at h
        split at h
        · obtain ⟨a, rfl, ha⟩ := ih h
          exact ⟨c :: a, rfl, by rw [byteLength_cons]; omega⟩
        · cases h
  · intro h
    obtain ⟨a, rfl, rfl⟩ := h
    exact dropBytes?_append a b

theorem takeBytes?_eq_some_iff {n : Nat} {cs a : List Char} :
    takeBytes? n cs = some a ↔ ∃ b, cs = a ++ b ∧ byteLength a = n := by
  constructor
  · intro h
    induction cs generalizing n a with
    | nil =>
      cases n with
      | zero => cases h; exact ⟨[], rfl, rfl⟩
      | succ n => cases h
    | cons c cs ih =>
      cases n with
      | zero => cases h; exact ⟨c :: cs, rfl, rfl⟩
      | succ n =>
        rw [takeBytes?] at h
        split at h
        · obtain ⟨a, ha, rfl⟩ := Option.map_eq_some_iff.mp h
          obtain ⟨b, rfl, hb⟩ := ih ha
          exact ⟨b, rfl, by rw [byteLength_cons]; omega⟩
        · cases h
  · intro h
    obtain ⟨b, rfl, rfl⟩ := h
    exact takeBytes?_append a b

theorem isBoundary_iff {n : Nat} {cs : List Char} :
    isBoundary n cs = true ↔ ∃ a b, cs = a ++ b ∧ byteLength a = n := by
  unfold isBoundary
  rw [Option.isSome_iff_exists]
  constructor
  · intro h
    obtain ⟨b, h⟩ := h
    obtain ⟨a, hcs, ha⟩ := dropBytes?_eq_some_iff.mp h
    exact ⟨a, b, hcs, ha⟩
  · intro h
    obtain ⟨a, b, hcs, ha⟩ := h
    exact ⟨b, dropBytes?_eq_some_iff.mpr ⟨a, hcs, ha⟩⟩

theorem slice?_eq_some_iff {s : Span} {cs xs : List Char} :
    slice? s cs = some xs ↔
      ∃ a b, cs = a ++ xs ++ b ∧ s = ⟨byteLength a, byteLength a + byteLength xs⟩ := by
  obtain ⟨i, j⟩ := s
  unfold slice?
  constructor
  · intro h
    split at h
    · rename_i hij
      obtain ⟨bs, hd, ht⟩ := Option.bind_eq_some_iff.mp h
      obtain ⟨a, rfl, rfl⟩ := dropBytes?_eq_some_iff.mp hd
      obtain ⟨b, rfl, hx⟩ := takeBytes?_eq_some_iff.mp ht
      have hj : j = byteLength a + byteLength xs := by
        simp only at hij hx
        omega
      exact ⟨a, b, (List.append_assoc a xs b).symm, by rw [hj]⟩
    · cases h
  · intro h
    obtain ⟨a, b, rfl, h⟩ := h
    cases h
    rw [if_pos (Nat.le_add_right _ _), List.append_assoc, dropBytes?_append, Option.bind_some,
      Nat.add_sub_cancel_left, takeBytes?_append]

theorem slice?_append_iff {pre cs xs : List Char} {stop : Nat} :
    slice? ⟨byteLength pre, stop⟩ (pre ++ cs) = some xs ↔
      ∃ b, cs = xs ++ b ∧ stop = byteLength pre + byteLength xs := by
  unfold slice?
  rw [dropBytes?_append, Option.bind_some]
  split
  · rename_i hle
    rw [takeBytes?_eq_some_iff]
    refine exists_congr fun b => and_congr_right fun _ => ?_
    simp only at hle ⊢
    omega
  · rename_i hlt
    simp only at hlt
    refine iff_of_false nofun ?_
    rintro ⟨b, -, rfl⟩
    omega

theorem byteLength_eq_zero_iff {cs : List Char} : byteLength cs = 0 ↔ cs = [] := by
  cases cs with
  | nil => exact iff_of_true rfl rfl
  | cons c cs =>
    have hc := c.utf8Size_pos
    rw [byteLength_cons]
    exact iff_of_false (by omega) nofun

theorem isBoundary_of_slice? {s : Span} {cs xs : List Char} (h : slice? s cs = some xs) :
    isBoundary s.start cs = true ∧ isBoundary s.stop cs = true := by
  obtain ⟨a, b, rfl, rfl⟩ := slice?_eq_some_iff.mp h
  constructor
  · exact isBoundary_iff.mpr ⟨a, xs ++ b, List.append_assoc a xs b, rfl⟩
  · exact isBoundary_iff.mpr ⟨a ++ xs, b, rfl, byteLength_append a xs⟩

/-- The text with `ys` in place of what the span covers: `none` where it covers no part of it. -/
def replace? (s : Span) (ys cs : List Char) : Option (List Char) :=
  if s.start ≤ s.stop then
    (takeBytes? s.start cs).bind fun a => (dropBytes? s.stop cs).map fun b => a ++ ys ++ b
  else none

theorem replace?_append (a x b ys : List Char) :
    replace? ⟨byteLength a, byteLength a + byteLength x⟩ ys (a ++ x ++ b)
      = some (a ++ ys ++ b) := by
  have hbefore : takeBytes? (byteLength a) (a ++ x ++ b) = some a := by
    rw [List.append_assoc]
    exact takeBytes?_append a (x ++ b)
  have hafter : dropBytes? (byteLength a + byteLength x) (a ++ x ++ b) = some b := by
    rw [← byteLength_append]
    exact dropBytes?_append (a ++ x) b
  unfold replace?
  rw [if_pos (Nat.le_add_right _ _), hbefore, hafter]
  rfl

end Scriptlet.Text
