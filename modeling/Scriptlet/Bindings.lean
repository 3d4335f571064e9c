/-!
# Bindings: values under names

A list of pairs in the order of the names, by code points, each name once.  So two bindings are
equal as soon as they give the same value, or none, for every name (`Bindings.ext_get?`).
-/

namespace Scriptlet

def Ascending {α : Type} (entries : List (String × α)) : Prop :=
  entries.Pairwise fun a b => a.1 < b.1

structure Bindings (α : Type) where
  entries : List (String × α)
  ascending : Ascending entries

namespace Bindings

variable {α : Type}

def empty : Bindings α := ⟨[], List.Pairwise.nil⟩

instance : Inhabited (Bindings α) := ⟨empty⟩

def find? (name : String) : List (String × α) → Option α
  | [] => none
  | (k, v) :: rest => if k = name then some v else find? name rest

def get? (b : Bindings α) (name : String) : Option α := find? name b.entries

def contains (b : Bindings α) (name : String) : Bool := (b.get? name).isSome

def size (b : Bindings α) : Nat := b.entries.length

def isEmpty (b : Bindings α) : Bool := b.entries.isEmpty

def names (b : Bindings α) : List String := b.entries.map (·.1)

/-- puts a value in its place, instead of the one that has its name -/
def place (name : String) (v : α) : List (String × α) → List (String × α)
  | [] => [(name, v)]
  | (k, w) :: rest =>
    if name < k then (name, v) :: (k, w) :: rest
    else if k = name then (name, v) :: rest
    else (k, w) :: place name v rest

theorem mem_place {name : String} {v : α} {x : String × α} {l : List (String × α)}
    (h : x ∈ place name v l) : x = (name, v) ∨ x ∈ l := by
  induction l with
  | nil => exact Or.inl (List.mem_singleton.mp h)
  | cons p rest ih =>
    obtain ⟨k, w⟩ := p
    unfold place at h
    split at h
    · rcases List.mem_cons.mp h with h | h
      · exact Or.inl h
      · exact Or.inr h
    · split at h
      · rcases List.mem_cons.mp h with h | h
        · exact Or.inl h
        · exact Or.inr (List.mem_cons_of_mem _ h)
      · rcases List.mem_cons.mp h with h | h
        · exact Or.inr (h ▸ List.mem_cons_self)
        · exact (ih h).imp id (List.mem_cons_of_mem _)

private theorem lt_of_not_lt_of_ne {a b : String} (h : ¬ a < b) (hne : b ≠ a) : b < a := by
  by_cases h' : b < a
  · exact h'
  · exact absurd (String.le_antisymm (String.not_lt.mp h) (String.not_lt.mp h')) hne

theorem ascending_place (name : String) (v : α) {l : List (String × α)} (h : Ascending l) :
    Ascending (place name v l) := by
  induction l with
  | nil => exact List.pairwise_singleton _ _
  | cons p rest ih =>
    obtain ⟨k, w⟩ := p
    obtain ⟨hk, hrest⟩ := List.pairwise_cons.mp h
    unfold place
    split
    · rename_i hlt
      refine List.pairwise_cons.mpr ⟨fun x hx => ?_, h⟩
      rcases List.mem_cons.mp hx with rfl | hx
      · exact hlt
      · exact String.lt_trans hlt (hk x hx)
    · rename_i hnlt
      split
      · rename_i heq
        exact List.pairwise_cons.mpr ⟨fun x hx => heq ▸ hk x hx, hrest⟩
      · rename_i hne
        refine List.pairwise_cons.mpr ⟨fun x hx => ?_, ih hrest⟩
        rcases mem_place hx with rfl | hx
        · exact lt_of_not_lt_of_ne hnlt hne
        · exact hk x hx

def set (b : Bindings α) (name : String) (v : α) : Bindings α :=
  ⟨place name v b.entries, ascending_place name v b.ascending⟩

/-! ### what is found after a change -/

theorem find?_place (name : String) (v : α) (l : List (String × α)) (n : String) :
    find? n (place name v l) = if name = n then some v else find? n l := by
  induction l with
  | nil => rfl
  | cons p rest ih =>
    obtain ⟨k, w⟩ := p
    unfold place
    split
    · rfl
    · split
      · rename_i heq
        subst heq
        simp only [find?]
        split <;> rfl
      · rename_i hne
        simp only [find?, ih]
        split
        · rename_i hk
          subst hk
          rw [if_neg (fun h => hne h.symm)]
        · rfl

theorem get?_set_self (b : Bindings α) (name : String) (v : α) :
    (b.set name v).get? name = some v := by
  show find? name (place name v b.entries) = _
  rw [find?_place, if_pos rfl]

theorem get?_set_of_ne (b : Bindings α) {name n : String} (v : α) (h : name ≠ n) :
    (b.set name v).get? n = b.get? n := by
  show find? n (place name v b.entries) = _
  rw [find?_place, if_neg h]
  rfl

private theorem find?_eq_none_of_lt {n : String} {l : List (String × α)}
    (h : ∀ x ∈ l, n < x.1) : find? n l = none := by
  induction l with
  | nil => rfl
  | cons p rest ih =>
    obtain ⟨k, w⟩ := p
    have hk : n < k := h (k, w) List.mem_cons_self
    unfold find?
    rw [if_neg (fun e : k = n => String.lt_irrefl n (e ▸ hk)),
      ih fun x hx => h x (List.mem_cons_of_mem _ hx)]

private theorem ext_find? {l m : List (String × α)} (hl : Ascending l) (hm : Ascending m)
    (h : ∀ n, find? n l = find? n m) : l = m := by
  induction l generalizing m with
  | nil =>
    cases m with
    | nil => rfl
    | cons q m =>
      obtain ⟨k, w⟩ := q
      have := h k
      simp [find?] at this
  | cons p l ih =>
    obtain ⟨k, v⟩ := p
    obtain ⟨hk, hl'⟩ := List.pairwise_cons.mp hl
    cases m with
    | nil =>
      have := h k
      simp [find?] at this
    | cons q m =>
      obtain ⟨k', v'⟩ := q
      obtain ⟨hk', hm'⟩ := List.pairwise_cons.mp hm
      have e : k = k' := by
        by_cases h1 : k < k'
        · have hn : find? k ((k', v') :: m) = none := find?_eq_none_of_lt fun x hx => by
            rcases List.mem_cons.mp hx with rfl | hx
            · exact h1
            · exact String.lt_trans h1 (hk' x hx)
          have := h k
          rw [hn] at this
          simp [find?] at this
        · by_cases h2 : k' < k
          · have hn : find? k' ((k, v) :: l) = none := find?_eq_none_of_lt fun x hx => by
              rcases List.mem_cons.mp hx with rfl | hx
              · exact h2
              · exact String.lt_trans h2 (hk x hx)
            have := h k'
            rw [hn] at this
            simp [find?] at this
          · exact String.le_antisymm (String.not_lt.mp h2) (String.not_lt.mp h1)
      subst e
      have hv := h k
      simp only [find?, if_true, Option.some.injEq] at hv
      subst hv
      congr 1
      refine ih hl' hm' fun n => ?_
      by_cases hn : k = n
      · subst hn
        rw [find?_eq_none_of_lt hk, find?_eq_none_of_lt hk']
      · have := h n
        simpa only [find?, if_neg hn] using this

theorem ext_get? {a b : Bindings α} (h : ∀ n, a.get? n = b.get? n) : a = b := by
  obtain ⟨l, hl⟩ := a
  obtain ⟨m, hm⟩ := b
  cases ext_find? hl hm h
  rfl

end Bindings

end Scriptlet
