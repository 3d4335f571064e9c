import Mathlib.Data.Finset.Dedup
import Mathlib.Data.Finset.Insert
import Scriptlet.Evaluation

/-!
# Variables: an expression has a value if and only if its variables have

`Hinges D xs r`: the result `r` fails at the first of the variables `xs` whose name is not in `D`,
and fails at nothing else.

* `Bindings.domain`      the names that have a value;
* `Expr.eval_hinges`     the value of an expression hinges on its variables, from left to right;
* `Expr.evalAll_hinges`  so for a list of expressions.
-/

namespace Scriptlet

/-! ## names that are bound -/

namespace Bindings

variable {α : Type}

def domain (b : Bindings α) : Finset String := b.names.toFinset

theorem isSome_find?_iff {name : String} {l : List (String × α)} :
    (find? name l).isSome = true ↔ name ∈ l.map (·.1) := by
  induction l with
  | nil => exact ⟨nofun, nofun⟩
  | cons p rest ih =>
    obtain ⟨k, v⟩ := p
    rw [List.map_cons, List.mem_cons, ← ih, find?]
    split
    · rename_i h
      exact ⟨fun _ => .inl h.symm, fun _ => rfl⟩
    · rename_i h
      exact ⟨.inr, fun h' => h'.resolve_left fun e => h e.symm⟩

theorem mem_domain_iff {b : Bindings α} {name : String} :
    name ∈ b.domain ↔ ∃ v, b.get? name = some v := by
  rw [domain, List.mem_toFinset, ← Option.isSome_iff_exists]
  exact isSome_find?_iff.symm

theorem get?_eq_none_iff {b : Bindings α} {name : String} :
    b.get? name = none ↔ name ∉ b.domain := by
  rw [mem_domain_iff, not_exists]
  exact Option.eq_none_iff_forall_ne_some

theorem domain_set (b : Bindings α) (name : String) (v : α) :
    (b.set name v).domain = insert name b.domain := by
  ext n
  rw [Finset.mem_insert, mem_domain_iff, mem_domain_iff]
  by_cases h : name = n
  · subst h
    rw [get?_set_self]
    exact ⟨fun _ => .inl rfl, fun _ => ⟨v, rfl⟩⟩
  · rw [get?_set_of_ne b v h]
    exact ⟨.inr, fun h' => h'.resolve_left fun e => h e.symm⟩

end Bindings

/-! ## variables of an expression -/

def Expr.vars : Expr → List Ident
  | .number _ _ => []
  | .var x _ => [x]
  | .binary _ l r _ => l.vars ++ r.vars

theorem Expr.vars_withSpan (s : Span) (e : Expr) : (e.withSpan s).vars = e.vars := by
  cases e <;> rfl

theorem Expr.vars_join (op : Operator) (l r : Expr) : (join op l r).vars = l.vars ++ r.vars := rfl

def Ident.unknownVariable (x : Ident) : RuntimeError := ⟨.unknownVariable x.name, x.span⟩

def Ident.unknownFunction (f : Ident) : RuntimeError := ⟨.unknownFunction f.name, f.span⟩

def undefined? (D : Finset String) (xs : List Ident) : Option Ident :=
  xs.find? fun x => x.name ∉ D

theorem undefined?_append (D : Finset String) (xs ys : List Ident) :
    undefined? D (xs ++ ys) = (undefined? D xs).or (undefined? D ys) := List.find?_append

theorem undefined?_eq_none_iff {D : Finset String} {xs : List Ident} :
    undefined? D xs = none ↔ ∀ x ∈ xs, x.name ∈ D := by
  simp [undefined?]

/-! ## results one after the other -/

/-- The first failure of two results, or else `f` of both. -/
def both {ε α β γ : Type} (f : α → β → γ) (r : Except ε α) (s : Except ε β) : Except ε γ :=
  match r, s with
  | .error err, _ => .error err
  | .ok _, .error err => .error err
  | .ok a, .ok b => .ok (f a b)

theorem Expr.eval_binary (ops : Arithmetic) (env : Environment) (op : Operator) (l r : Expr)
    (s : Span) :
    (binary op l r s).eval ops env = both (ops op) (l.eval ops env) (r.eval ops env) := by
  rw [eval]
  cases l.eval ops env with
  | error err => rfl
  | ok a => cases r.eval ops env <;> rfl

theorem Expr.evalAll_cons (ops : Arithmetic) (env : Environment) (e : Expr) (es : List Expr) :
    evalAll ops env (e :: es) = both List.cons (e.eval ops env) (evalAll ops env es) := by
  rw [evalAll]
  cases e.eval ops env with
  | error err => rfl
  | ok v => cases evalAll ops env es <;> rfl

/-! ## results that hinge on variables -/

section
variable {α β γ : Type} {D : Finset String} {xs ys : List Ident}

/-- The result fails at the first variable that is not among the names, and at nothing else. -/
def Hinges (D : Finset String) (xs : List Ident) (r : Except RuntimeError α) : Prop :=
  match undefined? D xs with
  | some x => r = .error x.unknownVariable
  | none => ∃ a, r = .ok a

theorem hinges_ok (a : α) : Hinges D [] (.ok a) := ⟨a, rfl⟩

theorem Hinges.error {r : Except RuntimeError α} (h : Hinges D xs r) {x : Ident}
    (hx : undefined? D xs = some x) : r = .error x.unknownVariable := by
  unfold Hinges at h
  rw [hx] at h
  exact h

theorem Hinges.ok {r : Except RuntimeError α} (h : Hinges D xs r) (hxs : undefined? D xs = none) :
    ∃ a, r = .ok a := by
  unfold Hinges at h
  rw [hxs] at h
  exact h

theorem Hinges.both {r : Except RuntimeError α} {s : Except RuntimeError β} (f : α → β → γ)
    (hr : Hinges D xs r) (hs : Hinges D ys s) : Hinges D (xs ++ ys) (both f r s) := by
  unfold Hinges
  rw [undefined?_append]
  cases hxs : undefined? D xs with
  | some x =>
    rw [hr.error hxs]
    rfl
  | none =>
    obtain ⟨a, rfl⟩ := hr.ok hxs
    rw [Option.none_or]
    cases hys : undefined? D ys with
    | some y =>
      rw [hs.error hys]
      rfl
    | none =>
      obtain ⟨b, rfl⟩ := hs.ok hys
      exact ⟨f a b, rfl⟩

end

variable (ops : Arithmetic) (env : Environment)

/-- **The value of an expression hinges on its variables.** -/
theorem Expr.eval_hinges (e : Expr) : Hinges env.domain e.vars (e.eval ops env) := by
  induction e with
  | number v s => exact hinges_ok v
  | var x s =>
    show Hinges env.domain [x] _
    unfold Hinges undefined? eval
    by_cases hx : x.name ∈ env.domain
    · obtain ⟨v, hv⟩ := Bindings.mem_domain_iff.mp hx
      rw [List.find?_cons_of_neg (by simpa using hx), hv]
      exact ⟨v, rfl⟩
    · rw [List.find?_cons_of_pos (by simpa using hx), Bindings.get?_eq_none_iff.mpr hx]
      rfl
  | binary op l r s ihl ihr =>
    rw [eval_binary]
    exact ihl.both (ops op) ihr

theorem Expr.evalAll_hinges (es : List Expr) :
    Hinges env.domain (es.flatMap Expr.vars) (evalAll ops env es) := by
  induction es with
  | nil => exact hinges_ok []
  | cons e es ih =>
    rw [evalAll_cons]
    exact (e.eval_hinges ops env).both List.cons ih

end Scriptlet
