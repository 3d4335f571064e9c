import Scriptlet.Proofs.Engine.Trace
import Scriptlet.Proofs.Evaluation.Variables

/-!
# Sessions: what is done with one engine, one operation after the other

Operations register functions, run scripts, or ask what is registered.  Of all that was done before,
an answer depends on the last registration of each name and on nothing else.

* `IsLast`, `LastRegistrations`  the last registration of a name, and those of all names;
* `afterAll_eq_registerAll`      a session leaves the engine that these registrations alone make;
* `hasFunction_afterAll`         the functions that it has are those registered and those of before;
* `answers_of_history`           hence every answer in a session is that of a fresh engine.
-/

namespace Scriptlet

variable {κ : Type}

inductive Operation (κ : Type) where
  | register (name : String) (id : κ)
  | run (text : String)
  /-- A run that does not hand back its variables. -/
  | execute (text : String)
  | hasFunction (name : String)
  | functionNames

inductive Answer (κ : Type) where
  | registered
  | ran (result : Except ScriptError Environment) (trace : List (Native κ × List Number))
  | executed (error? : Option ScriptError) (trace : List (Native κ × List Number))
  | has (known : Bool)
  | names (names : List String)

namespace Engine

def answer (e : Engine κ) : Operation κ → Answer κ
  | .register _ _ => .registered
  | .run text => .ran (e.run text).result (e.trace text)
  | .execute text => .executed (e.run text).error? (e.trace text)
  | .hasFunction name => .has (e.hasFunction name)
  | .functionNames => .names e.functionNames

/-- Only a registration changes the engine. -/
def after (e : Engine κ) : Operation κ → Engine κ
  | .register name id => e.register name id
  | .run _ | .execute _ | .hasFunction _ | .functionNames => e

def afterAll (e : Engine κ) (ops : List (Operation κ)) : Engine κ := ops.foldl after e

def answers (e : Engine κ) : List (Operation κ) → List (Answer κ)
  | [] => []
  | op :: ops => e.answer op :: (e.after op).answers ops

def registerAll (e : Engine κ) (regs : List (String × κ)) : Engine κ :=
  regs.foldl (fun e reg => e.register reg.1 reg.2) e

theorem afterAll_nil (e : Engine κ) : e.afterAll [] = e := rfl
theorem afterAll_cons (e : Engine κ) (op : Operation κ) (ops : List (Operation κ)) :
    e.afterAll (op :: ops) = (e.after op).afterAll ops := rfl
theorem afterAll_append (e : Engine κ) (ops ops' : List (Operation κ)) :
    e.afterAll (ops ++ ops') = (e.afterAll ops).afterAll ops' := List.foldl_append

/-- The answer to an operation is that of the engine that the operations before it leave. -/
theorem getElem?_answers (e : Engine κ) (pre post : List (Operation κ)) (op : Operation κ) :
    (e.answers (pre ++ op :: post))[pre.length]? = some ((e.afterAll pre).answer op) := by
  induction pre generalizing e with
  | nil => rfl
  | cons first pre ih =>
    rw [List.cons_append, answers, List.length_cons, List.getElem?_cons_succ, ih, afterAll_cons]

end Engine

/-! ## last registrations -/

def Registered (ops : List (Operation κ)) (name : String) : Prop := ∃ id, .register name id ∈ ops

/-- No later operation registers the name again. -/
def IsLast (ops : List (Operation κ)) (name : String) (id : κ) : Prop :=
  ∃ before later, ops = before ++ .register name id :: later ∧ ¬ Registered later name

/-- the last registration of each name, in any order -/
structure LastRegistrations (ops : List (Operation κ)) (regs : List (String × κ)) : Prop where
  nodup : (regs.map Prod.fst).Nodup
  mem_iff : ∀ name id, (name, id) ∈ regs ↔ IsLast ops name id

section

variable {op : Operation κ} {ops : List (Operation κ)} {name : String} {id : κ}

theorem not_registered_nil : ¬ Registered ([] : List (Operation κ)) name := by
  rintro ⟨id, h⟩
  cases h

def registering (regs : List (String × κ)) : List (Operation κ) :=
  regs.map fun reg => .register reg.1 reg.2

theorem registered_cons : Registered (op :: ops) name ↔
    (∃ id, op = .register name id) ∨ Registered ops name := by
  simp only [Registered, List.mem_cons, exists_or, eq_comm]

theorem IsLast.registered (h : IsLast ops name id) : Registered ops name := by
  obtain ⟨before, later, rfl, -⟩ := h
  exact ⟨id, List.mem_append_right _ List.mem_cons_self⟩

theorem not_isLast_nil : ¬ IsLast ([] : List (Operation κ)) name id := fun h =>
  not_registered_nil h.registered

theorem isLast_cons : IsLast (op :: ops) name id ↔
    IsLast ops name id ∨ op = .register name id ∧ ¬ Registered ops name := by
  constructor
  · intro h
    obtain ⟨before, later, hops, hlater⟩ := h
    cases before with
    | nil =>
      obtain ⟨rfl, rfl⟩ := List.cons.inj hops
      exact .inr ⟨rfl, hlater⟩
    | cons first before =>
      obtain ⟨-, rfl⟩ := List.cons.inj hops
      exact .inl ⟨before, later, rfl, hlater⟩
  · intro h
    obtain ⟨before, later, rfl, hlater⟩ | ⟨rfl, hlater⟩ := h
    · exact ⟨op :: before, later, rfl, hlater⟩
    · exact ⟨[], ops, rfl, hlater⟩

theorem Registered.exists_isLast (h : Registered ops name) : ∃ id, IsLast ops name id := by
  induction ops with
  | nil => exact absurd h not_registered_nil
  | cons op ops ih =>
    by_cases hops : Registered ops name
    · obtain ⟨id, hid⟩ := ih hops
      exact ⟨id, isLast_cons.mpr (.inl hid)⟩
    · obtain ⟨id, hop⟩ := (registered_cons.mp h).resolve_right hops
      exact ⟨id, isLast_cons.mpr (.inr ⟨hop, hops⟩)⟩

theorem exists_lastRegistrations (ops : List (Operation κ)) :
    ∃ regs, LastRegistrations ops regs := by
  induction ops with
  | nil => exact ⟨[], List.nodup_nil, fun _ _ => iff_of_false List.not_mem_nil not_isLast_nil⟩
  | cons op ops ih =>
    obtain ⟨regs, hregs⟩ := ih
    -- The operation adds a registration if no later one is for the same name.
    by_cases hop : ∃ name id, op = .register name id ∧ ¬ Registered ops name
    · obtain ⟨name, id, rfl, hname⟩ := hop
      refine ⟨(name, id) :: regs, ?_, fun name' id' => ?_⟩
      · rw [List.map_cons, List.nodup_cons, List.mem_map]
        refine ⟨?_, hregs.nodup⟩
        rintro ⟨⟨_, id'⟩, hmem, rfl⟩
        exact hname ((hregs.mem_iff _ _).mp hmem).registered
      · rw [List.mem_cons, hregs.mem_iff, isLast_cons, or_comm, Prod.mk.injEq,
          Operation.register.injEq]
        refine or_congr_right ⟨?_, ?_⟩
        · rintro ⟨rfl, rfl⟩
          exact ⟨⟨rfl, rfl⟩, hname⟩
        · rintro ⟨⟨rfl, rfl⟩, -⟩
          exact ⟨rfl, rfl⟩
    · refine ⟨regs, hregs.nodup, fun name id => ?_⟩
      rw [hregs.mem_iff, isLast_cons]
      exact ⟨.inl, fun h => h.resolve_right fun h => hop ⟨name, id, h⟩⟩

theorem registered_registering {regs : List (String × κ)} :
    Registered (registering regs) name ↔ ∃ id, (name, id) ∈ regs := by
  refine exists_congr fun id => ?_
  rw [registering, List.mem_map]
  constructor
  · rintro ⟨⟨name', id'⟩, hmem, h⟩
    cases h
    exact hmem
  · intro h
    exact ⟨(name, id), h, rfl⟩

theorem isLast_registering {regs : List (String × κ)} (hnodup : (regs.map Prod.fst).Nodup)
    (h : (name, id) ∈ regs) : IsLast (registering regs) name id := by
  obtain ⟨before, later, rfl⟩ := List.append_of_mem h
  refine ⟨registering before, registering later, ?_, ?_⟩
  · rw [registering, List.map_append, List.map_cons]
    rfl
  · intro hlater
    obtain ⟨id', hmem⟩ := registered_registering.mp hlater
    rw [List.map_append, List.map_cons, List.nodup_append] at hnodup
    exact (List.nodup_cons.mp hnodup.2.1).1 (List.mem_map.mpr ⟨_, hmem, rfl⟩)

end

namespace Engine

/-! ## the table after a session -/

variable (e : Engine κ) {ops : List (Operation κ)} {name : String}

theorem get?_afterAll_of_not_registered (h : ¬ Registered ops name) :
    (e.afterAll ops).natives.get? name = e.natives.get? name := by
  induction ops generalizing e with
  | nil => rfl
  | cons op ops ih =>
    rw [registered_cons, not_or] at h
    rw [afterAll_cons, ih (e.after op) h.2]
    cases op with
    | register name' id =>
      have hne : name' ≠ name := fun hname => h.1 ⟨id, by rw [hname]⟩
      exact Bindings.get?_set_of_ne _ _ hne
    | run | execute | hasFunction | functionNames => rfl

theorem get?_afterAll_of_isLast {id : κ} (h : IsLast ops name id) :
    (e.afterAll ops).natives.get? name = some (.host id) := by
  obtain ⟨before, later, rfl, hlater⟩ := h
  rw [afterAll_append, afterAll_cons, get?_afterAll_of_not_registered _ hlater]
  exact Bindings.get?_set_self _ _ _

theorem registerAll_eq (regs : List (String × κ)) :
    e.registerAll regs = e.afterAll (registering regs) := by
  rw [registerAll, afterAll, registering, List.foldl_map]
  rfl

theorem ext_get? {e e' : Engine κ} (h : ∀ name, e.natives.get? name = e'.natives.get? name) :
    e = e' := congrArg Engine.mk (Bindings.ext_get? h)

/-- **A session leaves the engine that the last registration of each name alone makes.** -/
theorem afterAll_eq_registerAll {regs : List (String × κ)} (h : LastRegistrations ops regs) :
    e.afterAll ops = e.registerAll regs := by
  rw [registerAll_eq]
  refine ext_get? fun name => ?_
  by_cases hname : Registered ops name
  · obtain ⟨id, hid⟩ := hname.exists_isLast
    have hregs := isLast_registering h.nodup ((h.mem_iff name id).mpr hid)
    rw [get?_afterAll_of_isLast e hid, get?_afterAll_of_isLast e hregs]
  · have hregs : ¬ Registered (registering regs) name := by
      rw [registered_registering]
      rintro ⟨id, hmem⟩
      exact hname ((h.mem_iff name id).mp hmem).registered
    rw [get?_afterAll_of_not_registered e hname, get?_afterAll_of_not_registered e hregs]

theorem hasFunction_afterAll :
    (e.afterAll ops).hasFunction name = true ↔ Registered ops name ∨ e.hasFunction name = true := by
  unfold hasFunction Bindings.contains
  by_cases hname : Registered ops name
  · obtain ⟨id, hid⟩ := hname.exists_isLast
    rw [get?_afterAll_of_isLast e hid]
    exact iff_of_true rfl (.inl hname)
  · rw [get?_afterAll_of_not_registered e hname]
    exact (or_iff_right hname).symm

theorem mem_functionNames : name ∈ e.functionNames ↔ e.hasFunction name = true :=
  Bindings.isSome_find?_iff.symm

theorem nodup_functionNames : e.functionNames.Nodup := by
  unfold functionNames Bindings.names
  have hascending := e.natives.ascending
  rw [List.Nodup, List.pairwise_map]
  refine hascending.imp ?_
  intro a b hlt heq
  rw [heq] at hlt
  exact String.lt_irrefl _ hlt

end Engine

/-! ## sessions -/

inductive Base where
  | empty
  | withPrint
deriving DecidableEq

def Base.engine : Base → Engine κ
  | .empty => .empty
  | .withPrint => .withPrint

theorem Base.hasFunction_engine (base : Base) (name : String) :
    (base.engine : Engine κ).hasFunction name = true ↔ base = .withPrint ∧ name = "print" := by
  cases base with
  | empty => exact iff_of_false Bool.false_ne_true nofun
  | withPrint =>
    show (((Bindings.empty : Bindings (Native κ)).set "print" .print).get? name).isSome = true ↔ _
    by_cases hname : "print" = name
    · subst hname
      rw [Bindings.get?_set_self]
      exact iff_of_true rfl ⟨rfl, rfl⟩
    · rw [Bindings.get?_set_of_ne _ _ hname]
      exact iff_of_false Bool.false_ne_true fun h => hname h.2.symm

/-- **An answer in a session depends on the last registrations before it, and on nothing else.**
It is the answer of a fresh engine on which only these are made, in any order; a run among them has
the same result and makes the same native calls.  Only a registration changes the engine.  It has
the functions that were registered, and `print` if it started with it; their names are listed once
each. -/
theorem Engine.answers_of_history (base : Base) (pre post : List (Operation κ)) :
    (∃ regs, LastRegistrations pre regs) ∧
      (∀ regs, LastRegistrations pre regs → ∀ op,
        (base.engine.answers (pre ++ op :: post))[pre.length]?
          = some ((base.engine.registerAll regs).answer op)) ∧
      (∀ op, (∀ name id, op ≠ .register name id) →
        base.engine.afterAll (pre ++ [op]) = base.engine.afterAll pre) ∧
      (∀ name, ∃ known,
        (base.engine.answers (pre ++ .hasFunction name :: post))[pre.length]? = some (.has known) ∧
        (known = true ↔ Registered pre name ∨ base = .withPrint ∧ name = "print")) ∧
      ∃ names,
        (base.engine.answers (pre ++ .functionNames :: post))[pre.length]? = some (.names names) ∧
        names.Nodup ∧
        ∀ name, name ∈ names ↔ Registered pre name ∨ base = .withPrint ∧ name = "print" := by
  have hknown (name : String) : (base.engine.afterAll pre).hasFunction name = true ↔
      Registered pre name ∨ base = .withPrint ∧ name = "print" := by
    rw [hasFunction_afterAll, base.hasFunction_engine]
  refine ⟨exists_lastRegistrations pre, fun regs hregs op => ?_, fun op hop => ?_,
    fun name => ⟨_, getElem?_answers _ pre post _, hknown name⟩,
    _, getElem?_answers _ pre post _, nodup_functionNames _, fun name => ?_⟩
  · rw [getElem?_answers, afterAll_eq_registerAll _ hregs]
  · rw [afterAll_append, afterAll_cons, afterAll_nil]
    cases op with
    | register name id => exact absurd rfl (hop name id)
    | run | execute | hasFunction | functionNames => rfl
  · rw [mem_functionNames, hknown]

/-- `print` is registered twice, and scripts fail in between. -/
theorem Engine.answers_of_history_print :
    let pre : List (Operation Nat) := [.register "print" 1, .run "function f()\x7bprint(x);\x7d",
      .register "log" 2, .execute "print(", .register "print" 3]
    LastRegistrations pre [("log", 2), ("print", 3)] ∧
      (Base.withPrint.engine.answers (pre ++ [.run "function f()\x7bprint(1);\x7d"]))[5]?
        = some ((Base.withPrint.engine.registerAll [("log", 2), ("print", 3)]).answer
          (.run "function f()\x7bprint(1);\x7d")) ∧
      (Base.withPrint.engine.afterAll (pre ++ [.run "function f()\x7bprint(1);\x7d"]))
        = Base.withPrint.engine.afterAll pre := by
  intro pre
  have hlast : LastRegistrations pre [("log", 2), ("print", 3)] := by
    refine ⟨by decide, fun name id => ?_⟩
    simp only [pre, isLast_cons, registered_cons, not_isLast_nil, not_registered_nil, List.mem_cons,
      List.not_mem_nil, Prod.mk.injEq, Operation.register.injEq, reduceCtorEq, false_or, or_false,
      false_and, exists_false, not_false_eq_true, and_true]
    constructor
    · rintro (⟨rfl, rfl⟩ | ⟨rfl, rfl⟩)
      · exact .inl (.inr ⟨⟨rfl, rfl⟩, by simp⟩)
      · exact .inl (.inl ⟨rfl, rfl⟩)
    · rintro ((⟨rfl, rfl⟩ | ⟨⟨rfl, rfl⟩, -⟩) | ⟨⟨rfl, rfl⟩, hnever⟩)
      · exact .inr ⟨rfl, rfl⟩
      · exact .inl ⟨rfl, rfl⟩
      · exact absurd (.inr ⟨3, rfl, rfl⟩) hnever
  have hall := answers_of_history Base.withPrint pre []
  exact ⟨hlast, hall.2.1 _ hlast _, hall.2.2.1 _ nofun⟩

end Scriptlet
