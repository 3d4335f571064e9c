import Scriptlet.Engine

/-!
# Traces: the native calls of a run, one after the other

The outcome of a run keeps what `print` logs apart from what the host is told.  The trace has all
calls of native functions with all their arguments, in the order in which they are made.

* `run_log_eq`, `run_calls_eq`  both parts of the outcome are read off the trace;
* `known_of_mem_scriptCalls`    a script calls only functions that the engine has.
-/

namespace Scriptlet

def Native.logged? {κ : Type} : Native κ × List Number → Option String
  | (.print, args) => args.head?.map Number.text
  | (.host _, _) => none

def Native.told? {κ : Type} : Native κ × List Number → Option (κ × List Number)
  | (.print, _) => none
  | (.host id, args) => some (id, args)

namespace Engine

variable {κ : Type} (engine : Engine κ) (text : String)

/-- the calls that a script makes, up to its end or to the statement that fails -/
def scriptCalls : List Call :=
  match Script.parse text with
  | .error _ => []
  | .ok s => (s.run Operator.apply engine.hasFunction .empty).calls

/-- the native function that a call reaches, with the arguments -/
def native? (c : Call) : Option (Native κ × List Number) :=
  (engine.natives.get? c.function).map fun native => (native, c.args)

def trace : List (Native κ × List Number) := (engine.scriptCalls text).filterMap engine.native?

theorem native?_bind_logged? (c : Call) :
    (engine.native? c).bind Native.logged? = engine.logged? c := by
  unfold native? logged?
  cases engine.natives.get? c.function with
  | none => rfl
  | some native => cases native <;> rfl

theorem native?_bind_told? (c : Call) :
    (engine.native? c).bind Native.told? = engine.reached? c := by
  unfold native? reached?
  cases engine.natives.get? c.function with
  | none => rfl
  | some native => cases native <;> rfl

theorem run_log : (engine.run text).log = (engine.scriptCalls text).filterMap engine.logged? := by
  unfold run scriptCalls
  cases Script.parse text <;> rfl

theorem run_calls :
    (engine.run text).calls = (engine.scriptCalls text).filterMap engine.reached? := by
  unfold run scriptCalls
  cases Script.parse text <;> rfl

/-- **What a run logs is what the calls of its trace log.** -/
theorem run_log_eq : (engine.run text).log = (engine.trace text).filterMap Native.logged? := by
  rw [run_log, trace, List.filterMap_filterMap]
  simp only [native?_bind_logged?]

/-- **What a run tells the host is what the calls of its trace tell it.** -/
theorem run_calls_eq : (engine.run text).calls = (engine.trace text).filterMap Native.told? := by
  rw [run_calls, trace, List.filterMap_filterMap]
  simp only [native?_bind_told?]

end Engine

/-! ## no call is missing -/

section

variable {ops : Arithmetic} {known : String → Bool} {c : Call}

theorem Statement.exists_of_effect {st : Statement} {env : Environment}
    (h : st.effect ops known env = .ok (.call c)) :
    ∃ f args, st = .call f args ∧ c.function = f.name ∧ known f.name = true := by
  cases st with
  | assign x e =>
    rw [effect] at h
    split at h <;> cases h
  | call f args =>
    rw [effect] at h
    split at h
    · cases h
    · split at h
      · rename_i hf
        cases h
        exact ⟨f, args, rfl, rfl, hf⟩
      · cases h

/-- Every call of a run is the effect of one of its statements. -/
theorem Run.exists_effect_of_mem_calls {body : List Statement} {env : Environment}
    (h : c ∈ (Run.ofBody ops known body env).calls) :
    ∃ st ∈ body, ∃ env', st.effect ops known env' = .ok (.call c) := by
  induction body generalizing env with
  | nil => cases h
  | cons st rest ih =>
    have later {env' : Environment} (h : c ∈ (Run.ofBody ops known rest env').calls) :
        ∃ st' ∈ st :: rest, ∃ env', st'.effect ops known env' = .ok (.call c) := by
      obtain ⟨st', hst', heff⟩ := ih h
      exact ⟨st', List.mem_cons_of_mem _ hst', heff⟩
    rw [Run.ofBody] at h
    cases heff : st.effect ops known env with
    | error err =>
      rw [heff] at h
      cases h
    | ok eff =>
      rw [heff] at h
      cases eff with
      | assign name v => exact later h
      | call d =>
        obtain rfl | h := List.mem_cons.mp h
        · exact ⟨st, List.mem_cons_self, env, heff⟩
        · exact later h

theorem Run.known_of_mem_calls {body : List Statement} {env : Environment}
    (h : c ∈ (Run.ofBody ops known body env).calls) : known c.function = true := by
  obtain ⟨st, -, env', heff⟩ := exists_effect_of_mem_calls h
  obtain ⟨f, args, -, hname, hf⟩ := Statement.exists_of_effect heff
  rw [hname]
  exact hf

end

namespace Engine

theorem known_of_mem_scriptCalls {κ : Type} {engine : Engine κ} {text : String} {c : Call}
    (h : c ∈ engine.scriptCalls text) :
    engine.hasFunction c.function = true := by
  unfold scriptCalls at h
  split at h
  · cases h
  · exact Run.known_of_mem_calls h

end Engine

end Scriptlet
