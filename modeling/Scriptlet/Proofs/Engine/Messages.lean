import Scriptlet.Proofs.Engine.Session
import Scriptlet.Proofs.Evaluation.Composition

/-!
# Messages: what is logged over time by an engine that started with `print`

The log of a session is told by the statements that its runs execute and by the names that are
registered in between.  A statement prints if it calls `print` with an argument, for as long as
`print` is not registered again.

* `Run.executions`           the statements that a run executes, each with the variables before it;
* `Run.executions_eq`        they are the statements before the one that fails, or all of them;
* `Engine.events`            what happens in a session, in its order;
* `LogsPrints.log_eq`        one run: it logs what its statements print;
* `LogsPrints.sunk_eq`       a session, by induction on its operations: the same up to the first
                             registration of `print`;
* `LogsNothing.sunk_eq`      and nothing from then on.
-/

namespace Scriptlet

/-! ## the statements that a run executes -/

/-- a statement that is executed, with the variables as they are before it -/
structure Execution where
  statement : Statement
  env : Environment

namespace Run

/-- the statements of a body that are executed, up to its end or to one that fails -/
def executions (ops : Arithmetic) (known : String → Bool) :
    List Statement → Environment → List Execution
  | [], _ => []
  | st :: rest, env =>
    match st.effect ops known env with
    | .error _ => []
    | .ok eff => ⟨st, env⟩ :: executions ops known rest (eff.apply env)

variable {ops : Arithmetic} {known : String → Bool} {st : Statement} {env : Environment}

theorem executions_cons_of_error {err : RuntimeError} (h : st.effect ops known env = .error err)
    (rest : List Statement) : executions ops known (st :: rest) env = [] := by
  rw [executions, h]

theorem executions_cons_of_ok {eff : Effect} (h : st.effect ops known env = .ok eff)
    (rest : List Statement) :
    executions ops known (st :: rest) env
      = ⟨st, env⟩ :: executions ops known rest (eff.apply env) := by
  rw [executions, h]

/-- **All statements are executed, or those before the one that fails.**  Each is executed with the
variables that those before it leave. -/
theorem executions_eq (body : List Statement) (env : Environment) :
    (∃ later, body = (executions ops known body env).map Execution.statement ++ later ∧
      match (ofBody ops known body env).failure with
      | none => later = []
      | some err => ∃ st rest, later = st :: rest ∧
          st.effect ops known (ofBody ops known body env).env = .error err) ∧
    ∀ pre x post, executions ops known body env = pre ++ x :: post →
      x.env = (ofBody ops known (pre.map Execution.statement) env).env := by
  induction body generalizing env with
  | nil => exact ⟨⟨[], rfl, rfl⟩, fun pre x post h => by cases pre <;> cases h⟩
  | cons st rest ih =>
    cases hst : st.effect ops known env with
    | error err =>
      rw [executions_cons_of_error hst, ofBody_cons_of_error hst]
      exact ⟨⟨st :: rest, rfl, st, rest, rfl, hst⟩, fun pre x post h => by cases pre <;> cases h⟩
    | ok eff =>
      obtain ⟨⟨later, hlater, hfailure⟩, henv⟩ := ih (eff.apply env)
      rw [executions_cons_of_ok hst, ofBody_cons_of_ok hst]
      refine ⟨⟨later, congrArg (st :: ·) hlater, hfailure⟩, fun pre x post h => ?_⟩
      cases pre with
      | nil =>
        cases h
        rfl
      | cons first pre =>
        obtain ⟨rfl, hpost⟩ := List.cons.inj h
        rw [List.map_cons, ofBody_cons_of_ok hst]
        exact henv pre x post hpost

end Run

/-- What an executed statement prints: the value of the first argument, if it calls `print` with
one. -/
def Execution.message? (x : Execution) : Option String :=
  match x.statement with
  | .assign _ _ => none
  | .call f args =>
    if f.name = "print" then
      (args.head?.bind fun a => (a.eval Operator.apply x.env).toOption).map Number.text
    else none

theorem Expr.head?_of_evalAll {ops : Arithmetic} {env : Environment} {es : List Expr}
    {vs : List Number} (h : evalAll ops env es = .ok vs) :
    vs.head? = es.head?.bind fun e => (e.eval ops env).toOption := by
  cases es with
  | nil =>
    cases h
    rfl
  | cons e es =>
    rw [evalAll] at h
    rw [List.head?_cons, Option.bind_some]
    split at h
    · cases h
    · rename_i v hv
      split at h <;> cases h
      rw [hv]
      rfl

/-! ## sessions -/

inductive Event where
  | registered (name : String)
  | executed (x : Execution)

namespace Event

def keepsPrint : Event → Bool
  | .registered name => name != "print"
  | .executed _ => true

def message? : Event → Option String
  | .registered _ => none
  | .executed x => x.message?

end Event

namespace Engine

variable {κ : Type}

/-- the statements that a run of the text executes; none if it is no script -/
def executions (e : Engine κ) (text : String) : List Execution :=
  match Script.parse text with
  | .error _ => []
  | .ok s => Run.executions Operator.apply e.hasFunction s.body .empty

def eventsOf (e : Engine κ) : Operation κ → List Event
  | .register name _ => [.registered name]
  | .run text | .execute text => (e.executions text).map .executed
  | .hasFunction _ | .functionNames => []

def events (e : Engine κ) : List (Operation κ) → List Event
  | [] => []
  | op :: ops => e.eventsOf op ++ (e.after op).events ops

theorem events_cons (e : Engine κ) (op : Operation κ) (ops : List (Operation κ)) :
    e.events (op :: ops) = e.eventsOf op ++ (e.after op).events ops := rfl

def logOf (e : Engine κ) : Operation κ → List String
  | .run text | .execute text => (e.run text).log
  | .register .. | .hasFunction _ | .functionNames => []

def sunk (e : Engine κ) : List (Operation κ) → List String
  | [] => []
  | op :: ops => e.logOf op ++ (e.after op).sunk ops

theorem sunk_cons (e : Engine κ) (op : Operation κ) (ops : List (Operation κ)) :
    e.sunk (op :: ops) = e.logOf op ++ (e.after op).sunk ops := rfl

theorem sunk_append (e : Engine κ) (ops later : List (Operation κ)) :
    e.sunk (ops ++ later) = e.sunk ops ++ (e.afterAll ops).sunk later := by
  induction ops generalizing e with
  | nil => rfl
  | cons op ops ih =>
    rw [List.cons_append, sunk_cons, sunk_cons, ih, List.append_assoc, afterAll_cons]

/-! ## engines that log what `print` prints, and engines that log nothing -/

/-- Nothing but `print` is the function that logs, and `print` is. -/
def LogsPrints (e : Engine κ) : Prop := ∀ name, e.natives.get? name = some .print ↔ name = "print"

def LogsNothing (e : Engine κ) : Prop := ∀ name, e.natives.get? name ≠ some .print

theorem logsPrints_withPrint : (withPrint : Engine κ).LogsPrints := by
  intro name
  have hself := Bindings.get?_set_self (.empty : Bindings (Native κ)) "print" .print
  constructor
  · intro h
    by_contra hne
    have hother := Bindings.get?_set_of_ne (.empty : Bindings (Native κ)) .print (Ne.symm hne)
    cases hother.symm.trans h
  · rintro rfl
    exact hself

section

variable {e : Engine κ} {name : String}

theorem LogsPrints.register (h : e.LogsPrints) (hname : name ≠ "print") (id : κ) :
    (e.register name id).LogsPrints := by
  intro n
  unfold Engine.register
  by_cases hn : name = n
  · subst hn
    rw [Bindings.get?_set_self]
    exact iff_of_false nofun hname
  · rw [Bindings.get?_set_of_ne _ _ hn]
    exact h n

theorem LogsPrints.register_print (h : e.LogsPrints) (id : κ) :
    (e.register "print" id).LogsNothing := by
  intro n
  unfold Engine.register
  by_cases hn : "print" = n
  · subst hn
    rw [Bindings.get?_set_self]
    nofun
  · rw [Bindings.get?_set_of_ne _ _ hn]
    exact fun hprint => hn ((h n).mp hprint).symm

theorem LogsNothing.register (h : e.LogsNothing) (name : String) (id : κ) :
    (e.register name id).LogsNothing := by
  intro n
  unfold Engine.register
  by_cases hn : name = n
  · subst hn
    rw [Bindings.get?_set_self]
    nofun
  · rw [Bindings.get?_set_of_ne _ _ hn]
    exact h n

/-! ### one run -/

theorem LogsNothing.logged? (h : e.LogsNothing) (c : Call) : e.logged? c = none := by
  unfold Engine.logged?
  split
  · exact absurd ‹_› (h _)
  · rfl

theorem LogsPrints.logged? (h : e.LogsPrints) (c : Call) :
    e.logged? c = if c.function = "print" then c.args.head?.map Number.text else none := by
  unfold Engine.logged?
  split
  · rename_i hprint
    rw [if_pos ((h _).mp hprint)]
  · rename_i hother
    rw [if_neg fun hname => hother ((h _).mpr hname)]

/-- **A statement that is executed logs what it prints.** -/
theorem LogsPrints.logged?_effect (h : e.LogsPrints) {known : String → Bool} {st : Statement}
    {env : Environment} {eff : Effect} (heff : st.effect Operator.apply known env = .ok eff) :
    eff.calls.filterMap e.logged? = (Execution.message? ⟨st, env⟩).toList := by
  cases st with
  | assign x value =>
    rw [Statement.effect] at heff
    split at heff <;> cases heff
    rfl
  | call f args =>
    rw [Statement.effect] at heff
    split at heff
    · cases heff
    rename_i vs hvs
    split at heff <;> cases heff
    have hlogged : e.logged? ⟨f.name, vs⟩ = Execution.message? ⟨.call f args, env⟩ := by
      rw [h.logged?, Expr.head?_of_evalAll hvs]
      rfl
    rw [Effect.calls, List.filterMap_cons, hlogged]
    cases Execution.message? ⟨.call f args, env⟩ <;> rfl

theorem LogsPrints.logged?_ofBody (h : e.LogsPrints) (known : String → Bool)
    (body : List Statement) (env : Environment) :
    (Run.ofBody Operator.apply known body env).calls.filterMap e.logged?
      = (Run.executions Operator.apply known body env).filterMap Execution.message? := by
  -- what the first statement logs comes before what the others log
  induction body generalizing env with
  | nil => rfl
  | cons st rest ih =>
    cases hst : st.effect Operator.apply known env with
    | error err =>
      rw [Run.ofBody_cons_of_error hst, Run.executions_cons_of_error hst]
      rfl
    | ok eff =>
      rw [Run.ofBody_cons_of_ok hst, Run.executions_cons_of_ok hst, Run.after,
        List.filterMap_append, h.logged?_effect hst, ih, List.filterMap_cons]
      cases Execution.message? ⟨st, env⟩ <;> rfl

/-- **A run logs what the statements print that it executes.** -/
theorem LogsPrints.log_eq (h : e.LogsPrints) (text : String) :
    (e.run text).log = (e.executions text).filterMap Execution.message? := by
  unfold run executions
  cases Script.parse text with
  | error err => rfl
  | ok s => exact h.logged?_ofBody _ s.body .empty

theorem LogsNothing.log_eq (h : e.LogsNothing) (text : String) : (e.run text).log = [] := by
  rw [run_log]
  exact List.filterMap_eq_nil_iff.mpr fun c _ => h.logged? c

/-! ### a session -/

theorem LogsNothing.sunk_eq (h : e.LogsNothing) (ops : List (Operation κ)) : e.sunk ops = [] := by
  induction ops generalizing e with
  | nil => rfl
  | cons op ops ih =>
    cases op with
    | register name id => exact ih (h.register name id)
    | run text | execute text => exact List.append_eq_nil_iff.mpr ⟨h.log_eq text, ih h⟩
    | hasFunction name | functionNames => exact ih h

/-- **A session logs what the statements print that are executed in it before `print` is registered
again.** -/
theorem LogsPrints.sunk_eq (h : e.LogsPrints) (ops : List (Operation κ)) :
    e.sunk ops = ((e.events ops).takeWhile Event.keepsPrint).filterMap Event.message? := by
  induction ops generalizing e with
  | nil => rfl
  | cons op ops ih =>
    rw [sunk_cons, events_cons]
    cases op with
    | register name id =>
      by_cases hname : name = "print"
      · subst hname
        exact (h.register_print id).sunk_eq ops
      · have hkept : (Event.registered name).keepsPrint = true := bne_iff_ne.mpr hname
        rw [eventsOf, List.singleton_append, List.takeWhile_cons_of_pos hkept]
        exact ih (h.register hname id)
    | run text | execute text =>
      -- No statement registers anything, so a run is all before the registration or all after it.
      have hkept : ∀ ev ∈ (e.executions text).map Event.executed, ev.keepsPrint = true := by
        intro ev hev
        obtain ⟨x, -, rfl⟩ := List.mem_map.mp hev
        rfl
      rw [eventsOf, List.takeWhile_append_of_pos hkept, List.filterMap_append, List.filterMap_map,
        logOf, h.log_eq]
      exact congrArg _ (ih h)
    | hasFunction name | functionNames => exact ih h

theorem LogsPrints.afterAll (h : e.LogsPrints) {ops : List (Operation κ)}
    (hprint : Registered ops "print") : (e.afterAll ops).LogsNothing := by
  intro n
  by_cases hn : Registered ops n
  · obtain ⟨id, hid⟩ := hn.exists_isLast
    rw [get?_afterAll_of_isLast e hid]
    nofun
  · rw [get?_afterAll_of_not_registered e hn]
    intro hlogs
    rw [(h n).mp hlogs] at hn
    exact hn hprint

end

/-- **The log of a session is what `print` is told in it.**  It has, in their order, the values of
the first arguments of the statements that are executed, call `print` with an argument, and come
before `print` is registered again; from then on nothing is logged.  At any point of a session, a
text that is no script executes nothing and logs nothing.  A script executes all of its statements,
or those before the first that fails, each with the variables that those before it leave; a call can
be executed if its name was registered or is `print`. -/
theorem sunk_withPrint (history : List (Operation κ)) :
    let start : Engine κ := withPrint
    let e := start.afterAll history
    start.sunk history
        = ((start.events history).takeWhile Event.keepsPrint).filterMap Event.message? ∧
    (Registered history "print" → ∀ later, start.sunk (history ++ later) = start.sunk history) ∧
    (∀ name, e.hasFunction name = true ↔ Registered history name ∨ name = "print") ∧
    (∀ text err, Script.parse text = .error err →
      e.executions text = [] ∧ (e.run text).log = []) ∧
    ∀ text s, Script.parse text = .ok s →
      let run := s.run Operator.apply e.hasFunction .empty
      (∃ later, s.body = (e.executions text).map Execution.statement ++ later ∧
        match run.failure with
        | none => later = []
        | some err => ∃ st rest, later = st :: rest ∧
            st.effect Operator.apply e.hasFunction run.env = .error err) ∧
      ∀ pre x post, e.executions text = pre ++ x :: post →
        x.env
          = (Run.ofBody Operator.apply e.hasFunction (pre.map Execution.statement) .empty).env := by
  intro start e
  refine ⟨logsPrints_withPrint.sunk_eq history, fun hprint later => ?_, fun name => ?_,
    fun text err hparse => ?_, fun text s hparse => ?_⟩
  · rw [sunk_append, (logsPrints_withPrint.afterAll hprint).sunk_eq, List.append_nil]
  · have hstart : start.hasFunction name = true ↔ name = "print" :=
      (Base.hasFunction_engine .withPrint name).trans (and_iff_right rfl)
    rw [hasFunction_afterAll, hstart]
  · unfold executions run
    rw [hparse]
    exact ⟨rfl, rfl⟩
  · have hexecutions : e.executions text
        = Run.executions Operator.apply e.hasFunction s.body .empty := by
      unfold executions
      rw [hparse]
    rw [hexecutions]
    exact Run.executions_eq s.body .empty

/-- Two arguments, no argument, a second argument that fails, a text that is no script, and `print`
registered again. -/
theorem sunk_withPrint_registered :
    let history : List (Operation Nat) :=
      [.run "function f()\x7bprint(7, 8); print(); print(9, x); print(1);\x7d", .execute "print(",
        .register "log" 0, .execute "function f()\x7bprint(2 * 3); log(4);\x7d",
        .register "print" 1]
    Registered history "print" ∧ (withPrint : Engine Nat).sunk history = ["7", "6"] ∧
      ∀ later, (withPrint : Engine Nat).sunk (history ++ later) = ["7", "6"] := by
  intro history
  obtain ⟨hlog, hnever, -⟩ := sunk_withPrint history
  have hmessages : (((withPrint : Engine Nat).events history).takeWhile
      Event.keepsPrint).filterMap Event.message? = ["7", "6"] := by
    decide +kernel
  have hprint : Registered history "print" := ⟨1, by simp [history]⟩
  exact ⟨hprint, hlog.trans hmessages, fun later =>
    (hnever hprint later).trans (hlog.trans hmessages)⟩

end Engine

end Scriptlet
