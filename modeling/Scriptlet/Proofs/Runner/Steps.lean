import Mathlib.Tactic.Choose
import Scriptlet.Proofs.Engine.Diagnosis
import Scriptlet.Runner

/-!
# Steps: what a runner shows of a source, in each of its modes

* `Mode.failure?`    what a step of a mode reports, if it fails;
* `Runner.Shows`     what a step shows, told by the run of the script, its parse and its tokens;
* `exists_shows`     every step shows this, if paddings may have any width;
* `steps_concat`     and shows it whatever was done before;
* `modes_agree`      so a script that cannot be read is reported alike whether it is run or printed.
-/

namespace Scriptlet

open Text

/-! ## what a mode does with a text -/

namespace Mode

variable (text : String)

def failure? : Mode → Option Report
  | .execute => ((Engine.withPrint : Engine Empty).run text).error?.map ScriptError.report
  | .tokens => none
  | .script =>
    match Script.parse text with
    | .ok _ => none
    | .error d => some d.report

/-- what a step of the mode logs: only an execution calls `print` -/
def printed : Mode → List String
  | .execute => ((Engine.withPrint : Engine Empty).run text).log
  | .tokens | .script => []

def emitted (source : Source) : Mode → String
  | .execute => ""
  | .tokens => Runner.tokenListing source
  | .script =>
    match Script.parse source.text with
    | .ok s => s.text ++ "\n"
    | .error _ => ""

variable {text} {mode : Mode} {report : Report}

theorem failure?_of_error {d : SyntaxError} (h : Script.parse text = .error d) :
    script.failure? text = some d.report ∧ execute.failure? text = some d.report ∧
      execute.printed text = [] := by
  unfold failure? printed Engine.run Engine.Outcome.error?
  dsimp only
  rw [h]
  exact ⟨rfl, rfl, rfl⟩

theorem script_failure?_of_ok {s : Script} (h : Script.parse text = .ok s) :
    script.failure? text = none := by
  unfold failure?
  dsimp only
  rw [h]

/-- What cannot be parsed cannot be executed, so that an execution fails wherever a step does. -/
theorem exists_error_of_failure? (h : mode.failure? text = some report) :
    ∃ e, ((Engine.withPrint : Engine Empty).run text).result = .error e ∧ e.report = report := by
  cases mode with
  | execute =>
    unfold failure? Engine.Outcome.error? at h
    dsimp only at h
    cases hresult : ((Engine.withPrint : Engine Empty).run text).result with
    | ok env =>
      rw [hresult] at h
      cases h
    | error e =>
      rw [hresult] at h
      exact ⟨e, rfl, Option.some.inj h⟩
  | tokens => cases h
  | script =>
    unfold failure? at h
    dsimp only at h
    cases hparse : Script.parse text with
    | ok s =>
      rw [hparse] at h
      cases h
    | error d =>
      rw [hparse] at h
      refine ⟨.parse d, ?_, Option.some.inj h⟩
      rw [Engine.run, hparse]

theorem emitted_of_failure? {source : Source} (h : mode.failure? source.text = some report) :
    mode.emitted source = "" := by
  cases mode with
  | execute => rfl
  | tokens => cases h
  | script =>
    unfold failure? at h
    unfold emitted
    dsimp only at h ⊢
    cases hparse : Script.parse source.text with
    | ok s =>
      rw [hparse] at h
      cases h
    | error d => rfl

end Mode

/-! ## steps -/

namespace Runner

variable {r : Runner} {source : Source} {mode : Mode}

/-- What a step shows; the diagnostics are the report of its failure. -/
structure Shows (r : Runner) (source : Source) (mode : Mode) (s : Step) : Prop where
  step_eq : r.step source mode = .ok s
  succeeded : s.succeeded = true ↔ mode.failure? source.text = none
  printed : s.printed = mode.printed source.text
  emitted : s.emitted = mode.emitted source
  silent : mode.failure? source.text = none → s.diagnostics = ""
  reported : ∀ report, mode.failure? source.text = some report → ∃ drawn,
    report.draw r.theme source = .ok drawn ∧ s.diagnostics = Piece.write r.colour drawn

theorem step_eq (r : Runner) (source : Source) (mode : Mode) : r.step source mode
    = match mode.failure? source.text with
      | none => .ok ⟨true, mode.printed source.text, mode.emitted source, ""⟩
      | some report => r.failed source (mode.printed source.text) report := by
  unfold step Mode.failure? Mode.printed Mode.emitted
  cases mode with
  | execute =>
    dsimp only [Engine.Outcome.error?]
    cases ((Engine.withPrint : Engine Empty).run source.text).result <;> rfl
  | tokens => rfl
  | script =>
    dsimp only
    cases Script.parse source.text <;> rfl

theorem exists_drawn_of_failure? {theme : Theme} (hwidest : theme.widest? = none) (colour : Bool)
    {report : Report} (h : mode.failure? source.text = some report) :
    ∃ above below, ∃ p : Spot source.text.toList,
      (∀ name, ∃ drawn, report.draw theme (.ofText name source.text) = .ok drawn ∧
        Piece.write colour drawn
          = above ++ Drawing.placeLine name p ++ "\n" ++ below ++ "\n") ∧
      ∃ drawn, report.draw theme source = .ok drawn ∧
        Piece.write colour drawn
          = above ++ Drawing.placeLine source.name p ++ "\n" ++ below ++ "\n" := by
  obtain ⟨e, he, rfl⟩ := Mode.exists_error_of_failure? h
  obtain ⟨above, below, p, hnamed⟩ := Engine.exists_drawn he hwidest colour
  have hown := hnamed source.name
  rw [source.ofText_name_text] at hown
  exact ⟨above, below, p, hnamed, hown⟩

/-- **Every step shows this**, if paddings may have any width. -/
theorem exists_shows (hwidest : r.theme.widest? = none) (source : Source) (mode : Mode) :
    ∃ s, r.Shows source mode s := by
  have hstep := r.step_eq source mode
  cases hfailure : mode.failure? source.text with
  | none =>
    rw [hfailure] at hstep
    refine ⟨_, hstep, iff_of_true rfl hfailure, rfl, rfl, fun _ => rfl, fun report hreport => ?_⟩
    rw [hfailure] at hreport
    cases hreport
  | some report =>
    obtain ⟨_, _, _, -, drawn, hdrawn, -⟩ := exists_drawn_of_failure? hwidest r.colour hfailure
    rw [hfailure] at hstep
    dsimp only [failed, diagnose] at hstep
    rw [hdrawn] at hstep
    refine ⟨_, hstep, ?_, rfl, (Mode.emitted_of_failure? hfailure).symm, fun hnone => ?_,
      fun report hreport => ?_⟩
    · exact iff_of_false Bool.false_ne_true (by rw [hfailure]; exact nofun)
    · rw [hfailure] at hnone
      cases hnone
    · rw [hfailure] at hreport
      exact ⟨drawn, Option.some.inj hreport ▸ hdrawn, rfl⟩

theorem Shows.succeeded_eq_false {s : Step} (h : r.Shows source mode s) {report : Report}
    (hfailure : mode.failure? source.text = some report) : s.succeeded = false := by
  rw [← Bool.not_eq_true, h.succeeded, hfailure]
  exact nofun

theorem Shows.diagnostics_eq {s : Step} (h : r.Shows source mode s) {report : Report}
    (hfailure : mode.failure? source.text = some report) {drawn : List Piece}
    (hdrawn : report.draw r.theme source = .ok drawn) :
    s.diagnostics = Piece.write r.colour drawn := by
  obtain ⟨drawn', hdrawn', hdiagnostics⟩ := h.reported report hfailure
  rw [hdiagnostics, Except.ok.inj (hdrawn.symm.trans hdrawn')]

theorem Shows.diagnostics_eq_iff (hwidest : r.theme.widest? = none) {s : Step}
    (h : r.Shows source mode s) : s.diagnostics = "" ↔ mode.failure? source.text = none := by
  refine ⟨fun hempty => ?_, h.silent⟩
  cases hfailure : mode.failure? source.text with
  | none => rfl
  | some report =>
    obtain ⟨_, _, _, -, drawn, hdrawn, hwritten⟩ :=
      exists_drawn_of_failure? hwidest r.colour hfailure
    rw [h.diagnostics_eq hfailure hdrawn, hwritten] at hempty
    exact absurd hempty (append_newline_ne _)

/-! ## steps one after the other -/

theorem steps_concat {past : List (Source × Mode)} {before : List Step}
    (hpast : r.steps past = .ok before) {s : Step} (hstep : r.step source mode = .ok s) :
    r.steps (past ++ [(source, mode)]) = .ok (before ++ [s]) := by
  induction past generalizing before with
  | nil =>
    obtain rfl := Except.ok.inj hpast
    simp only [List.nil_append, steps, hstep]
  | cons first past ih =>
    obtain ⟨source', mode'⟩ := first
    rw [steps] at hpast
    rw [List.cons_append, steps]
    cases hfirst : r.step source' mode' with
    | error fault =>
      rw [hfirst] at hpast
      cases hpast
    | ok t =>
      rw [hfirst] at hpast
      dsimp only at hpast ⊢
      cases hrest : r.steps past with
      | error fault =>
        rw [hrest] at hpast
        cases hpast
      | ok ts =>
        rw [hrest] at hpast
        obtain rfl := Except.ok.inj hpast
        rw [ih hrest]
        rfl

theorem exists_steps (hwidest : r.theme.widest? = none) (past : List (Source × Mode)) :
    ∃ before, r.steps past = .ok before := by
  induction past with
  | nil => exact ⟨[], rfl⟩
  | cons first past ih =>
    obtain ⟨source, mode⟩ := first
    obtain ⟨s, hs⟩ := exists_shows hwidest source mode
    obtain ⟨before, hbefore⟩ := ih
    exact ⟨s :: before, by simp only [steps, hs.step_eq, hbefore]⟩

/-! ## a text that cannot be read, and one that can -/

/-- A text that is no script is reported alike whether it is to be printed or run. -/
theorem Shows.of_error {d : SyntaxError} (h : Script.parse source.text = .error d) {s s' : Step}
    (hs : r.Shows source .script s) (hs' : r.Shows source .execute s') :
    s.succeeded = false ∧ s'.succeeded = false ∧ s.diagnostics = s'.diagnostics ∧
      s.emitted = "" ∧ s'.printed = [] := by
  obtain ⟨hscript, hexecute, hprinted⟩ := Mode.failure?_of_error h
  obtain ⟨drawn, hdrawn, hdiagnostics⟩ := hs.reported _ hscript
  refine ⟨hs.succeeded_eq_false hscript, hs'.succeeded_eq_false hexecute,
    hdiagnostics.trans (hs'.diagnostics_eq hexecute hdrawn).symm, ?_, hs'.printed.trans hprinted⟩
  rw [hs.emitted, Mode.emitted_of_failure? hscript]

theorem Shows.of_ok {f : Script} (h : Script.parse source.text = .ok f) {s : Step}
    (hs : r.Shows source .script s) :
    s.succeeded = true ∧ s.emitted = f.text ++ "\n" ∧ s.diagnostics = "" := by
  have hsilent := Mode.script_failure?_of_ok h
  refine ⟨hs.succeeded.mpr hsilent, ?_, hs.silent hsilent⟩
  rw [hs.emitted]
  unfold Mode.emitted
  dsimp only
  rw [h]

/-- **The modes of a runner agree, whatever was done with it before.**  A step shows what it shows
on a fresh runner, and it succeeds if and only if it adds no diagnostics.  The tokens of a text can
always be listed.  A text is printed unless it is no script; then its execution is refused with the
same diagnostics, and nothing is logged and nothing is emitted. -/
theorem modes_agree (hwidest : r.theme.widest? = none) (past : List (Source × Mode))
    (source : Source) : ∃ (before : List Step) (shown : Mode → Step),
      r.steps past = .ok before ∧
      (∀ mode, r.steps (past ++ [(source, mode)]) = .ok (before ++ [shown mode]) ∧
        r.steps [(source, mode)] = .ok [shown mode]) ∧
      (∀ mode, (shown mode).succeeded = true ↔ (shown mode).diagnostics = "") ∧
      ((shown .tokens).succeeded = true ∧ (shown .tokens).diagnostics = "") ∧
      ((shown .script).succeeded = false ↔ (shown .execute).succeeded = false ∧
        ∃ d, ((Engine.withPrint : Engine Empty).run source.text).result = .error (.parse d)) ∧
      ((shown .script).succeeded = false →
        (shown .script).diagnostics = (shown .execute).diagnostics ∧
        (shown .script).emitted = "" ∧ (shown .execute).printed = []) ∧
      ((shown .script).succeeded = true → ∃ s, Script.parse source.text = .ok s ∧
        (shown .script).emitted = s.text ++ "\n" ∧ (shown .script).diagnostics = "") := by
  obtain ⟨before, hbefore⟩ := exists_steps hwidest past
  choose shown hshown using exists_shows hwidest source
  have succeeded_iff (mode : Mode) :
      (shown mode).succeeded = true ↔ (shown mode).diagnostics = "" := by
    rw [(hshown mode).diagnostics_eq_iff hwidest, (hshown mode).succeeded]
  have htokens : (shown .tokens).succeeded = true := (hshown .tokens).succeeded.mpr rfl
  refine ⟨before, shown, hbefore, fun mode => ⟨steps_concat hbefore (hshown mode).step_eq, ?_⟩,
    succeeded_iff, ⟨htokens, (succeeded_iff _).mp htokens⟩, ?_⟩
  · exact @steps_concat r source mode [] [] rfl _ (hshown mode).step_eq
  · cases hparse : Script.parse source.text with
    | ok f =>
      obtain ⟨hsucceeded, hemitted, hsilent⟩ := (hshown .script).of_ok hparse
      have hnot : (shown .script).succeeded ≠ false := by
        rw [hsucceeded]
        exact nofun
      refine ⟨iff_of_false hnot ?_, fun h => absurd h hnot, fun _ => ⟨f, rfl, hemitted, hsilent⟩⟩
      rintro ⟨-, d, hd⟩
      obtain ⟨d', hd', -⟩ | ⟨_, _, _, _, hruntime⟩ := Engine.error_cases hd
      · rw [hparse] at hd'
        cases hd'
      · cases hruntime
    | error d =>
      obtain ⟨hscript, hexecute, hdiagnostics, hemitted, hprinted⟩ :=
        (hshown .script).of_error hparse (hshown .execute)
      have hrefused : ((Engine.withPrint : Engine Empty).run source.text).result
          = .error (.parse d) := by rw [Engine.run, hparse]
      refine ⟨iff_of_true hscript ⟨hexecute, d, hrefused⟩,
        fun _ => ⟨hdiagnostics, hemitted, hprinted⟩, fun h => ?_⟩
      rw [hscript] at h
      cases h

/-- After a script that failed while it ran, a text that is none: a string stands where its name
should. -/
theorem modes_agree_string :
    let r : Runner := ⟨⟨"|", "^", "  ", none⟩, true⟩
    let past := [(Source.unnamed "function f() \x7b print(x); \x7d", Mode.execute)]
    r.theme.widest? = none ∧ ∃ (before : List Step) (shown : Mode → Step),
      r.steps past = .ok before ∧
      (∀ mode, r.steps (past ++ [(.unnamed "function 'f'", mode)]) = .ok (before ++ [shown mode])) ∧
      (shown .tokens).succeeded = true ∧ (shown .script).succeeded = false ∧
      (shown .execute).succeeded = false ∧ (shown .execute).printed = [] ∧
      (shown .script).diagnostics = (shown .execute).diagnostics := by
  intro r past
  have htokens : Token.ofText "function 'f'" =
      [⟨.keyword .function, "function", ⟨0, 8⟩⟩, ⟨.string, "f", ⟨9, 12⟩⟩] :=
    Token.allFrom_of_lists (by decide)
  have hparse : Script.parse "function 'f'"
      = .error ⟨.expected .identifier "string \"f\"", ⟨9, 12⟩⟩ := by
    unfold Script.parse
    rw [htokens]
    rfl
  have hwidest : r.theme.widest? = none := rfl
  obtain ⟨before, shown, hbefore, hsteps, -, ⟨hlisted, -⟩, hrefused_iff, hrefused, hprinted⟩ :=
    modes_agree hwidest past (.unnamed "function 'f'")
  have hscript : (shown .script).succeeded = false := by
    rw [← Bool.not_eq_true]
    intro h
    obtain ⟨f, hf, -⟩ := hprinted h
    exact nomatch hf.symm.trans hparse
  obtain ⟨hdiagnostics, -, hlog⟩ := hrefused hscript
  exact ⟨hwidest, before, shown, hbefore, fun mode => (hsteps mode).1, hlisted, hscript,
    (hrefused_iff.mp hscript).1, hlog, hdiagnostics⟩

end Runner

end Scriptlet
