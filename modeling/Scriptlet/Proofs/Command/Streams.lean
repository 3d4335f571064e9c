import Scriptlet.Command.Outcome
import Scriptlet.Proofs.Engine.Log
import Scriptlet.Proofs.Report.Limit
import Scriptlet.Proofs.Runner.Steps

/-!
# Streams: what a command leaves on its two streams, and its exit code

* `Command.FailsWith`           a command that fails: diagnostics of the script, and a last line;
* `Command.exists_ends`         a command ends in silence or fails in this way;
* `Command.out_of_step`         its output is what the step logs and then what it emits;
* `Command.outcome_by_name`     of a script in a file or on the command line, only the name differs;
* `Command.outcome_streams`     all of this about the outcome of every command.
-/

namespace Scriptlet.Command

open Text

/-! ## the outcome of a step -/

section

variable {theme : Theme} {read : String → Except ReadError String} {colour : Bool} {c : Command}
  {source : Source}

theorem outcomeIn_of_error {e : ReadError} (h : c.source read = .error e) :
    c.outcomeIn theme read colour = .ok ⟨1, "", e.message ++ "\n"⟩ := by
  unfold outcomeIn
  rw [h]

theorem outcomeIn_of_ok (h : c.source read = .ok source) {s : Step}
    (hs : (⟨theme, colour⟩ : Runner).step source c.mode = .ok s) :
    c.outcomeIn theme read colour = .ok (outcomeOfStep s) := by
  unfold outcomeIn
  simp only [h, hs]

theorem outcomeIn_of_none (h : c.source read = .ok source)
    (hfailure : c.mode.failure? source.text = none) : c.outcomeIn theme read colour
      = .ok ⟨0, written (c.mode.printed source.text) ++ c.mode.emitted source, ""⟩ := by
  have hstep := (⟨theme, colour⟩ : Runner).step_eq source c.mode
  rw [hfailure] at hstep
  rw [outcomeIn_of_ok h hstep]
  rfl

theorem outcomeOfStep_of_succeeded {s : Step} (h : s.succeeded = true) :
    outcomeOfStep s = ⟨0, written s.printed ++ s.emitted, ""⟩ := by
  unfold outcomeOfStep
  rw [if_pos h]
  rfl

theorem outcomeOfStep_of_failed {s : Step} (h : s.succeeded = false) : outcomeOfStep s
    = ⟨1, written s.printed ++ s.emitted, s.diagnostics ++ failureMessage ++ "\n"⟩ := by
  unfold outcomeOfStep
  rw [if_neg (by rw [h]; exact Bool.false_ne_true)]
  rfl

theorem out_of_step (s : Step) : (outcomeOfStep s).out = written s.printed ++ s.emitted := by
  cases h : s.succeeded with
  | true => rw [outcomeOfStep_of_succeeded h]
  | false => rw [outcomeOfStep_of_failed h]

variable (c read) in
/-- **A limit of paddings only stops a command.** -/
theorem outcome_upToWidth (colour : Bool) :
    Drawing.UpToWidth (c.outcome read colour)
      (c.outcomeIn Theme.standard.unlimited read colour) := by
  unfold outcome outcomeIn
  cases c.source read with
  | error e => exact .same _
  | ok source =>
    have hstep := Runner.step_upToWidth .standard colour source c.mode
    dsimp only
    generalize (⟨.standard, colour⟩ : Runner).step source c.mode = x at hstep
    generalize (⟨Theme.standard.unlimited, colour⟩ : Runner).step source c.mode = y at hstep
    cases hstep with
    | same => exact .same _
    | tooWide n => exact .tooWide n _

end

/-! ## how a command fails -/

theorem oneLine_message (e : ReadError) : OneLine e.message := by cases e <;> decide

theorem oneLine_failureMessage : OneLine failureMessage := by decide

/-- The error stream of a command that fails, as diagnostics and a last line under them.  There are
diagnostics if the input could be read, and then they are the report of the script's failure; there
are none if it could not be read, and then there is no output. -/
structure FailsWith (theme : Theme) (read : String → Except ReadError String) (colour : Bool)
    (c : Command) (o : Outcome) (diagnostics last : String) : Prop where
  err_eq : o.err = diagnostics ++ last ++ "\n"
  oneLine_last : OneLine last
  whole : diagnostics = "" ∨ ∃ above, diagnostics = above ++ "\n"
  failed : diagnostics ≠ "" ↔ ∃ source report drawn, c.source read = .ok source ∧
    c.mode.failure? source.text = some report ∧ report.draw theme source = .ok drawn ∧
    diagnostics = Piece.write colour drawn ∧ last = failureMessage
  unread : diagnostics = "" ↔ ∃ e, c.source read = .error e ∧ last = e.message ∧ o.out = ""

section

variable {theme : Theme} {read : String → Except ReadError String} {colour : Bool} {c : Command}
  {source : Source}

theorem failsWith_of_error {e : ReadError} (h : c.source read = .error e) :
    FailsWith theme read colour c ⟨1, "", e.message ++ "\n"⟩ "" e.message where
  err_eq := by rw [String.empty_append]
  oneLine_last := oneLine_message e
  whole := .inl rfl
  failed := by
    refine iff_of_false (fun hne => hne rfl) ?_
    rintro ⟨source, _, _, hsource, -⟩
    rw [h] at hsource
    cases hsource
  unread := iff_of_true rfl ⟨e, h, rfl, rfl⟩

theorem failsWith_of_failure? (hwidest : theme.widest? = none) (h : c.source read = .ok source)
    {report : Report} (hreport : c.mode.failure? source.text = some report) {s : Step}
    (hs : (⟨theme, colour⟩ : Runner).Shows source c.mode s) :
    FailsWith theme read colour c (outcomeOfStep s) s.diagnostics failureMessage := by
  obtain ⟨above, below, p, -, drawn, hdrawn, hwritten⟩ :=
    Runner.exists_drawn_of_failure? hwidest colour hreport
  have hdiagnostics := hs.diagnostics_eq hreport hdrawn
  have hne : s.diagnostics ≠ "" := by
    rw [hdiagnostics, hwritten]
    exact append_newline_ne _
  refine ⟨?_, oneLine_failureMessage, .inr ⟨_, hdiagnostics.trans hwritten⟩, ?_, ?_⟩
  · rw [outcomeOfStep_of_failed (hs.succeeded_eq_false hreport)]
  · exact iff_of_true hne ⟨source, report, drawn, h, hreport, hdrawn, hdiagnostics, rfl⟩
  · refine iff_of_false hne ?_
    rintro ⟨e, he, -⟩
    rw [h] at he
    cases he

/-- **A command ends in silence, or it fails.** -/
theorem exists_ends (hwidest : theme.widest? = none) (read : String → Except ReadError String)
    (colour : Bool) (c : Command) : ∃ o, c.outcomeIn theme read colour = .ok o ∧
      (o.exitCode = 0 ∧ o.err = "" ∧
          (∃ source, c.source read = .ok source ∧ c.mode.failure? source.text = none) ∨
        o.exitCode = 1 ∧ o.err ≠ "" ∧
          ∃ diagnostics last, FailsWith theme read colour c o diagnostics last) := by
  cases hsource : c.source read with
  | error e =>
    have hfails := @failsWith_of_error theme _ colour _ _ hsource
    exact ⟨_, outcomeIn_of_error hsource, .inr ⟨rfl, append_newline_ne _, _, _, hfails⟩⟩
  | ok source =>
    cases hfailure : c.mode.failure? source.text with
    | none => exact ⟨_, outcomeIn_of_none hsource hfailure, .inl ⟨rfl, rfl, source, rfl, hfailure⟩⟩
    | some report =>
      obtain ⟨s, hs⟩ := Runner.exists_shows (r := ⟨theme, colour⟩) hwidest source c.mode
      have hfails := failsWith_of_failure? hwidest hsource hfailure hs
      refine ⟨_, outcomeIn_of_ok hsource hs.step_eq, .inr ?_⟩
      rw [outcomeOfStep_of_failed (hs.succeeded_eq_false hfailure)] at hfails ⊢
      exact ⟨rfl, append_newline_ne _, _, _, hfails⟩

end

/-! ## what a command writes -/

section

variable {theme : Theme} {read : String → Except ReadError String} {colour : Bool} {c : Command}
  {source : Source} {o : Outcome}

theorem exists_shows_of_ok (hwidest : theme.widest? = none) (h : c.source read = .ok source)
    (ho : c.outcomeIn theme read colour = .ok o) :
    ∃ s, (⟨theme, colour⟩ : Runner).Shows source c.mode s ∧ o = outcomeOfStep s := by
  obtain ⟨s, hs⟩ := Runner.exists_shows (r := ⟨theme, colour⟩) hwidest source c.mode
  exact ⟨s, hs, Except.ok.inj (ho.symm.trans (outcomeIn_of_ok h hs.step_eq))⟩

theorem out_of_ok (hwidest : theme.widest? = none) (h : c.source read = .ok source)
    (ho : c.outcomeIn theme read colour = .ok o) :
    o.out = written (c.mode.printed source.text) ++ c.mode.emitted source := by
  obtain ⟨s, hs, rfl⟩ := exists_shows_of_ok hwidest h ho
  rw [out_of_step, hs.printed, hs.emitted]

/-- **Without an emission, the output has one line for each call that has an argument.** -/
theorem out_of_execute (hwidest : theme.widest? = none) (h : c.source read = .ok source)
    (ho : c.outcomeIn theme read colour = .ok o) (hemit : c.emit = none) :
    o.out = written
      (((Engine.withPrint : Engine Empty).scriptCalls source.text).filterMap Call.line?) := by
  have hmode : c.mode = .execute := by
    unfold mode
    rw [hemit]
  rw [out_of_ok hwidest h ho, hmode]
  show written ((Engine.withPrint : Engine Empty).run source.text).log ++ "" = _
  rw [String.append_empty, Engine.withPrint_log]

theorem mode_of_tokens (h : c.emit = some .tokens) : c.mode = .tokens := by
  unfold mode
  rw [h]

theorem mode_of_ast (h : c.emit = some .ast) : c.mode = .script := by
  unfold mode
  rw [h]

/-- **With an emission, nothing is logged.** -/
theorem printed_of_emission (hemit : c.emit ≠ none) (text : String) : c.mode.printed text = [] := by
  unfold mode
  cases hcase : c.emit with
  | none => exact absurd hcase hemit
  | some emission => cases emission <;> rfl

theorem outcomeIn_of_tokens (h : c.source read = .ok source) (hemit : c.emit = some .tokens) :
    c.outcomeIn theme read colour = .ok ⟨0, Runner.tokenListing source, ""⟩ := by
  have hmode := mode_of_tokens hemit
  rw [outcomeIn_of_none h (by rw [hmode]; rfl), hmode]
  show Except.ok (Outcome.mk 0 ("" ++ Runner.tokenListing source) "") = _
  rw [String.empty_append]

theorem outcomeIn_of_ast {s : Script} (h : c.source read = .ok source)
    (hemit : c.emit = some .ast) (hparse : Script.parse source.text = .ok s) :
    c.outcomeIn theme read colour = .ok ⟨0, s.text ++ "\n", ""⟩ := by
  have hmode := mode_of_ast hemit
  rw [outcomeIn_of_none h (by rw [hmode]; exact Mode.script_failure?_of_ok hparse), hmode]
  show Except.ok (Outcome.mk 0 ("" ++ Mode.emitted source .script) "") = _
  rw [String.empty_append, Mode.emitted, hparse]

theorem out_of_ast_of_error {d : SyntaxError} (hwidest : theme.widest? = none)
    (h : c.source read = .ok source) (ho : c.outcomeIn theme read colour = .ok o)
    (hemit : c.emit = some .ast) (hparse : Script.parse source.text = .error d) :
    o.exitCode = 1 ∧ o.out = "" := by
  have hmode := mode_of_ast hemit
  have hfailure : c.mode.failure? source.text = some d.report := by
    rw [hmode]
    exact (Mode.failure?_of_error hparse).1
  refine ⟨?_, ?_⟩
  · obtain ⟨s, hs, rfl⟩ := exists_shows_of_ok hwidest h ho
    rw [outcomeOfStep_of_failed (hs.succeeded_eq_false hfailure)]
  · rw [out_of_ok hwidest h ho, Mode.emitted_of_failure? hfailure, hmode]
    rfl

/-! ## a script on the command line, and in a file -/

theorem emitted_ofText (mode : Mode) (name name' text : String) :
    mode.emitted (.ofText name text) = mode.emitted (.ofText name' text) := by
  cases mode <;> rfl

/-- **Of a script on the command line and the same script in a file**, only the name in the report
differs. -/
theorem outcome_by_name (hwidest : theme.widest? = none) (colour : Bool) {text path : String}
    (hread : read path = .ok text) (emit : Option Emission) :
    ∃ o o', outcomeIn theme read colour ⟨text, true, emit⟩ = .ok o ∧
      outcomeIn theme read colour ⟨path, false, emit⟩ = .ok o' ∧
      o.exitCode = o'.exitCode ∧ o.out = o'.out ∧
      (o.err = "" ∧ o'.err = "" ∨ ∃ above below, ∃ p : Spot text.toList,
        o.err = above ++ Drawing.placeLine "<unnamed>" p ++ "\n" ++ below ∧
        o'.err = above ++ Drawing.placeLine path p ++ "\n" ++ below) := by
  have hinline : source read ⟨text, true, emit⟩ = .ok (.ofText "<unnamed>" text) := rfl
  have hfile : source read ⟨path, false, emit⟩ = .ok (.ofText path text) := by
    unfold source
    simp only [hread, Bool.false_eq_true, if_false]
  obtain ⟨s, hs⟩ := Runner.exists_shows (r := ⟨theme, colour⟩) hwidest (.ofText "<unnamed>" text)
    (mode ⟨text, true, emit⟩)
  obtain ⟨s', hs'⟩ := Runner.exists_shows (r := ⟨theme, colour⟩) hwidest (.ofText path text)
    (mode ⟨text, true, emit⟩)
  -- What is logged and what is emitted depend on the text alone, and so does whether it fails.
  have hprinted : s.printed = s'.printed := hs.printed.trans hs'.printed.symm
  have hemitted : s.emitted = s'.emitted := by
    rw [hs.emitted, hs'.emitted, emitted_ofText _ "<unnamed>" path]
  refine ⟨_, _, outcomeIn_of_ok hinline hs.step_eq, outcomeIn_of_ok hfile hs'.step_eq, ?_⟩
  cases hfailure : (mode ⟨text, true, emit⟩).failure? text with
  | none =>
    rw [outcomeOfStep_of_succeeded (hs.succeeded.mpr hfailure),
      outcomeOfStep_of_succeeded (hs'.succeeded.mpr hfailure), hprinted, hemitted]
    exact ⟨rfl, rfl, .inl ⟨rfl, rfl⟩⟩
  | some report =>
    obtain ⟨above, below, (p : Spot text.toList), hnamed, -⟩ := @Runner.exists_drawn_of_failure?
      (.ofText "<unnamed>" text) _ theme hwidest colour report hfailure
    have diagnostics_eq {name : String} {t : Step}
        (ht : (⟨theme, colour⟩ : Runner).Shows (.ofText name text) (mode ⟨text, true, emit⟩) t) :
        t.diagnostics = above ++ Drawing.placeLine name p ++ "\n" ++ below ++ "\n" := by
      obtain ⟨drawn, hdrawn, hwritten⟩ := hnamed name
      exact (ht.diagnostics_eq hfailure hdrawn).trans hwritten
    rw [outcomeOfStep_of_failed (hs.succeeded_eq_false hfailure),
      outcomeOfStep_of_failed (hs'.succeeded_eq_false hfailure), hprinted, hemitted,
      diagnostics_eq hs, diagnostics_eq hs']
    refine ⟨rfl, rfl, .inr ⟨above, below ++ "\n" ++ failureMessage ++ "\n", p, ?_, ?_⟩⟩ <;>
      simp only [String.append_assoc]

end

/-! ## all of it -/

/-- **What a command leaves.**  It ends with exit code 0 and in silence, or with 1 and a last line
that says why, under the report if it was the script that failed.  Without an emission each call of
`print` that has an argument is one line of the output, also those before a failure; with one
nothing is called, and there is no output of a text that is no script.  A script given on the
command line and the same script in a file differ in the name in the report and in nothing else.
The limit of paddings on a terminal may stop a command, and changes nothing else. -/
theorem outcome_streams (read : String → Except ReadError String) (colour : Bool) (c : Command) :
    (∃ o, c.outcomeIn Theme.standard.unlimited read colour = .ok o ∧
      Drawing.UpToWidth (c.outcome read colour) (.ok o) ∧
      (o.exitCode = 0 ↔ o.err = "") ∧
      (o.exitCode = 0 ∧
          (∃ source, c.source read = .ok source ∧ c.mode.failure? source.text = none) ∨
        o.exitCode = 1 ∧ ∃ diagnostics last,
          FailsWith Theme.standard.unlimited read colour c o diagnostics last) ∧
      ∀ source, c.source read = .ok source →
        (c.emit = none → ∃ calls : List Call,
          calls = (Engine.withPrint : Engine Empty).scriptCalls source.text ∧
          (∀ call ∈ calls, call.function = "print") ∧
          (∀ line ∈ calls.filterMap Call.line?, OneLine line) ∧
          o.out = written (calls.filterMap Call.line?)) ∧
        (c.emit ≠ none → ∃ step, step.printed = [] ∧ o = outcomeOfStep step ∧
          (⟨Theme.standard.unlimited, colour⟩ : Runner).step source c.mode = .ok step) ∧
        (c.emit = some .tokens → o = ⟨0, Runner.tokenListing source, ""⟩) ∧
        (c.emit = some .ast →
          (∀ s, Script.parse source.text = .ok s → o = ⟨0, s.text ++ "\n", ""⟩) ∧
          ∀ d, Script.parse source.text = .error d → o.exitCode = 1 ∧ o.out = "")) ∧
    ∀ text path emit, read path = .ok text → ∃ o o',
      outcomeIn Theme.standard.unlimited read colour ⟨text, true, emit⟩ = .ok o ∧
      outcomeIn Theme.standard.unlimited read colour ⟨path, false, emit⟩ = .ok o' ∧
      o.exitCode = o'.exitCode ∧ o.out = o'.out ∧
      (o.err = "" ∧ o'.err = "" ∨ ∃ above below, ∃ p : Spot text.toList,
        o.err = above ++ Drawing.placeLine "<unnamed>" p ++ "\n" ++ below ∧
        o'.err = above ++ Drawing.placeLine path p ++ "\n" ++ below) := by
  have hwidest : Theme.standard.unlimited.widest? = none := rfl
  refine ⟨?_, fun text path emit hread => outcome_by_name hwidest colour hread emit⟩
  obtain ⟨o, ho, hends⟩ := exists_ends hwidest read colour c
  have hlimit := outcome_upToWidth read c colour
  rw [ho] at hlimit
  refine ⟨o, ho, hlimit, ?_, ?_, fun source hsource => ⟨fun hemit => ?_, fun hemit => ?_,
    fun hemit => ?_, fun hemit => ?_⟩⟩
  · obtain ⟨hcode, herr, -⟩ | ⟨hcode, herr, -⟩ := hends
    · exact iff_of_true hcode herr
    · exact iff_of_false (by rw [hcode]; decide) herr
  · exact hends.imp (fun ⟨hcode, _, hdone⟩ => ⟨hcode, hdone⟩)
      fun ⟨hcode, _, hfails⟩ => ⟨hcode, hfails⟩
  · refine ⟨_, rfl, fun call hcall => Engine.withPrint_function _ hcall, fun line hline => ?_,
      out_of_execute hwidest hsource ho hemit⟩
    obtain ⟨call, -, hcall⟩ := List.mem_filterMap.mp hline
    exact Call.oneLine_of_line? hcall
  · obtain ⟨s, hs, hstep⟩ := exists_shows_of_ok hwidest hsource ho
    refine ⟨s, ?_, hstep, hs.step_eq⟩
    rw [hs.printed, printed_of_emission hemit]
  · exact Except.ok.inj (ho.symm.trans (outcomeIn_of_tokens hsource hemit))
  · exact ⟨fun s hparse => Except.ok.inj (ho.symm.trans (outcomeIn_of_ast hsource hemit hparse)),
      fun d hparse => out_of_ast_of_error hwidest hsource ho hemit hparse⟩

/-- A script in a file prints a number and then fails: it prints a variable without a value. -/
theorem outcome_streams_file :
    let text := "function f() \x7b print(1); print(x); \x7d"
    let read : String → Except ReadError String :=
      fun path => if path = "demo" then .ok text else .error .notFound
    (∃ o, outcomeIn Theme.standard.unlimited read false ⟨"demo", false, none⟩ = .ok o ∧
      o.exitCode = 1 ∧ o.out = "1\n" ∧ ∃ diagnostics, diagnostics ≠ "" ∧
        o.err = diagnostics ++ "errors while running script" ++ "\n") ∧
    read "demo" = .ok text ∧
    ∃ o o', outcomeIn Theme.standard.unlimited read false ⟨text, true, none⟩ = .ok o ∧
      outcomeIn Theme.standard.unlimited read false ⟨"demo", false, none⟩ = .ok o' ∧
      o.exitCode = o'.exitCode ∧ o.out = o'.out := by
  intro text read
  have htokens : Token.ofText text =
      [⟨.keyword .function, "function", ⟨0, 8⟩⟩, ⟨.identifier, "f", ⟨9, 10⟩⟩,
        ⟨.symbol '(', "(", ⟨10, 11⟩⟩, ⟨.symbol ')', ")", ⟨11, 12⟩⟩,
        ⟨.symbol '\x7b', "\x7b", ⟨13, 14⟩⟩,
        ⟨.identifier, "print", ⟨15, 20⟩⟩, ⟨.symbol '(', "(", ⟨20, 21⟩⟩,
        ⟨.number, "1", ⟨21, 22⟩⟩, ⟨.symbol ')', ")", ⟨22, 23⟩⟩, ⟨.symbol ';', ";", ⟨23, 24⟩⟩,
        ⟨.identifier, "print", ⟨25, 30⟩⟩, ⟨.symbol '(', "(", ⟨30, 31⟩⟩,
        ⟨.identifier, "x", ⟨31, 32⟩⟩, ⟨.symbol ')', ")", ⟨32, 33⟩⟩, ⟨.symbol ';', ";", ⟨33, 34⟩⟩,
        ⟨.symbol '\x7d', "\x7d", ⟨35, 36⟩⟩] := Token.allFrom_of_lists (by decide)
  have hlines : ((Engine.withPrint : Engine Empty).scriptCalls text).filterMap Call.line?
      = ["1"] := by
    unfold Engine.scriptCalls Script.parse
    rw [htokens]
    decide +kernel
  have hfails : (Mode.execute.failure? text).isSome = true := by
    unfold Mode.failure?
    dsimp only
    unfold Engine.run Script.parse
    rw [htokens]
    decide +kernel
  have hread : read "demo" = .ok text := rfl
  have hsource : source read ⟨"demo", false, none⟩ = .ok (.ofText "demo" text) := rfl
  obtain ⟨⟨o, ho, -, -, hends, hstreams⟩, hnames⟩ :=
    outcome_streams read false ⟨"demo", false, none⟩
  obtain ⟨_, rfl, -, -, hout⟩ := (hstreams _ hsource).1 rfl
  obtain ⟨o₁, o₂, h₁, h₂, hcode, houts, -⟩ := hnames text "demo" none hread
  refine ⟨⟨o, ho, ?_⟩, hread, o₁, o₂, h₁, h₂, hcode, houts⟩
  have hprinted : o.out = "1\n" := by
    rw [hout]
    exact congrArg written hlines
  obtain ⟨-, found, hfound, hnone⟩ | ⟨hfailed, diagnostics, last, hwith⟩ := hends
  · obtain rfl : Source.ofText "demo" text = found := Except.ok.inj (hsource.symm.trans hfound)
    exact absurd (hfails.symm.trans (congrArg Option.isSome hnone)) (by decide)
  · have hne : diagnostics ≠ "" := fun hempty => by
      obtain ⟨e, he, -⟩ := hwith.unread.mp hempty
      cases hsource.symm.trans he
    obtain ⟨_, _, _, -, -, -, -, rfl⟩ := hwith.failed.mp hne
    exact ⟨hfailed, hprinted, diagnostics, hne, hwith.err_eq⟩

end Scriptlet.Command
