import Scriptlet.Proofs.Engine.Session
import Scriptlet.Proofs.Text.OneLine
import Scriptlet.Proofs.Token.Spelling

/-!
# Log: what an engine with `print` writes of a script

An engine with `print` alone makes no other calls, and logs one line for each of them that has an
argument.

* `Number.oneLine_text`   a number is written on one line;
* `Call.line?`            what a call of `print` logs;
* `withPrint_log`         the log of a run with `print` alone.
-/

namespace Scriptlet

open Text

theorem Number.oneLine_text (v : Number) : OneLine v.text := by
  have hchars (d : Decimal) : '\n' ∉ d.chars := by
    obtain ⟨ch, tail, hd, hch, htail⟩ := Token.exists_cons_chars d
    rw [hd, List.mem_cons, not_or]
    refine ⟨?_, fun hmem => absurd (htail _ hmem) (by decide)⟩
    rintro rfl
    exact absurd hch (by decide)
  unfold text
  split
  · decide
  · rw [oneLine_ofList]
    have hbody : '\n' ∉ if v.isInfinite then ['i', 'n', 'f'] else v.shortest.chars := by
      split
      · decide
      · exact hchars _
    split
    · rw [List.mem_cons, not_or]
      exact ⟨by decide, hbody⟩
    · exact hbody

/-- what a call of `print` logs: its first argument, if it has one -/
def Call.line? (c : Call) : Option String := c.args.head?.map Number.text

theorem Call.oneLine_of_line? {c : Call} {line : String} (h : c.line? = some line) :
    OneLine line := by
  obtain ⟨v, -, rfl⟩ := Option.map_eq_some_iff.mp h
  exact v.oneLine_text

namespace Engine

variable {κ : Type} (text : String)

theorem withPrint_function {c : Call} (h : c ∈ (withPrint : Engine κ).scriptCalls text) :
    c.function = "print" :=
  ((Base.hasFunction_engine .withPrint c.function).mp (known_of_mem_scriptCalls h)).2

theorem withPrint_logged? {c : Call} (h : c.function = "print") :
    (withPrint : Engine κ).logged? c = c.line? := by
  have hprint : (withPrint : Engine κ).natives.get? "print" = some .print :=
    Bindings.get?_set_self _ _ _
  unfold logged?
  rw [h, hprint]
  rfl

/-- **The log of a run with `print` alone** has one line for each call that has an argument, in the
order of the calls. -/
theorem withPrint_log : ((withPrint : Engine κ).run text).log
    = ((withPrint : Engine κ).scriptCalls text).filterMap Call.line? := by
  rw [run_log]
  exact List.filterMap_congr fun c hc => withPrint_logged? (withPrint_function text hc)

end Engine

end Scriptlet
