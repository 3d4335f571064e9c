import Mathlib.Tactic.SplitIfs
import Scriptlet.Proofs.Text.Classes
import Scriptlet.Text.Quoted

/-!
# One line: texts without a line feed, and the lines that are written of them

* `oneLine_append`   texts are on one line together when each of them is;
* `oneLine_quoted`   a quoted text is, whatever is quoted;
* `written`          lines, each with a line feed after it;
* `count_written`    so many line feeds are in them.
-/

namespace Scriptlet.Text

def OneLine (s : String) : Prop := '\n' ∉ s.toList

instance (s : String) : Decidable (OneLine s) := inferInstanceAs (Decidable ('\n' ∉ s.toList))

theorem oneLine_append {s t : String} : OneLine (s ++ t) ↔ OneLine s ∧ OneLine t := by
  unfold OneLine
  rw [String.toList_append, List.mem_append, not_or]

theorem oneLine_ofList {cs : List Char} : OneLine (String.ofList cs) ↔ '\n' ∉ cs := by
  unfold OneLine
  rw [String.toList_ofList]

theorem oneLine_join {ss : List String} : OneLine (String.join ss) ↔ ∀ s ∈ ss, OneLine s := by
  unfold OneLine
  rw [String.toList_join, List.mem_flatMap]
  constructor
  · intro h s hs hmem
    exact h ⟨s, hs, hmem⟩
  · intro h hmem
    obtain ⟨s, hs, hmem⟩ := hmem
    exact h s hs hmem

/-! ## digits and quotes -/

theorem not_mem_toDigits {b : Nat} (hb : 1 < b) (n : Nat) : '\n' ∉ Nat.toDigits b n := by
  have hdigit (d : Nat) : '\n' ≠ Nat.digitChar d := (Nat.digitChar_ne '\n' (by decide)).symm
  induction n using Nat.strongRecOn with
  | ind n ih =>
    rw [Nat.toDigits_eq_if hb]
    split_ifs with hn
    · rw [List.mem_singleton]
      exact hdigit n
    · have hlt : n / b < n := Nat.div_lt_self (by omega) hb
      rw [List.mem_append, List.mem_singleton, not_or]
      exact ⟨ih (n / b) hlt, hdigit (n % b)⟩

theorem oneLine_toString (n : Nat) : OneLine (toString n) := by
  rw [Nat.toString_eq_ofList_toDigits, oneLine_ofList]
  exact not_mem_toDigits (by decide) n

theorem not_mem_escape (quote c : Char) : '\n' ∉ escape quote c := by
  unfold escape
  split_ifs with hnul htab hreturn hfeed hquoted hvisible
  iterate 4 decide
  · have hc : '\n' ≠ c := Ne.symm hfeed
    simp [hc]
  · rw [List.mem_singleton]
    exact Ne.symm hfeed
  · unfold codePointEscape
    rw [List.mem_append, List.mem_append, not_or, not_or]
    exact ⟨⟨by decide, not_mem_toDigits (by decide) c.toNat⟩, by decide⟩

theorem not_mem_enclosed {quote : Char} {cs : List Char} (hquote : '\n' ≠ quote) (h : '\n' ∉ cs) :
    '\n' ∉ quote :: cs ++ [quote] := by
  rw [List.cons_append, List.mem_cons, List.mem_append, List.mem_singleton, not_or, not_or]
  exact ⟨hquote, h, hquote⟩

/-- **A quoted text has no line feed, whatever is quoted.** -/
theorem oneLine_quoted (s : String) : OneLine (quoted s) := by
  rw [quoted_eq, oneLine_ofList]
  refine not_mem_enclosed (by decide) ?_
  rw [List.mem_flatMap]
  rintro ⟨c, -, h⟩
  exact not_mem_escape '"' c h

theorem oneLine_quotedChar (c : Char) : OneLine (quotedChar c) := by
  rw [quotedChar, oneLine_ofList]
  exact not_mem_enclosed (by decide) (not_mem_escape '\x27' c)

/-! ## lines -/

theorem append_newline_ne (s : String) : s ++ "\n" ≠ "" := by
  intro h
  have hnewline := (String.append_eq_empty_iff.mp h).2
  exact absurd hnewline (by decide)

/-- the lines, each with a line feed after it -/
def written (lines : List String) : String := String.join (lines.map (· ++ "\n"))

theorem written_nil : written [] = "" := rfl

theorem written_cons (line : String) (lines : List String) :
    written (line :: lines) = line ++ "\n" ++ written lines := by
  rw [written, List.map_cons, String.join_cons]
  rfl

theorem count_written {lines : List String} (h : ∀ line ∈ lines, OneLine line) :
    (written lines).toList.count '\n' = lines.length := by
  induction lines with
  | nil => rfl
  | cons line lines ih =>
    obtain ⟨hline, hlines⟩ := List.forall_mem_cons.mp h
    rw [written_cons, String.toList_append, String.toList_append, List.count_append,
      List.count_append, List.count_eq_zero_of_not_mem hline, ih hlines, List.length_cons]
    show 0 + 1 + lines.length = _
    omega

end Scriptlet.Text
