import Scriptlet.Proofs.Script.Printing
import Scriptlet.Proofs.Script.Recognition

/-!
# Round trip: which scripts are read back from their text

* `Script.parse_text`    a script with names for names, and with literals that are finite and have
                         no sign, is read back up to spans;
* `Script.all_of_parse`  what is read from a text has names for names, and literals without sign;
* `Script.text_named`    an infinite literal is printed like a variable, so that a script that has
                         one is printed like another script;
* `Script.roundTrips_iff`  so the scripts that are read back are just those of the first kind.
-/

namespace Scriptlet

open Grammar

/-! ## scripts that are read back -/

theorem Script.parse_text {s : Script} (hs : s.All Token.IsName Number.IsPlain) :
    ∃ g, parse s.text = .ok g ∧ g.bare = s.bare := by
  obtain ⟨us, g, hus, hg, hbare⟩ := Parser.prints_script hs 0 [] trivial
  rw [List.append_nil, Token.allFrom_blanks (List.forall_mem_nil _), List.append_nil] at hus
  have htokens : Token.ofText s.text = us := hus
  refine ⟨g, ?_, hbare⟩
  rw [parse_eq_ok_iff, Parser.script_eq_ok_iff, htokens]
  exact hg

/-! ## scripts that are read -/

/-- The names that are read are names, and the literals have no sign and are no NaN. -/
theorem Script.all_of_parse {text : String} {g : Script} (h : parse text = .ok g) :
    g.All Token.IsName Number.IsUnsigned := by
  rw [parse_eq_ok_iff, Parser.script_eq_ok_iff] at h
  refine h.all fun t ht => ⟨fun hkind => ?_, fun _ v hv => Number.isUnsigned_of_ofText? hv⟩
  obtain ⟨_, l, b, -, hlex, -⟩ := (Token.covers_ofText text).lexeme_of_mem ht
  rw [hkind] at hlex
  exact hlex.isName

/-! ## infinite literals -/

def infinityText : String := "inf"

theorem isName_infinityText : Token.IsName infinityText := by
  have hword : Token.Lexeme .identifier infinityText ['i', 'n', 'f'] [] :=
    @Token.lexeme_of_word 'i' ['n', 'f'] [] (by decide) (by decide) (Token.ends_nil _)
  exact hword.isName

theorem Number.IsUnsigned.isPlain {v : Number} (hv : v.IsUnsigned) (htext : v.text ≠ infinityText) :
    v.IsPlain := by
  obtain ⟨hsign, hnan⟩ := hv
  refine ⟨?_, hsign⟩
  have hinf : v.isInfinite = false := by
    rw [Bool.eq_false_iff]
    intro hinf
    apply htext
    unfold text
    simp only [hnan, hinf, hsign, Bool.false_eq_true, if_false, if_true]
    rfl
  have hne : v.magnitude ≠ infinity := beq_eq_false_iff_ne.mp hinf
  have hle : ¬ infinity < v.magnitude := of_decide_eq_false hnan
  exact decide_eq_true (by omega)

/-- An expression with variables in the place of the literals that are printed like them. -/
def Expr.named : Expr → Expr
  | .number v s => if v.text = infinityText then .var ⟨infinityText, s⟩ s else .number v s
  | .var x s => .var x s
  | .binary op l r s => .binary op l.named r.named s

def Statement.named : Statement → Statement
  | .assign x e => .assign x e.named
  | .call f args => .call f (args.map Expr.named)

def Script.named (s : Script) : Script := ⟨s.name, s.body.map Statement.named⟩

theorem Expr.text_named (e : Expr) : e.named.text = e.text := by
  induction e with
  | number v s =>
    unfold named
    split
    · rename_i h
      exact h.symm
    · rfl
  | var x s => rfl
  | binary op l r s ihl ihr =>
    unfold named text
    rw [ihl, ihr]

theorem Statement.text_named (st : Statement) : st.named.text = st.text := by
  cases st with
  | assign x e => exact congrArg (fun u => "var " ++ x.name ++ " = " ++ u ++ ";") e.text_named
  | call f args =>
    have hargs : (args.map Expr.named).map Expr.text = args.map Expr.text := by
      rw [List.map_map]
      exact List.map_congr_left fun e _ => e.text_named
    exact congrArg (fun us => f.name ++ "(" ++ String.intercalate ", " us ++ ");") hargs

theorem Script.text_named (s : Script) : s.named.text = s.text := by
  have hlines : (s.body.map Statement.named).map (fun st => "    " ++ st.text ++ "\n")
      = s.body.map fun st => "    " ++ st.text ++ "\n" := by
    rw [List.map_map]
    exact List.map_congr_left fun st _ => congrArg (fun u => "    " ++ u ++ "\n") st.text_named
  exact congrArg (fun us => "function " ++ s.name.name ++ "() \x7b\n" ++ String.join us ++ "\x7d")
    hlines

theorem Expr.all_named {e : Expr} (h : e.All Token.IsName Number.IsUnsigned) :
    e.named.All Token.IsName Number.IsPlain := by
  induction e with
  | number v s =>
    unfold named
    split
    · exact isName_infinityText
    · exact Number.IsUnsigned.isPlain h ‹_›
  | var x s => exact h
  | binary op l r s ihl ihr => exact ⟨ihl h.1, ihr h.2⟩

theorem Statement.all_named {st : Statement} (h : st.All Token.IsName Number.IsUnsigned) :
    st.named.All Token.IsName Number.IsPlain := by
  cases st with
  | assign x e => exact ⟨h.1, Expr.all_named h.2⟩
  | call f args => exact ⟨h.1, List.forall_mem_map.mpr fun e he => Expr.all_named (h.2 e he)⟩

theorem Script.all_named {s : Script} (h : s.All Token.IsName Number.IsUnsigned) :
    s.named.All Token.IsName Number.IsPlain :=
  ⟨h.1, List.forall_mem_map.mpr fun st hst => Statement.all_named (h.2 st hst)⟩

/-! ## the scripts that are read back -/

/-- **A script is read back from its text if and only if all its names are names and all its
literals are finite and have no sign.** -/
theorem Script.roundTrips_iff (f : Script) :
    (∃ g, parse f.text = .ok g ∧ g.bare = f.bare) ↔ f.All Token.IsName Number.IsPlain := by
  constructor
  · intro h
    obtain ⟨g, hg, hbare⟩ := h
    have hall : f.All Token.IsName Number.IsUnsigned := (all_congr hbare).mp (all_of_parse hg)
    have hnamed : f.named.All Token.IsName Number.IsPlain := all_named hall
    -- the text of `f` is that of `f.named`, which is read back: so `f` was `f.named` all along
    obtain ⟨g', hg', hbare'⟩ := parse_text hnamed
    rw [f.text_named, hg] at hg'
    cases hg'
    exact (all_congr (hbare.symm.trans hbare')).mpr hnamed
  · exact parse_text

end Scriptlet
