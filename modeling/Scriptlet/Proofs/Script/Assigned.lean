import Scriptlet.Proofs.Script.Recognition
import Scriptlet.Proofs.Script.Relocation
import Scriptlet.Proofs.Token.Concatenation

/-!
# Assigned: a text that is an expression, in the script that does nothing but assign it

`Script.assigning t` is the text of a script whose only statement assigns the text `t` to a
variable.  If the tokens of `t` are an expression, this script is read, and the expression in it is
that of `t` alone, each offset later by the bytes in front of `t` (`Script.parse_assigning`).  It is
read as one assignment in no other case (`Script.exists_of_parse_assigning`).
-/

namespace Scriptlet

open Grammar Text

namespace Script

def assigningHead : String := "function f()\x7bvar r="

def assigningTail : String := ";\x7d"

def assigning (t : String) : String := assigningHead ++ t ++ assigningTail

def assigned (e : Expr) : Script := ⟨⟨"f", ⟨9, 10⟩⟩, [.assign ⟨"r", ⟨17, 18⟩⟩ e]⟩

def headTokens : List Token :=
  [⟨.keyword .function, "function", ⟨0, 8⟩⟩, ⟨.identifier, "f", ⟨9, 10⟩⟩,
    ⟨.symbol '(', "(", ⟨10, 11⟩⟩, ⟨.symbol ')', ")", ⟨11, 12⟩⟩, ⟨.symbol '\x7b', "\x7b", ⟨12, 13⟩⟩,
    ⟨.keyword .var, "var", ⟨13, 16⟩⟩, ⟨.identifier, "r", ⟨17, 18⟩⟩, ⟨.symbol '=', "=", ⟨18, 19⟩⟩]

def semicolon : Token := ⟨.symbol ';', ";", ⟨0, 1⟩⟩

def lastBrace : Token := ⟨.symbol '\x7d', "\x7d", ⟨1, 2⟩⟩

def tailTokens : List Token := [semicolon, lastBrace]

theorem ofText_head : Token.ofText assigningHead = headTokens :=
  Token.allFrom_of_lists (by decide)

theorem ofText_tail : Token.ofText assigningTail = tailTokens :=
  Token.allFrom_of_lists (by decide)

/-- The head ends in a symbol, so its tokens do not depend on what comes after it. -/
theorem ofText_head_append (u : String) :
    Token.ofText (assigningHead ++ u)
      = headTokens ++ (Token.ofText u).map (Token.later assigningHead.utf8ByteSize) := by
  rw [← ofText_head]
  refine Token.ofText_append_of_mayFollow ?_
  rw [ofText_head]
  intro v hv
  cases hv
  trivial

end Script

/-- No string is part of an expression. -/
theorem Grammar.ExprPhrase.kind_ne_string {lit : Literals} {r : Rule} {us : List Token} {e : Expr}
    (h : ExprPhrase lit r us e) : ∀ t ∈ us, t.kind ≠ .string := by
  intro t ht hkind
  have hterminal := h.admitted admits_terminal t ht
  rw [hkind] at hterminal
  exact hterminal

theorem Grammar.ScriptPhrase.kind_ne_string {lit : Literals} {us : List Token} {s : Script}
    (hs : ScriptPhrase lit us s) : ∀ t ∈ us, t.kind ≠ .string := by
  intro t ht hkind
  have hterminal := hs.terminal t ht
  rw [hkind] at hterminal
  exact hterminal

namespace Script

def assignedTokens (t : String) : List Token :=
  (Token.ofText t).map (Token.later assigningHead.utf8ByteSize)

def tailOffset (t : String) : Nat := assigningHead.utf8ByteSize + t.utf8ByteSize

theorem ofText_assigning_of_ne_string {t : String} (h : ∀ u ∈ Token.ofText t, u.kind ≠ .string) :
    Token.ofText (assigning t)
      = headTokens ++ (assignedTokens t ++ tailTokens.map (Token.later (tailOffset t))) := by
  have hfollow : ∀ u ∈ (Token.ofText t).getLast?, Token.MayFollow assigningTail.toList u.kind :=
    fun u hu => Token.mayFollow_of_ends (Token.ends_cons.mpr (by decide))
      (Token.ends_cons.mpr (by decide)) (h u (List.mem_of_getLast? hu))
  rw [assigning, String.append_assoc, ofText_head_append, Token.ofText_append_of_mayFollow hfollow,
    List.map_append, ofText_tail]
  rfl

theorem ofText_assigning {t : String} {e : Expr} (h : ExprPhrase exactly .expr (Token.ofText t) e) :
    Token.ofText (assigning t)
      = headTokens ++ (assignedTokens t ++ tailTokens.map (Token.later (tailOffset t))) :=
  ofText_assigning_of_ne_string h.kind_ne_string

/-- **A text that is an expression is read as this expression where it is assigned.** -/
theorem parse_assigning {t : String} {e : Expr} (h : ExprPhrase exactly .expr (Token.ofText t) e) :
    parse (assigning t) = .ok (assigned (e.later assigningHead.utf8ByteSize)) := by
  have hvalue : ExprPhrase exactly .expr (assignedTokens t) _ := h.later _
  have hstatement : StatementPhrase exactly
      (⟨.keyword .var, "var", ⟨13, 16⟩⟩ :: ⟨.identifier, "r", ⟨17, 18⟩⟩
        :: ⟨.symbol '=', "=", ⟨18, 19⟩⟩
        :: (assignedTokens t ++ [Token.later (tailOffset t) semicolon]))
      (.assign ⟨"r", ⟨17, 18⟩⟩ (e.later assigningHead.utf8ByteSize)) :=
    .assign rfl rfl rfl hvalue rfl
  have hbody := Repeated.cons hstatement .nil
  rw [List.append_nil] at hbody
  rw [parse_eq_ok_iff, Parser.script_eq_ok_iff, ofText_assigning h]
  refine Parser.braced_iff.mp (Parser.then_one_iff.mpr ⟨_, _, rfl, rfl, ?_⟩)
  refine Parser.then_name_iff.mpr ⟨_, _, rfl, rfl, ?_⟩
  refine Parser.then_one_iff.mpr ⟨_, _, rfl, rfl, ?_⟩
  refine Parser.then_one_iff.mpr ⟨_, _, rfl, rfl, ?_⟩
  refine Parser.then_one_iff.mpr ⟨_, _, rfl, rfl, _, [Token.later (tailOffset t) lastBrace], _, ?_,
    hbody, ?_⟩
  · exact congrArg (_ :: _ :: _ :: ·) (List.append_assoc (assignedTokens t) [_] [_]).symm
  · exact Parser.then_one_iff.mpr ⟨_, _, rfl, rfl, rfl, rfl⟩

theorem kind_ne_string_of_parse_assigning {t : String} {s : Script}
    (h : parse (assigning t) = .ok s) : ∀ u ∈ Token.ofText t, u.kind ≠ .string := by
  intro u hu hkind
  -- a string in `t` is one in the whole script, though it may be open and go on to the end
  have hstring := (Token.covers_ofText t).exists_string ⟨u, hu, hkind⟩ assigningTail.toList
  rw [← String.toList_append] at hstring
  obtain ⟨v, hv, hkind⟩ := hstring
  have hmem : Token.later assigningHead.utf8ByteSize v ∈ Token.ofText (assigning t) := by
    rw [assigning, String.append_assoc, ofText_head_append]
    exact List.mem_append_right _ (List.mem_map_of_mem hv)
  rw [parse_eq_ok_iff, Parser.script_eq_ok_iff] at h
  exact h.kind_ne_string (Token.later _ v) hmem hkind

/-- **A text that is read as one assigned expression is this expression.** -/
theorem exists_of_parse_assigning {t : String} {f x : Ident} {e : Expr}
    (h : parse (assigning t) = .ok ⟨f, [.assign x e]⟩) :
    ∃ d, ExprPhrase exactly .expr (Token.ofText t) d ∧ e = d.later assigningHead.utf8ByteSize := by
  have htokens := ofText_assigning_of_ne_string (kind_ne_string_of_parse_assigning h)
  rw [parse_eq_ok_iff, Parser.script_eq_ok_iff, htokens] at h
  generalize hus : headTokens ++ _ = us at h
  cases h with
  | @mk function name opening closing brace last ts _ _ _ _ _ _ hbody _ =>
    cases hbody with
    | cons hst hnil =>
      cases hnil
      cases hst with
      | @assign var name eq semi ts _ _ _ _ he _ =>
        simp only [headTokens, tailTokens, List.map_cons, List.map_nil, List.cons_append,
          List.nil_append, List.append_nil, List.append_assoc, List.cons.injEq] at hus
        obtain ⟨-, -, -, -, -, -, -, -, hvalue⟩ := hus
        obtain ⟨rfl, -⟩ := List.append_inj' hvalue rfl
        exact he.of_later

end Script

end Scriptlet
