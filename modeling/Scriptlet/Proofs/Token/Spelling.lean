import Scriptlet.Proofs.Number.ReadBack
import Scriptlet.Proofs.Token.Coverage

/-!
# Spelling: texts that are one token wherever they stand

* `IsName`             the texts that can be names: read alone, they are one identifier token;
* `Lexeme.isName`      whatever is an identifier somewhere is a name;
* `IsName.lexeme`      a name is an identifier wherever no character comes next that goes on with
                       it;
* `lexeme_of_finite`   so for the numbers, `lexeme_of_keyword` and `IsMark.lexeme` for the rest.
-/

namespace Scriptlet.Token

open Text

/-! ## names -/

/-- Read alone, the text is one identifier token that covers it. -/
def IsName (s : String) : Prop := ofText s = [⟨.identifier, s, ⟨0, s.utf8ByteSize⟩⟩]

theorem Lexeme.exists_word {s : String} {l rest : List Char} (h : Lexeme .identifier s l rest) :
    ∃ ch tail, l = ch :: tail ∧ s = String.ofList l ∧ isAlphabetic ch = true ∧
      (∀ c ∈ tail, isWordChar c = true) ∧ wordKind s = .identifier := by
  generalize hk : Token.Kind.identifier = k at h
  cases h with
  | word hch htail => exact ⟨_, _, rfl, rfl, hch, htail, rfl⟩
  | number => cases hk
  | closed => cases hk
  | unclosed => cases hk
  | symbol => cases hk

theorem Lexeme.word_of_identifier {s : String} {l rest rest' : List Char}
    (h : Lexeme .identifier s l rest) (hend : Ends isWordChar rest') :
    Lexeme .identifier s s.toList rest' := by
  obtain ⟨ch, tail, rfl, rfl, hch, htail, hkind⟩ := h.exists_word
  have hword := Lexeme.word hch htail hend
  rwa [hkind, ← String.toList_ofList (l := ch :: tail), String.ofList_toList] at hword

theorem Lexeme.isName {s : String} {l rest : List Char} (h : Lexeme .identifier s l rest) :
    IsName s := by
  have hnil : Blanks [] := List.forall_mem_nil _
  have halone := allFrom_lexeme hnil (h.word_of_identifier (ends_nil _)) 0
  rw [List.nil_append, List.append_nil, byteLength_nil, byteLength_toList,
    allFrom_blanks hnil] at halone
  show allFrom ⟨0, s.toList⟩ = _
  rw [halone, Nat.add_zero, Nat.zero_add]

/-- A name is an identifier wherever no character comes next that goes on with it. -/
theorem IsName.lexeme {s : String} (h : IsName s) {rest : List Char} (hend : Ends isWordChar rest) :
    Lexeme .identifier s s.toList rest := by
  have hmem : ⟨.identifier, s, ⟨0, s.utf8ByteSize⟩⟩ ∈ ofText s := by
    rw [h]
    exact List.mem_singleton_self _
  obtain ⟨_, l, b, -, hlex, -⟩ := (covers_ofText s).lexeme_of_mem hmem
  exact hlex.word_of_identifier hend

/-! ## numbers, keywords and marks -/

theorem exists_cons_chars (d : Decimal) :
    ∃ ch tail, d.chars = ch :: tail ∧ ch.isDigit = true ∧ ∀ c ∈ tail, isNumberChar c = true := by
  have hdigit {c : Char} (h : c.isDigit = true) : isNumberChar c = true := by
    rw [isNumberChar, h, Bool.true_or]
  have hdigits (n : Nat) : ∃ ch tail, Nat.toDigits 10 n = ch :: tail ∧ ch.isDigit = true ∧
      ∀ c ∈ tail, isNumberChar c = true := by
    have hall {c : Char} (h : c ∈ Nat.toDigits 10 n) := Decimal.isDigit_of_mem_toDigits h
    obtain ⟨ch, tail, hn⟩ := List.exists_cons_of_ne_nil (Nat.toDigits_ne_nil (n := n) (b := 10))
    rw [hn] at hall
    exact ⟨ch, tail, hn, hall List.mem_cons_self,
      fun c hc => hdigit (hall (List.mem_cons_of_mem _ hc))⟩
  unfold Decimal.chars
  split
  · exact hdigits _
  · obtain ⟨ch, tail, hn, hch, htail⟩ := hdigits (d.digits / Nat.pow 10 d.places)
    rw [hn]
    refine ⟨ch, _, rfl, hch, List.forall_mem_append.mpr ⟨htail, ?_⟩⟩
    exact List.forall_mem_cons.mpr
      ⟨by decide, fun c hc => hdigit (Decimal.isDigit_of_mem_padded hc)⟩

theorem lexeme_of_finite {v : Number} (hfinite : v.isFinite = true) (hsign : v.isNegative = false)
    {rest : List Char} (hend : Ends isNumberChar rest) :
    Lexeme .number v.text v.text.toList rest := by
  rw [Number.text_of_finite hfinite hsign, String.toList_ofList]
  obtain ⟨ch, tail, hchars, hch, htail⟩ := exists_cons_chars v.shortest
  rw [hchars]
  exact .number hch htail hend

theorem lexeme_of_word {ch : Char} {tail rest : List Char} (hch : isAlphabetic ch = true)
    (htail : tail.all isWordChar = true) (hend : Ends isWordChar rest) :
    Lexeme (wordKind (String.ofList (ch :: tail))) (String.ofList (ch :: tail)) (ch :: tail) rest :=
  .word hch (List.all_eq_true.mp htail) hend

theorem lexeme_of_keyword (k : Keyword) {rest : List Char} (hend : Ends isWordChar rest) :
    Lexeme (.keyword k) k.text k.text.toList rest := by
  cases k with
  | function =>
    exact @lexeme_of_word 'f' ['u', 'n', 'c', 't', 'i', 'o', 'n'] rest (by decide) (by decide) hend
  | var => exact @lexeme_of_word 'v' ['a', 'r'] rest (by decide) (by decide) hend

def IsMark (c : Char) : Prop :=
  isBlank c = false ∧ isAlphabetic c = false ∧ c.isDigit = false ∧ isQuote c = false

instance (c : Char) : Decidable (IsMark c) := inferInstanceAs (Decidable (_ ∧ _))

theorem IsMark.lexeme {c : Char} (h : IsMark c) (rest : List Char) :
    Lexeme (.symbol c) (String.ofList [c]) [c] rest :=
  .symbol h.1 h.2.1 h.2.2.1 h.2.2.2

end Scriptlet.Token
