import Scriptlet.Proofs.Token.Coverage
import Scriptlet.Proofs.Token.Spelling

/-!
# Tiling: the tokens of a text, told without the lexer

What each kind of token looks like in a text is told here by the characters at its span and by what
comes after them.  Nothing else is needed to know the tokens of a text.

* `Shaped`, `lexeme_iff`   the characters of a token of each kind; they are its lexemes;
* `Tiles`                  tokens that stand in a text, with nothing but blanks around them;
* `ofText_eq_iff`          one list of tokens does so, and the lexer gives it.
-/

namespace Scriptlet.Token

open Text

/-! ## shapes -/

/-- The first of the characters `l` satisfies `first` and the others satisfy `more`, and it is not
one of these that comes next. -/
def Longest (first more : Char → Bool) (l rest : List Char) : Prop :=
  (∃ ch tail, l = ch :: tail ∧ first ch = true ∧ ∀ c ∈ tail, more c = true) ∧ Ends more rest

/-- The characters `l`, when `rest` comes after them, are as those of a token with the kind and the
text.  A string is over at the next quote like its first one, and is open to the end of the text
if there is none. -/
def Shaped (k : Kind) (t : String) (l rest : List Char) : Prop :=
  match k with
  | .keyword w => Longest isAlphabetic isWordChar l rest ∧ t.toList = l ∧ t = w.text
  | .identifier =>
    Longest isAlphabetic isWordChar l rest ∧ t.toList = l ∧ ∀ w : Keyword, t ≠ w.text
  | .number => Longest Char.isDigit isNumberChar l rest ∧ t.toList = l
  | .string =>
    ∃ q, isQuote q = true ∧ q ∉ t.toList ∧
      (l = q :: t.toList ++ [q] ∨ l = q :: t.toList ∧ rest = [])
  | .symbol c => l = [c] ∧ t.toList = l ∧ IsMark c
  | .endOfInput => False

variable {k : Kind} {t : String} {l rest : List Char}

theorem wordKind_of_text (w : Keyword) : wordKind w.text = .keyword w := by
  unfold wordKind
  rw [Keyword.ofText?_text]

theorem wordKind_of_ne (h : ∀ w : Keyword, t ≠ w.text) : wordKind t = .identifier := by
  unfold wordKind
  cases hw : Keyword.ofText? t with
  | none => rfl
  | some w => exact absurd (Keyword.ofText?_eq_some_iff.mp hw) (h w)

theorem Lexeme.shaped (h : Lexeme k t l rest) : Shaped k t l rest := by
  cases h with
  | @word ch tail _ hch htail hend =>
    have hlongest : Longest isAlphabetic isWordChar (ch :: tail) rest :=
      ⟨⟨ch, tail, rfl, hch, htail⟩, hend⟩
    have htext := String.toList_ofList (l := ch :: tail)
    by_cases hword : ∃ w : Keyword, String.ofList (ch :: tail) = w.text
    · obtain ⟨w, hw⟩ := hword
      rw [hw] at htext ⊢
      rw [wordKind_of_text]
      exact ⟨hlongest, htext, rfl⟩
    · rw [not_exists] at hword
      rw [wordKind_of_ne hword]
      exact ⟨hlongest, htext, hword⟩
  | @number ch tail _ hch htail hend =>
    exact ⟨⟨⟨ch, tail, rfl, hch, htail⟩, hend⟩, String.toList_ofList⟩
  | @closed q text _ hq htext =>
    refine ⟨q, hq, ?_, .inl ?_⟩ <;> rw [String.toList_ofList]
    exact htext
  | @unclosed q text hq htext =>
    refine ⟨q, hq, ?_, .inr ⟨?_, rfl⟩⟩ <;> rw [String.toList_ofList]
    exact htext
  | symbol hblank halpha hdigit hquote =>
    exact ⟨rfl, String.toList_ofList, hblank, halpha, hdigit, hquote⟩

theorem Shaped.lexeme (h : Shaped k t l rest) : Lexeme k t l rest := by
  have ofList_eq (htext : t.toList = l) : String.ofList l = t := by
    rw [← htext, String.ofList_toList]
  cases k with
  | keyword w =>
    obtain ⟨⟨⟨ch, tail, rfl, hch, htail⟩, hend⟩, htext, rfl⟩ := h
    have hlex := Lexeme.word hch htail hend
    rwa [ofList_eq htext, wordKind_of_text] at hlex
  | identifier =>
    obtain ⟨⟨⟨ch, tail, rfl, hch, htail⟩, hend⟩, htext, hword⟩ := h
    have hlex := Lexeme.word hch htail hend
    rwa [ofList_eq htext, wordKind_of_ne hword] at hlex
  | number =>
    obtain ⟨⟨⟨ch, tail, rfl, hch, htail⟩, hend⟩, htext⟩ := h
    have hlex := Lexeme.number hch htail hend
    rwa [ofList_eq htext] at hlex
  | string =>
    obtain ⟨q, hq, hfree, rfl | ⟨rfl, rfl⟩⟩ := h
    · have hlex := @Lexeme.closed q t.toList rest hq hfree
      rwa [String.ofList_toList] at hlex
    · have hlex := Lexeme.unclosed hq hfree
      rwa [String.ofList_toList] at hlex
  | symbol c =>
    obtain ⟨rfl, htext, hmark⟩ := h
    have hlex := hmark.lexeme rest
    rwa [ofList_eq htext] at hlex
  | endOfInput => exact h.elim

theorem lexeme_iff : Lexeme k t l rest ↔ Shaped k t l rest := ⟨Lexeme.shaped, Shaped.lexeme⟩

/-! ## tilings -/

def ShapedIn (cs : List Char) (t : Token) : Prop :=
  ∃ l rest, slice? t.span cs = some l ∧ dropBytes? t.span.stop cs = some rest ∧
    Shaped t.kind t.text l rest

/-- Each of the tokens stands in the text, and all that is before, between and after them is blank.
The tokens are in order, or else there would be no text between two of them. -/
structure Tiles (cs : List Char) (ts : List Token) : Prop where
  shaped : ∀ t ∈ ts, ShapedIn cs t
  blank : ∀ g ∈ gaps 0 (byteLength cs) ts, ∃ xs, slice? g cs = some xs ∧ Blanks xs

theorem Covers.tiles {cs : List Char} {ts : List Token} (h : Covers 0 cs ts) : Tiles cs ts where
  shaped t ht := by
    obtain ⟨a, l, b, rfl, hlex, hspan⟩ := h.lexeme_of_mem ht
    rw [Nat.zero_add] at hspan
    refine ⟨l, b, slice?_eq_some_iff.mpr ⟨a, b, rfl, hspan⟩, ?_, hlex.shaped⟩
    rw [hspan, ← byteLength_append]
    exact dropBytes?_append (a ++ l) b
  blank := Covers.slice?_gaps [] h

/-- From a place where one token is over, the tokens after it cover the text. -/
theorem covers_of_tiles {pre cs : List Char} {ts : List Token}
    (hshaped : ∀ t ∈ ts, ShapedIn (pre ++ cs) t)
    (hblank : ∀ g ∈ gaps (byteLength pre) (byteLength (pre ++ cs)) ts,
      ∃ xs, slice? g (pre ++ cs) = some xs ∧ Blanks xs) : Covers (byteLength pre) cs ts := by
  induction ts generalizing pre cs with
  | nil =>
    obtain ⟨gap, hslice, hgap⟩ := hblank _ (List.mem_singleton_self _)
    obtain ⟨b, rfl, hstop⟩ := slice?_append_iff.mp hslice
    have hb : byteLength b = 0 := by
      rw [byteLength_append, byteLength_append] at hstop
      omega
    rw [byteLength_eq_zero_iff.mp hb, List.append_nil]
    exact .blanks hgap
  | cons t ts ih =>
    obtain ⟨kind, text, start, stop⟩ := t
    obtain ⟨hfirst, hlater⟩ := List.forall_mem_cons.mp hshaped
    obtain ⟨hbefore, hafter⟩ := List.forall_mem_cons.mp hblank
    obtain ⟨gap, hslice, hgap⟩ := hbefore
    obtain ⟨l, rest, hl, hrest, hlex⟩ := hfirst
    obtain ⟨b, rfl, rfl⟩ := slice?_append_iff.mp hslice
    rw [← List.append_assoc, ← byteLength_append] at hl
    obtain ⟨c, rfl, rfl⟩ := slice?_append_iff.mp hl
    -- The token is over at the end of `pre ++ gap ++ l`, where the induction goes on.
    have hstop : byteLength (pre ++ gap) + byteLength l = byteLength (pre ++ gap ++ l) :=
      (byteLength_append _ _).symm
    have htext : pre ++ (gap ++ (l ++ c)) = pre ++ gap ++ l ++ c := by
      simp only [List.append_assoc]
    rw [htext, hstop] at hafter
    rw [hstop, ← List.append_assoc, ← List.append_assoc, dropBytes?_append] at hrest
    obtain rfl := Option.some.inj hrest
    rw [htext] at hlater
    have hcovers := ih hlater hafter
    rw [← hstop, byteLength_append] at hcovers
    rw [byteLength_append]
    exact .token hgap hlex.lexeme hcovers

/-- **The lexer gives the only list of tokens that stand in the text with nothing but blanks around
them.**  Each of these has the shape of its kind, and goes on for as long as the kind can. -/
theorem ofText_eq_iff (s : String) (ts : List Token) : ofText s = ts ↔ Tiles s.toList ts := by
  constructor
  · rintro rfl
    exact (covers_ofText s).tiles
  · intro h
    exact (@covers_of_tiles [] s.toList ts h.shaped h.blank).allFrom_eq

end Scriptlet.Token
