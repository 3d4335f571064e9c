import Scriptlet.Proofs.Text.Classes
import Scriptlet.Token.Lexer

/-!
# Lexemes: what each kind of token looks like in a text

`Lexeme k t l rest`: the characters `l`, when `rest` comes after them, are one token of kind `k`
with the text `t`.  A word or a number goes on for as long as it can; a string goes up to the next
quote like its first one, or up to the end of the text.

* `exists_lexeme`      every character that is not blank starts a lexeme;
* `next_of_lexeme`     after blanks, the lexer gives the token of the lexeme that comes next;
* `next_blanks`        after blanks, at the end of the text, it gives the end of the input.
-/

namespace Scriptlet.Token

open Text

def Ends (p : Char → Bool) (rest : List Char) : Prop := ∀ c ∈ rest.head?, p c = false

def Blanks (gap : List Char) : Prop := ∀ c ∈ gap, isBlank c = true

inductive Lexeme : Kind → String → List Char → List Char → Prop where
  | word {ch : Char} {tail rest : List Char} (hch : isAlphabetic ch = true)
      (htail : ∀ c ∈ tail, isWordChar c = true) (hend : Ends isWordChar rest) :
      Lexeme (wordKind (String.ofList (ch :: tail))) (String.ofList (ch :: tail)) (ch :: tail) rest
  | number {ch : Char} {tail rest : List Char} (hch : ch.isDigit = true)
      (htail : ∀ c ∈ tail, isNumberChar c = true) (hend : Ends isNumberChar rest) :
      Lexeme .number (String.ofList (ch :: tail)) (ch :: tail) rest
  | closed {q : Char} {text rest : List Char} (hq : isQuote q = true) (htext : q ∉ text) :
      Lexeme .string (String.ofList text) (q :: text ++ [q]) rest
  | unclosed {q : Char} {text : List Char} (hq : isQuote q = true) (htext : q ∉ text) :
      Lexeme .string (String.ofList text) (q :: text) []
  | symbol {ch : Char} {rest : List Char} (hblank : isBlank ch = false)
      (halpha : isAlphabetic ch = false) (hdigit : ch.isDigit = false)
      (hquote : isQuote ch = false) : Lexeme (.symbol ch) (String.ofList [ch]) [ch] rest

theorem isBlank_of_isQuote {q : Char} (h : isQuote q = true) : isBlank q = false := by
  rw [isQuote, Bool.or_eq_true, beq_iff_eq, beq_iff_eq] at h
  obtain rfl | rfl := h <;> decide

theorem isAlphabetic_of_isQuote {q : Char} (h : isQuote q = true) : isAlphabetic q = false := by
  rw [isQuote, Bool.or_eq_true, beq_iff_eq, beq_iff_eq] at h
  obtain rfl | rfl := h <;> decide

theorem isDigit_of_isQuote {q : Char} (h : isQuote q = true) : q.isDigit = false := by
  rw [isQuote, Bool.or_eq_true, beq_iff_eq, beq_iff_eq] at h
  obtain rfl | rfl := h <;> decide

/-! ### stretches -/

theorem ends_nil (p : Char → Bool) : Ends p [] := fun _ h => by cases h

theorem ends_cons {p : Char → Bool} {c : Char} {rest : List Char} :
    Ends p (c :: rest) ↔ p c = false := by simp [Ends]

theorem ends_dropWhile (p : Char → Bool) (cs : List Char) : Ends p (cs.dropWhile p) := by
  intro c hc
  have h := List.head?_dropWhile_not p cs
  rw [Option.mem_def] at hc
  rw [hc] at h
  simpa using h

theorem takeWhile_append_of_ends {p : Char → Bool} {xs rest : List Char}
    (hxs : ∀ c ∈ xs, p c = true) (hend : Ends p rest) : (xs ++ rest).takeWhile p = xs := by
  rw [List.takeWhile_append_of_pos hxs]
  cases rest with
  | nil => rw [List.takeWhile_nil, List.append_nil]
  | cons c rest =>
    rw [List.takeWhile_cons_of_neg (by rw [ends_cons.mp hend]; exact Bool.false_ne_true),
      List.append_nil]

theorem dropWhile_append_of_ends {p : Char → Bool} {xs rest : List Char}
    (hxs : ∀ c ∈ xs, p c = true) (hend : Ends p rest) : (xs ++ rest).dropWhile p = rest := by
  rw [List.dropWhile_append_of_pos hxs]
  cases rest with
  | nil => rfl
  | cons c rest =>
    exact List.dropWhile_cons_of_neg (by rw [ends_cons.mp hend]; exact Bool.false_ne_true)

theorem stretch_eq {p : Char → Bool} {xs rest : List Char} (hxs : ∀ c ∈ xs, p c = true)
    (hend : Ends p rest) (n : Nat) : Cursor.stretch p ⟨n, xs ++ rest⟩ = xs :=
  takeWhile_append_of_ends hxs hend

theorem skipWhile_eq {p : Char → Bool} {xs rest : List Char} (hxs : ∀ c ∈ xs, p c = true)
    (hend : Ends p rest) (n : Nat) :
    Cursor.skipWhile p ⟨n, xs ++ rest⟩ = ⟨n + byteLength xs, rest⟩ := by
  unfold Cursor.skipWhile
  rw [stretch_eq hxs hend, dropWhile_append_of_ends hxs hend]

/-! ### the lexeme at a place -/

theorem exists_lexeme {ch : Char} (hb : isBlank ch = false) (cs : List Char) :
    ∃ k t l rest, ch :: cs = l ++ rest ∧ Lexeme k t l rest := by
  have split (p : Char → Bool) :
      (∀ c ∈ cs.takeWhile p, p c = true) ∧ cs = cs.takeWhile p ++ cs.dropWhile p :=
    ⟨List.all_eq_true.mp List.all_takeWhile, List.takeWhile_append_dropWhile.symm⟩
  by_cases ha : isAlphabetic ch = true
  · obtain ⟨htail, hcs⟩ := split isWordChar
    exact ⟨_, _, ch :: cs.takeWhile isWordChar, _, congrArg (ch :: ·) hcs,
      .word ha htail (ends_dropWhile _ cs)⟩
  by_cases hd : ch.isDigit = true
  · obtain ⟨htail, hcs⟩ := split isNumberChar
    exact ⟨_, _, ch :: cs.takeWhile isNumberChar, _, congrArg (ch :: ·) hcs,
      .number hd htail (ends_dropWhile _ cs)⟩
  by_cases hq : isQuote ch = true
  · obtain ⟨htail, hcs⟩ := split (· != ch)
    have htext : ch ∉ cs.takeWhile (· != ch) := fun h => by simpa using htail ch h
    have hend := ends_dropWhile (· != ch) cs
    generalize cs.takeWhile (· != ch) = text at hcs htext
    generalize cs.dropWhile (· != ch) = rest at hcs hend
    cases rest with
    | nil =>
      rw [List.append_nil] at hcs
      exact ⟨_, _, ch :: text, [], by rw [hcs, List.append_nil], .unclosed hq htext⟩
    | cons c rest =>
      have hc : c = ch := by simpa using ends_cons.mp hend
      refine ⟨_, _, ch :: text ++ [ch], rest, ?_, .closed hq htext⟩
      rw [hcs, hc]
      simp
  · rw [Bool.not_eq_true] at ha hd hq
    exact ⟨_, _, [ch], cs, rfl, .symbol hb ha hd hq⟩

theorem Lexeme.exists_cons {k : Kind} {t : String} {l rest : List Char} (h : Lexeme k t l rest) :
    ∃ ch tail, l = ch :: tail ∧ isBlank ch = false := by
  cases h with
  | word hch => exact ⟨_, _, rfl, isBlank_of_isAlphabetic hch⟩
  | number hch => exact ⟨_, _, rfl, isBlank_of_isDigit hch⟩
  | closed hq => exact ⟨_, _, rfl, isBlank_of_isQuote hq⟩
  | unclosed hq => exact ⟨_, _, rfl, isBlank_of_isQuote hq⟩
  | symbol hblank => exact ⟨_, _, rfl, hblank⟩

theorem Lexeme.byteLength_pos {k : Kind} {t : String} {l rest : List Char}
    (h : Lexeme k t l rest) : 0 < byteLength l := by
  obtain ⟨ch, tail, rfl, -⟩ := h.exists_cons
  have hch := ch.utf8Size_pos
  rw [byteLength_cons]
  omega

/-- The lexer takes the lexeme that is at hand. -/
theorem lexeme_eq {k : Kind} {t : String} {l rest : List Char} (h : Lexeme k t l rest) (n : Nat) :
    ∃ ch tail, l = ch :: tail ∧ lexeme ch ⟨n, l ++ rest⟩
      = (⟨k, t, ⟨n, n + byteLength l⟩⟩, ⟨n + byteLength l, rest⟩) := by
  cases h with
  | @word ch tail _ hch htail hend =>
    refine ⟨ch, tail, rfl, ?_⟩
    unfold lexeme
    rw [if_pos hch]
    unfold run
    simp only [List.cons_append, Cursor.advance_cons, stretch_eq htail hend,
      skipWhile_eq htail hend, byteLength_cons, Nat.add_assoc]
  | @number ch tail _ hch htail hend =>
    refine ⟨ch, tail, rfl, ?_⟩
    unfold lexeme
    rw [isAlphabetic_of_isDigit hch, if_neg Bool.false_ne_true, if_pos hch]
    unfold run
    simp only [List.cons_append, Cursor.advance_cons, stretch_eq htail hend,
      skipWhile_eq htail hend, byteLength_cons, Nat.add_assoc]
  | @closed q text _ hq htext =>
    have hin : ∀ c ∈ text, (c != q) = true := fun c hc => by
      simpa using fun h : c = q => htext (h ▸ hc)
    have hend : Ends (· != q) (q :: rest) := ends_cons.mpr (bne_self_eq_false q)
    refine ⟨q, text ++ [q], rfl, ?_⟩
    unfold lexeme
    rw [isAlphabetic_of_isQuote hq, if_neg Bool.false_ne_true, isDigit_of_isQuote hq,
      if_neg Bool.false_ne_true, if_pos hq]
    unfold string
    simp only [List.cons_append, List.append_assoc, List.nil_append, Cursor.advance_cons,
      stretch_eq hin hend, skipWhile_eq hin hend, byteLength_cons, byteLength_append,
      byteLength_nil, Nat.add_assoc, Nat.add_zero]
  | @unclosed q text hq htext =>
    have hin : ∀ c ∈ text, (c != q) = true := fun c hc => by
      simpa using fun h : c = q => htext (h ▸ hc)
    refine ⟨q, text, rfl, ?_⟩
    unfold lexeme
    rw [isAlphabetic_of_isQuote hq, if_neg Bool.false_ne_true, isDigit_of_isQuote hq,
      if_neg Bool.false_ne_true, if_pos hq]
    unfold string
    simp only [List.cons_append, Cursor.advance_cons, stretch_eq hin (ends_nil _),
      skipWhile_eq hin (ends_nil _), Cursor.advance_nil, byteLength_cons, Nat.add_assoc]
  | @symbol ch _ hblank halpha hdigit hquote =>
    refine ⟨ch, [], rfl, ?_⟩
    unfold lexeme
    rw [halpha, if_neg Bool.false_ne_true, hdigit, if_neg Bool.false_ne_true, hquote,
      if_neg Bool.false_ne_true]
    unfold symbol
    simp only [List.cons_append, List.nil_append, Cursor.advance_cons, byteLength_cons,
      byteLength_nil, Nat.add_zero]

/-! ### the next token -/

theorem next_of_lexeme {gap l rest : List Char} {k : Kind} {t : String} (hgap : Blanks gap)
    (h : Lexeme k t l rest) (n : Nat) :
    next ⟨n, gap ++ (l ++ rest)⟩ =
      (⟨k, t, ⟨n + byteLength gap, n + byteLength gap + byteLength l⟩⟩,
        ⟨n + byteLength gap + byteLength l, rest⟩) := by
  obtain ⟨ch, tail, hl, hlex⟩ := lexeme_eq h (n + byteLength gap)
  obtain ⟨ch', tail', hl', hblank⟩ := h.exists_cons
  obtain ⟨rfl, rfl⟩ := List.cons.inj (hl.symm.trans hl')
  have hend : Ends isBlank (l ++ rest) := by
    rw [hl]
    exact ends_cons.mpr hblank
  unfold next
  simp only [skipWhile_eq hgap hend]
  rw [← hlex, hl]
  rfl

/-- Blanks in front of the next token only move it. -/
theorem next_gap {gap : List Char} (hgap : Blanks gap) (n : Nat) (cs : List Char) :
    next ⟨n, gap ++ cs⟩ = next ⟨n + byteLength gap, cs⟩ := by
  have hskip : Cursor.skipWhile isBlank ⟨n, gap ++ cs⟩
      = Cursor.skipWhile isBlank ⟨n + byteLength gap, cs⟩ := by
    unfold Cursor.skipWhile Cursor.stretch
    rw [List.takeWhile_append_of_pos hgap, List.dropWhile_append_of_pos hgap, byteLength_append,
      Nat.add_assoc]
  unfold next
  rw [hskip]

theorem next_blanks {gap : List Char} (hgap : Blanks gap) (n : Nat) :
    next ⟨n, gap⟩ = (endAt (n + byteLength gap), ⟨n + byteLength gap, []⟩) := by
  have h := skipWhile_eq hgap (ends_nil isBlank) n
  rw [List.append_nil] at h
  unfold next
  simp only [h]
  rfl

/-- What stands at a place: blanks up to the end of the text, or blanks and a lexeme. -/
theorem blanks_or_lexeme (cs : List Char) :
    Blanks cs ∨ ∃ gap k t l rest, cs = gap ++ (l ++ rest) ∧ Blanks gap ∧ Lexeme k t l rest := by
  have hgap : Blanks (cs.takeWhile isBlank) := List.all_eq_true.mp List.all_takeWhile
  have hcs : cs.takeWhile isBlank ++ cs.dropWhile isBlank = cs := List.takeWhile_append_dropWhile
  have hend := ends_dropWhile isBlank cs
  cases hrest : cs.dropWhile isBlank with
  | nil =>
    rw [hrest, List.append_nil] at hcs
    exact .inl (hcs ▸ hgap)
  | cons ch rest =>
    rw [hrest] at hcs hend
    obtain ⟨k, t, l, rest', hl, hlex⟩ := exists_lexeme (ends_cons.mp hend) rest
    exact .inr ⟨_, k, t, l, rest', by rw [← hl, hcs], hgap, hlex⟩

end Scriptlet.Token
