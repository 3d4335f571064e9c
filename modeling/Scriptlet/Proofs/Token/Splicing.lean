import Scriptlet.Proofs.Token.Coverage

/-!
# Splicing: texts cut between tokens, and put together again

* `Covers.split`    where a text can be cut for its tokens to fall into two given parts;
* `Covers.append`   two texts, one after the other, have the tokens of both, if the second one does
                    not go on with the last token of the first (`MayFollow`);
* `Covers.parts`    what is before some of the tokens of a text, what they stand in, from the first
                    of them to the last, and what is after them;
* `hull_union`      the span of a stretch of tokens is the union of the spans at its two ends.
-/

namespace Scriptlet.Token

open Text

/-! ## what comes after a lexeme -/

section
variable {k : Kind} {t : String} {l rest rest' b : List Char}

theorem Lexeme.of_head? (h : Lexeme k t l rest) (hhead : rest'.head? = rest.head?) :
    Lexeme k t l rest' := by
  have hends {p : Char → Bool} (hend : Ends p rest) : Ends p rest' := by
    unfold Ends
    rw [hhead]
    exact hend
  cases h with
  | word hch htail hend => exact .word hch htail (hends hend)
  | number hch htail hend => exact .number hch htail (hends hend)
  | closed hq htext => exact .closed hq htext
  | unclosed hq htext =>
    rw [List.head?_nil, List.head?_eq_none_iff] at hhead
    rw [hhead]
    exact .unclosed hq htext
  | symbol hblank halpha hdigit hquote => exact .symbol hblank halpha hdigit hquote

/-- The text after a lexeme may be cut off anywhere. -/
theorem Lexeme.of_append (h : Lexeme k t l (rest ++ b)) : Lexeme k t l rest := by
  cases rest with
  | cons c rest => exact h.of_head? rfl
  | nil =>
    generalize hb : [] ++ b = after at h
    cases h with
    | word hch htail _ => exact .word hch htail (ends_nil _)
    | number hch htail _ => exact .number hch htail (ends_nil _)
    | closed hq htext => exact .closed hq htext
    | unclosed hq htext => exact .unclosed hq htext
    | symbol hblank halpha hdigit hquote => exact .symbol hblank halpha hdigit hquote

/-- The text may come right after a token of the kind: it goes on with no word and no number, and a
string may be open to the end. -/
def MayFollow (b : List Char) : Kind → Prop
  | .keyword _ | .identifier => Ends isWordChar b
  | .number => Ends isNumberChar b
  | .string => b = []
  | .symbol _ | .endOfInput => True

theorem mayFollow_of_ends {b : List Char} {k : Kind} (hword : Ends isWordChar b)
    (hnumber : Ends isNumberChar b) (hk : k ≠ .string) : MayFollow b k := by
  cases k with
  | keyword => exact hword
  | identifier => exact hword
  | number => exact hnumber
  | string => exact absurd rfl hk
  | symbol => trivial
  | endOfInput => trivial

theorem Lexeme.append (h : Lexeme k t l rest) (hb : rest = [] → MayFollow b k) :
    Lexeme k t l (rest ++ b) := by
  cases rest with
  | cons c rest => exact h.of_head? rfl
  | nil =>
    have hb := hb rfl
    rw [List.nil_append]
    generalize hnil : ([] : List Char) = after at h
    cases h with
    | @word ch tail _ hch htail _ =>
      have hword : Ends isWordChar b := by
        unfold wordKind at hb
        split at hb <;> exact hb
      exact .word hch htail hword
    | number hch htail _ => exact .number hch htail hb
    | closed hq htext => exact .closed hq htext
    | unclosed hq htext =>
      obtain rfl := hb
      exact .unclosed hq htext
    | symbol hblank halpha hdigit hquote => exact .symbol hblank halpha hdigit hquote

end

/-! ## stretches of tokens -/

/-- where the last of the tokens is over, or `n` if there is none -/
def stopAfter : Nat → List Token → Nat
  | n, [] => n
  | _, t :: ts => stopAfter t.span.stop ts

def hull : List Token → Span
  | [] => .empty 0
  | t :: ts => ⟨t.span.start, stopAfter t.span.stop ts⟩

theorem stopAfter_cons (n : Nat) (t : Token) (ts : List Token) :
    stopAfter n (t :: ts) = stopAfter t.span.stop ts := rfl

theorem hull_cons (t : Token) (ts : List Token) :
    hull (t :: ts) = ⟨t.span.start, stopAfter t.span.stop ts⟩ := rfl

theorem stopAfter_append (n : Nat) (us vs : List Token) :
    stopAfter n (us ++ vs) = stopAfter (stopAfter n us) vs := by
  induction us generalizing n with
  | nil => rfl
  | cons t us ih => exact ih t.span.stop

theorem Ordered.le_stopAfter {n stop : Nat} {ts : List Token} (h : Ordered n stop ts) :
    n ≤ stopAfter n ts := by
  induction ts generalizing n with
  | nil => exact Nat.le_refl n
  | cons t ts ih =>
    obtain ⟨hstart, hlt, hts⟩ := h
    have hle := ih hts
    show n ≤ stopAfter t.span.stop ts
    omega

theorem ordered_append {n stop : Nat} {us vs : List Token} :
    Ordered n stop (us ++ vs) ↔
      Ordered n (stopAfter n us) us ∧ Ordered (stopAfter n us) stop vs := by
  induction us generalizing n with
  | nil => exact ⟨fun h => ⟨Nat.le_refl n, h⟩, And.right⟩
  | cons t us ih =>
    show (_ ∧ _ ∧ Ordered t.span.stop stop (us ++ vs)) ↔ (_ ∧ _ ∧ _) ∧ _
    rw [ih, and_assoc, and_assoc]
    exact Iff.rfl

/-- **The span of a stretch of tokens is the union of the spans at its two ends.** -/
theorem hull_union {n stop : Nat} {us vs ws : List Token} (h : Ordered n stop (us ++ ws ++ vs))
    (hus : us ≠ []) (hvs : vs ≠ []) : (hull us).union (hull vs) = hull (us ++ ws ++ vs) := by
  cases us with
  | nil => exact absurd rfl hus
  | cons t us =>
    cases vs with
    | nil => exact absurd rfl hvs
    | cons u vs =>
      rw [List.cons_append, List.cons_append] at h ⊢
      obtain ⟨-, hlt, h⟩ := h
      obtain ⟨hbefore, hle, hlt', hafter⟩ := ordered_append.mp h
      obtain ⟨hleft, hmid⟩ := ordered_append.mp hbefore
      -- from the start of `us` over its stop, `ws` and the start of `vs` to the stop of `vs`
      have hleft := hleft.le_stopAfter
      have hmid := hmid.le_stopAfter
      have hafter := hafter.le_stopAfter
      rw [stopAfter_append] at hle
      have hstart : t.span.start ≤ u.span.start := by omega
      have hstop : stopAfter t.span.stop us ≤ stopAfter u.span.stop vs := by omega
      rw [hull_cons, hull_cons, hull_cons, stopAfter_append, stopAfter_cons, Span.union,
        Nat.min_eq_left hstart, Nat.max_eq_right hstop]

/-! ## texts in parts -/

section
variable {n : Nat} {cs b gap : List Char} {ts us vs ws : List Token}

theorem Covers.after_gap (hgap : Blanks gap) (h : Covers (n + byteLength gap) cs ts) :
    Covers n (gap ++ cs) ts := by
  rw [covers_iff, allFrom_gap hgap]
  exact h.allFrom_eq

/-- Two texts, one after the other, where the last lexeme of the first one stays what it is. -/
theorem Covers.append_of_last (h : Covers n cs us)
    (hlast : ∀ t ∈ us.getLast?, ∀ x l rest, cs = x ++ (l ++ rest) →
      t.span = ⟨n + byteLength x, n + byteLength x + byteLength l⟩ →
      Lexeme t.kind t.text l rest → Lexeme t.kind t.text l (rest ++ b))
    (hb : Covers (n + byteLength cs) b vs) : Covers n (cs ++ b) (us ++ vs) := by
  induction h with
  | blanks hgap => exact .after_gap hgap hb
  | @token n gap l rest k s ts hgap hlex hrest ih =>
    rw [byteLength_append, byteLength_append, ← Nat.add_assoc, ← Nat.add_assoc] at hb
    rw [List.append_assoc, List.append_assoc]
    cases ts with
    | nil => exact .token hgap (hlast _ rfl gap l rest rfl rfl hlex) (ih nofun hb)
    | cons t ts =>
      have hne : rest ≠ [] := by
        rintro rfl
        rw [covers_iff, allFrom_blanks (List.forall_mem_nil _)] at hrest
        cases hrest
      rw [List.getLast?_cons_cons] at hlast
      refine .token hgap (hlex.append fun hnil => absurd hnil hne) (ih ?_ hb)
      intro u hu x m after hcs hspan
      refine hlast u hu (gap ++ l ++ x) m after ?_ ?_
      · rw [hcs, List.append_assoc, List.append_assoc]
      · rw [hspan, byteLength_append, byteLength_append]
        simp only [Nat.add_assoc]

theorem Covers.append (h : Covers n cs us) (hlast : ∀ t ∈ us.getLast?, MayFollow b t.kind)
    (hb : Covers (n + byteLength cs) b vs) : Covers n (cs ++ b) (us ++ vs) :=
  h.append_of_last (fun t ht _ _ _ _ _ hlex => hlex.append fun _ => hlast t ht) hb

/-- **A text whose tokens are in two parts can be cut right after the first part.** -/
theorem Covers.split (h : Covers n cs (us ++ vs)) :
    ∃ a b, cs = a ++ b ∧ Covers n a us ∧ Covers (n + byteLength a) b vs ∧
      stopAfter n us = n + byteLength a := by
  induction us generalizing n cs with
  | nil => exact ⟨[], cs, rfl, .blanks (List.forall_mem_nil _), h, rfl⟩
  | cons t us ih =>
    cases h with
    | @token n gap l rest k s ts hgap hlex hrest =>
      obtain ⟨a, b, rfl, ha, hb, hstop⟩ := ih hrest
      have hlength : n + byteLength (gap ++ (l ++ a))
          = n + byteLength gap + byteLength l + byteLength a := by
        rw [byteLength_append, byteLength_append, ← Nat.add_assoc, ← Nat.add_assoc]
      rw [← hlength] at hb hstop
      refine ⟨gap ++ (l ++ a), b, ?_, .token hgap hlex.of_append ha, hb, hstop⟩
      rw [List.append_assoc, List.append_assoc]

theorem Covers.trim {t : Token} (h : Covers n cs (t :: ts)) :
    ∃ gap x, cs = gap ++ x ∧ Blanks gap ∧ Covers (n + byteLength gap) x (t :: ts) ∧
      t.span.start = n + byteLength gap := by
  cases h with
  | @token n gap l rest k s ts hgap hlex hrest =>
    have hnil : Blanks [] := List.forall_mem_nil _
    exact ⟨gap, l ++ rest, rfl, hgap, .token hnil hlex hrest, rfl⟩

/-- **A text whose tokens are in two parts can be cut right before the second part**, when this has
a token. -/
theorem Covers.split_before {t : Token} (h : Covers n cs (us ++ t :: ts)) :
    ∃ a b, cs = a ++ b ∧ Covers n a us ∧ Covers (n + byteLength a) b (t :: ts) ∧
      t.span.start = n + byteLength a := by
  induction us generalizing n cs with
  | nil =>
    obtain ⟨gap, x, rfl, hgap, hx, hstart⟩ := h.trim
    exact ⟨gap, x, rfl, .blanks hgap, hx, hstart⟩
  | cons u us ih =>
    cases h with
    | @token n gap l rest k s _ hgap hlex hrest =>
      obtain ⟨a, b, rfl, ha, hb, hstart⟩ := ih hrest
      have hlength : n + byteLength (gap ++ (l ++ a))
          = n + byteLength gap + byteLength l + byteLength a := by
        rw [byteLength_append, byteLength_append, ← Nat.add_assoc, ← Nat.add_assoc]
      rw [← hlength] at hb hstart
      refine ⟨gap ++ (l ++ a), b, ?_, .token hgap hlex.of_append ha, hb, hstart⟩
      rw [List.append_assoc, List.append_assoc]

/-- **A text around some of its tokens**: what is before the first of them, what they cover, and
what is after the last. -/
theorem Covers.parts (h : Covers n cs (us ++ vs ++ ws)) (hvs : vs ≠ []) :
    ∃ a x b, cs = a ++ x ++ b ∧ Covers n a us ∧ Covers (n + byteLength a) x vs ∧
      Covers (n + byteLength a + byteLength x) b ws ∧
      hull vs = ⟨n + byteLength a, n + byteLength a + byteLength x⟩ := by
  cases vs with
  | nil => exact absurd rfl hvs
  | cons t vs =>
    rw [List.append_assoc] at h
    obtain ⟨a, c, rfl, ha, hc, hstart⟩ := h.split_before
    have hc : Covers (n + byteLength a) c ((t :: vs) ++ ws) := hc
    obtain ⟨x, b, rfl, hx, hb, hstop⟩ := hc.split
    refine ⟨a, x, b, (List.append_assoc a x b).symm, ha, hx, hb, ?_⟩
    rw [hull_cons, hstart, ← hstop, stopAfter_cons]

end

end Scriptlet.Token
