import Scriptlet.Proofs.Token.Relocation
import Scriptlet.Proofs.Token.Splicing
import Scriptlet.Proofs.Token.Tiling

/-!
# Concatenation: the tokens of two texts that are put together

Where the second text does not go on with the last token of the first one, the tokens of both are
those of the first and then those of the second, which stand later by the length of the first.

* `ofText_append_of_mayFollow`  the tokens of the two texts together, by the kind of the last token;
* `IsOpen`           a string that goes on to the end of its text;
* `Covers.exists_string`        no text that goes on after a string gets rid of it;
* `Parted`           no token goes on from the first text to the second, by what is at their seam;
* `ofText_append`    the tokens of two texts that are parted.
-/

namespace Scriptlet.Token

open Text

theorem ofText_append_of_mayFollow {a b : String}
    (h : ∀ t ∈ (ofText a).getLast?, MayFollow b.toList t.kind) :
    ofText (a ++ b) = ofText a ++ (ofText b).map (later a.utf8ByteSize) := by
  have hb : Covers (0 + byteLength a.toList) b.toList ((ofText b).map (later a.utf8ByteSize)) := by
    rw [byteLength_toList, Nat.add_comm]
    exact (covers_ofText b).later a.utf8ByteSize
  show allFrom ⟨0, (a ++ b).toList⟩ = _
  rw [String.toList_append]
  exact ((covers_ofText a).append h hb).allFrom_eq

/-- The token is a string, and no quote closes it: it is one quote and the text of the token. -/
def IsOpen (cs : List Char) (t : Token) : Prop :=
  t.kind = .string ∧ ∃ q, slice? t.span cs = some (q :: t.text.toList)

/-- how two texts can be parted from each other, if the first one ends in no open string -/
inductive Parted (a b : String) : Prop where
  | noToken (h : ofText a = [])
  /-- What comes after the last token is blank. -/
  | blankEnd {t : Token} (ht : t ∈ (ofText a).getLast?) (h : t.span.stop < a.utf8ByteSize)
  | afterSymbol {t : Token} {c : Char} (ht : t ∈ (ofText a).getLast?) (h : t.kind = .symbol c)
  | afterString {t : Token} (ht : t ∈ (ofText a).getLast?) (h : t.kind = .string)
  /-- The second text is empty or starts with a character that goes on with no word and with no
  number. -/
  | freshStart (h : ∀ c ∈ b.toList.head?, isAlphanumeric c = false ∧ c ≠ '_' ∧ c ≠ '.')

theorem mayFollow_of_freshStart {b : List Char} {k : Kind}
    (h : ∀ c ∈ b.head?, isAlphanumeric c = false ∧ c ≠ '_' ∧ c ≠ '.') (hk : k ≠ .string) :
    MayFollow b k := by
  refine mayFollow_of_ends (fun c hc => ?_) (fun c hc => ?_) hk
  · obtain ⟨halnum, hline, -⟩ := h c hc
    rw [isWordChar, halnum, Bool.false_or]
    exact beq_eq_false_iff_ne.mpr hline
  · obtain ⟨halnum, -, hpoint⟩ := h c hc
    have hdigit : c.isDigit = false := by
      rw [Bool.eq_false_iff]
      intro hdigit
      rw [isAlphanumeric_of_isDigit hdigit] at halnum
      cases halnum
    rw [isNumberChar, hdigit, Bool.false_or]
    exact beq_eq_false_iff_ne.mpr hpoint

/-- A string that is not open is over at its second quote, whatever comes after it. -/
theorem Lexeme.append_of_closed {t : Token} {x l rest b : List Char}
    (h : Lexeme t.kind t.text l rest) (hstring : t.kind = .string)
    (hspan : t.span = ⟨byteLength x, byteLength x + byteLength l⟩)
    (hclosed : ¬ IsOpen (x ++ (l ++ rest)) t) : Lexeme t.kind t.text l (rest ++ b) := by
  have hshaped := h.shaped
  rw [hstring] at hshaped ⊢
  obtain ⟨q, hq, hfree, rfl | ⟨rfl, rfl⟩⟩ := hshaped
  · exact lexeme_iff.mpr ⟨q, hq, hfree, .inl rfl⟩
  · have hslice := slice?_eq_some_iff.mpr ⟨x, [], rfl, hspan⟩
    rw [List.append_assoc] at hslice
    exact absurd ⟨hstring, q, hslice⟩ hclosed

theorem Parted.mayFollow {a b : String} {t : Token} (h : Parted a b) (ht : t ∈ (ofText a).getLast?)
    (hstring : t.kind ≠ .string) (hstop : t.span.stop = a.utf8ByteSize) :
    MayFollow b.toList t.kind := by
  have eq_last {u : Token} (hu : u ∈ (ofText a).getLast?) : u = t :=
    Option.some.inj (hu.symm.trans ht)
  cases h with
  | noToken hnone =>
    rw [hnone] at ht
    cases ht
  | blankEnd hu hlt =>
    obtain rfl := eq_last hu
    omega
  | afterSymbol hu hkind =>
    obtain rfl := eq_last hu
    rw [hkind]
    trivial
  | afterString hu hkind =>
    obtain rfl := eq_last hu
    exact absurd hkind hstring
  | freshStart hfresh => exact mayFollow_of_freshStart hfresh hstring

theorem Lexeme.kind_of_quote {k : Kind} {t : String} {l rest tail : List Char} {q : Char}
    (h : Lexeme k t l rest) (hq : isQuote q = true) (hl : l ++ rest = q :: tail) :
    k = .string := by
  cases h with
  | word hch =>
    obtain rfl := (List.cons.inj hl).1
    rw [isAlphabetic_of_isQuote hq] at hch
    cases hch
  | number hch =>
    obtain rfl := (List.cons.inj hl).1
    rw [isDigit_of_isQuote hq] at hch
    cases hch
  | closed => rfl
  | unclosed => rfl
  | symbol _ _ _ hquote =>
    obtain rfl := (List.cons.inj hl).1
    rw [hq] at hquote
    cases hquote

/-- **A text with a string in it has one, whatever comes after the text.**  It need not be the same
string, for one that is open goes on. -/
theorem Covers.exists_string {n : Nat} {cs : List Char} {ts : List Token} (h : Covers n cs ts)
    (hts : ∃ t ∈ ts, t.kind = .string) (b : List Char) :
    ∃ t ∈ allFrom ⟨n, cs ++ b⟩, t.kind = .string := by
  induction h with
  | blanks =>
    obtain ⟨t, ht, -⟩ := hts
    cases ht
  | @token n gap l rest k s ts hgap hlex hrest ih =>
    rw [List.append_assoc, List.append_assoc]
    by_cases hk : k = .string
    · subst hk
      obtain ⟨q, hq, -, hl⟩ := hlex.shaped
      obtain ⟨tail, rfl⟩ : ∃ tail, l = q :: tail := hl.elim (fun h => ⟨_, h⟩) fun h => ⟨_, h.1⟩
      obtain ⟨k, s, l, after, hl, hstart⟩ :=
        exists_lexeme (isBlank_of_isQuote hq) (tail ++ (rest ++ b))
      rw [List.cons_append, hl, allFrom_lexeme hgap hstart]
      exact ⟨_, List.mem_cons_self, hstart.kind_of_quote hq hl.symm⟩
    · obtain ⟨t, ht, hkind⟩ := hts
      obtain rfl | ht := List.mem_cons.mp ht
      · exact absurd hkind hk
      -- a token comes after this one, so this one stays what it is
      have hne : rest ≠ [] := by
        rintro rfl
        rw [covers_iff, allFrom_blanks (List.forall_mem_nil _)] at hrest
        rw [← hrest] at ht
        cases ht
      rw [allFrom_lexeme hgap (hlex.append fun hnil => absurd hnil hne)]
      obtain ⟨u, hu, hstring⟩ := ih ⟨t, ht, hkind⟩
      exact ⟨u, List.mem_cons_of_mem _ hu, hstring⟩

/-- **The tokens of two texts that are put together** are those of the first text, and then those of
the second, each of them later by the length of the first text. -/
theorem ofText_append {a b : String} (hclosed : ∀ t ∈ (ofText a).getLast?, ¬ IsOpen a.toList t)
    (h : Parted a b) : ofText (a ++ b) = ofText a ++ (ofText b).map (later a.utf8ByteSize) := by
  have hb : Covers (0 + byteLength a.toList) b.toList ((ofText b).map (later a.utf8ByteSize)) := by
    rw [byteLength_toList, Nat.add_comm]
    exact (covers_ofText b).later a.utf8ByteSize
  have happend : Covers 0 (a.toList ++ b.toList)
      (ofText a ++ (ofText b).map (later a.utf8ByteSize)) := by
    refine (covers_ofText a).append_of_last (fun t ht x l rest hcs hspan hlex => ?_) hb
    rw [Nat.zero_add] at hspan
    by_cases hstring : t.kind = .string
    · exact hlex.append_of_closed hstring hspan (hcs ▸ hclosed t ht)
    · refine hlex.append ?_
      rintro rfl
      refine h.mayFollow ht hstring ?_
      rw [hspan, ← byteLength_toList, hcs, List.append_nil, byteLength_append]
  rw [← String.toList_append] at happend
  exact happend.allFrom_eq

/-- A string is over at its second quote, where a number comes right after it; the tokens of the
second text stand ten bytes later than by themselves. -/
theorem ofText_append_string :
    (∀ t ∈ (ofText "var é 'x\"'").getLast?, ¬ IsOpen "var é 'x\"'".toList t) ∧
      Parted "var é 'x\"'" "1.5²" ∧
      ofText ("var é 'x\"'" ++ "1.5²") =
        [⟨.keyword .var, "var", ⟨0, 3⟩⟩, ⟨.identifier, "é", ⟨4, 6⟩⟩, ⟨.string, "x\"", ⟨7, 11⟩⟩,
          ⟨.number, "1.5", ⟨11, 14⟩⟩, ⟨.symbol '²', "²", ⟨14, 16⟩⟩] := by
  have hfirst : ofText "var é 'x\"'" =
      [⟨.keyword .var, "var", ⟨0, 3⟩⟩, ⟨.identifier, "é", ⟨4, 6⟩⟩, ⟨.string, "x\"", ⟨7, 11⟩⟩] :=
    allFrom_of_lists (by decide)
  have hsecond : ofText "1.5²" = [⟨.number, "1.5", ⟨0, 3⟩⟩, ⟨.symbol '²', "²", ⟨3, 5⟩⟩] :=
    allFrom_of_lists (by decide)
  have hlast : (⟨.string, "x\"", ⟨7, 11⟩⟩ : Token) ∈ (ofText "var é 'x\"'").getLast? := by
    rw [hfirst]
    rfl
  have hclosed : ∀ t ∈ (ofText "var é 'x\"'").getLast?, ¬ IsOpen "var é 'x\"'".toList t := by
    rintro t ht ⟨-, q, hslice⟩
    obtain rfl := Option.some.inj (hlast.symm.trans ht)
    have heval : slice? ⟨7, 11⟩ "var é 'x\"'".toList = some ['\x27', 'x', '"', '\x27'] := by decide
    rw [heval] at hslice
    simp at hslice
  have hparted : Parted "var é 'x\"'" "1.5²" := .afterString hlast rfl
  refine ⟨hclosed, hparted, ?_⟩
  rw [ofText_append hclosed hparted, hfirst, hsecond]
  rfl

end Scriptlet.Token
