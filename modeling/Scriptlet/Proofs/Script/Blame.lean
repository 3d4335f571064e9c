import Scriptlet.Proofs.Script.Recognition
import Scriptlet.Proofs.Token.Spelling

/-!
# Blame: a syntax error is at the first token that no script goes on with

`Offends ts k`: the tokens `ts` start like a script up to the index `k`, and no longer with the
token there; at the end of the tokens, they only start like one.

* `Offends.unique`     tokens offend at one place at most;
* `script_eq_error`    where the parser stops, what it asks for may stand, and whatever goes on with
                       a token like the one at hand is no script;
* `parse_error_blames` for texts: the place of the error, the token it names, and what it expects.
-/

namespace Scriptlet

namespace Grammar

theorem Viable.of_append {ts us : List Token} (h : Viable (ts ++ us)) : Viable ts := by
  obtain ⟨vs, h⟩ := h
  rw [List.append_assoc] at h
  exact ⟨us ++ vs, h⟩

theorem Accepted.viable {ts : List Token} (h : Accepted ts) : Viable ts :=
  ⟨[], by rwa [List.append_nil]⟩

theorem Viable.take_of_le {ts : List Token} {j k : Nat} (h : Viable (ts.take k)) (hjk : j ≤ k) :
    Viable (ts.take j) := by
  rw [← List.take_append_drop j (ts.take k), List.take_take, Nat.min_eq_left hjk] at h
  exact h.of_append

/-- Up to the index `k` the tokens start like a script; with the token there they do not, and if
there is none, they are no script. -/
structure Offends (ts : List Token) (k : Nat) : Prop where
  le : k ≤ ts.length
  viable : Viable (ts.take k)
  dead : k < ts.length → ¬ Viable (ts.take (k + 1))
  rejected : k = ts.length → ¬ Accepted ts

theorem Offends.not_lt {ts : List Token} {j k : Nat} (hj : Offends ts j) (hk : Offends ts k) :
    ¬ j < k := by
  intro hjk
  have hle := hk.le
  exact hj.dead (by omega) (hk.viable.take_of_le hjk)

theorem Offends.unique {ts : List Token} {j k : Nat} (hj : Offends ts j) (hk : Offends ts k) :
    j = k := by
  have hjk := hj.not_lt hk
  have hkj := hk.not_lt hj
  omega

/-- All that is expected may come after the tokens; at the end of the input, they are a script. -/
def Legal (ts : List Token) (what : Expectation) : Prop :=
  (∀ xs, Expected what xs → Viable (ts ++ xs)) ∧ (what = .endOfInput → Accepted ts)

/-- A number with two points or more stands where a number that can be read may stand. -/
def Misread (ts : List Token) (t : Token) : Prop :=
  t.kind = .number ∧ 2 ≤ t.text.toList.count '.' ∧ ∃ num, IsNumeral num ∧ Viable (ts ++ [num])

theorem exists_isNumeral : ∃ t, IsNumeral t := by
  refine ⟨⟨.number, "0", .empty 0⟩, rfl, ?_⟩
  rw [Number.ofText?, Option.isSome_map]
  rfl

end Grammar

open Grammar

namespace Parser

theorem Complaint.exists_metBy (c : Complaint) : ∃ xs, c.MetBy xs := by
  match c with
  | .invalidNumber =>
    obtain ⟨t, ht⟩ := exists_isNumeral
    exact ⟨[t], t, rfl, ht⟩
  | .expected (.keyword k) => exact (Fits.keyword k).occurs
  | .expected (.symbol c) => exact (Fits.symbol c).occurs
  | .expected .identifier => exact ⟨[⟨.identifier, "", .empty 0⟩], _, rfl, rfl⟩
  | .expected .statement => exact fits_statement.occurs
  | .expected .expression => exact fits_expr.occurs
  | .expected .endOfInput => exact ⟨[], rfl⟩

/-- The stop comes after the tokens `us`, and rightly so. -/
structure Stop.Blames (s : Stop) (us : List Token) : Prop where
  number : s.complaint = .invalidNumber →
    ∃ t rest, s.rest = t :: rest ∧ t.kind = .number ∧ Number.ofText? t.text = none
  met : ∀ xs, s.complaint.MetBy xs → Viable (us ++ xs)
  accepted : s.complaint = .expected .endOfInput → Accepted us
  alike : ∀ ts', s.complaint.Alike s.rest ts' → ¬ Accepted (us ++ ts')

theorem Stop.Blames.viable {s : Stop} {us : List Token} (h : s.Blames us) : Viable us := by
  obtain ⟨xs, hxs⟩ := s.complaint.exists_metBy
  exact (h.met xs hxs).of_append

theorem not_accepted_of_error {ts : List Token} {s : Stop} (h : script ts = .error s) :
    ¬ Accepted ts := by
  intro h
  obtain ⟨s', hs'⟩ := h
  rw [script_eq_ok_iff.mpr hs'] at h
  cases h

/-- **Where the parser stops, what it asks for may stand, and nothing goes on with a token like the
one at hand.** -/
theorem script_eq_error {ts : List Token} {s : Stop} (h : script ts = .error s) :
    ∃ us, ts = us ++ s.rest ∧ s.Blames us := by
  have accepted_of_braced {us : List Token} (h : Whole Braced us) : Accepted us :=
    h.mono braced_iff.mp
  rw [script_eq] at h
  cases hts : braced ts with
  | error s' =>
    rw [hts] at h
    cases h
    obtain ⟨us, hus, hjust, hmet, halike⟩ := (fits_braced.fitsAt ts).error hts
    refine ⟨us, hus, hjust.number, fun xs hxs => ?_, fun h => absurd h hjust.inner,
      fun ts' hts' => ?_⟩
    · obtain ⟨vs, hvs⟩ := hmet xs hxs
      rw [← List.append_assoc] at hvs
      exact ⟨vs, accepted_of_braced hvs⟩
    · apply not_accepted_of_error
      rw [script_eq, halike ts' hts']
  | ok r =>
    obtain ⟨s', rest⟩ := r
    rw [hts] at h
    cases rest with
    | nil => cases h
    | cons t rest =>
      cases h
      obtain ⟨us, hus, hbraced, -⟩ := (fits_braced.fitsAt ts).ok hts
      have haccepted := accepted_of_braced ⟨s', hbraced⟩
      refine ⟨us, hus, nofun, ?_, fun _ => haccepted, ?_⟩
      · intro xs h
        obtain rfl := h
        rw [List.append_nil]
        exact haccepted.viable
      · intro ts' h
        obtain ⟨_, _, t', rest', -, rfl, -⟩ := h
        apply not_accepted_of_error
        rw [script_eq, fits_braced.completes _ hbraced trivial]

theorem Stop.Blames.offends {ts us : List Token} {s : Stop} (h : s.Blames us)
    (hts : ts = us ++ s.rest) (herror : script ts = .error s) : Offends ts us.length where
  le := by
    rw [hts, List.length_append]
    exact Nat.le_add_right _ _
  viable := by
    rw [hts, List.take_left]
    exact h.viable
  dead hlt := by
    intro h
    obtain ⟨ws, hws⟩ := h
    cases hrest : s.rest with
    | nil =>
      rw [hts, hrest, List.append_nil] at hlt
      exact absurd hlt (Nat.lt_irrefl _)
    | cons t rest =>
      have htake : ts.take (us.length + 1) = us ++ [t] := by
        rw [hts, hrest, List.take_length_add_append, List.take_succ_cons, List.take_zero]
      rw [htake, List.append_assoc] at hws
      exact h.alike (t :: ws) ⟨t, rest, t, ws, hrest, rfl, rfl, fun _ => rfl⟩ hws
  rejected _ := not_accepted_of_error herror

theorem Stop.getElem?_token {ts us : List Token} {s : Stop} (hts : ts = us ++ s.rest)
    (inputEnd : Token) : (ts ++ [inputEnd])[us.length]? = some (s.token inputEnd) := by
  rw [hts, List.append_assoc, List.getElem?_append_right (Nat.le_refl _), Nat.sub_self]
  unfold Stop.token
  cases s.rest with
  | nil => rfl
  | cons t rest => rfl

/-- A number is called invalid if and only if it is misread. -/
theorem Stop.Blames.misread_iff {text : String} {us : List Token} {s : Stop} (h : s.Blames us)
    (hts : Token.ofText text = us ++ s.rest) (n : Nat) :
    Misread us (s.token (Token.endAt n)) ↔ s.complaint = .invalidNumber := by
  have token_of_cons {t : Token} {rest : List Token} (hrest : s.rest = t :: rest) :
      s.token (Token.endAt n) = t := by
    unfold Stop.token
    rw [hrest, List.head?_cons, Option.getD_some]
  constructor
  · intro h
    obtain ⟨hkind, -, num, ⟨hnum, -⟩, ws, hws⟩ := h
    cases hrest : s.rest with
    | nil =>
      unfold Stop.token at hkind
      rw [hrest] at hkind
      cases hkind
    | cons t rest =>
      rw [token_of_cons hrest] at hkind
      rw [List.append_assoc] at hws
      by_cases hcomplaint : s.complaint = .invalidNumber
      · exact hcomplaint
      · refine absurd hws (h.alike (num :: ws) ?_)
        exact ⟨t, rest, num, ws, hrest, rfl, hnum.trans hkind.symm, fun h' => absurd h' hcomplaint⟩
  · intro hcomplaint
    obtain ⟨t, rest, hrest, hkind, hnone⟩ := h.number hcomplaint
    have hmem : t ∈ Token.ofText text := by
      rw [hts, hrest]
      exact List.mem_append_right _ List.mem_cons_self
    have hpoints : ¬ t.text.toList.count '.' ≤ 1 := by
      rw [← Token.isSome_ofText?_iff hmem hkind, hnone]
      exact Bool.false_ne_true
    obtain ⟨num, hnum⟩ := exists_isNumeral
    have hviable : Viable (us ++ [num]) := by
      refine h.met [num] ?_
      rw [hcomplaint]
      exact ⟨num, rfl, hnum⟩
    rw [token_of_cons hrest]
    exact ⟨hkind, Nat.lt_of_not_le hpoints, num, hnum, hviable⟩

theorem Stop.Blames.legal {us : List Token} {s : Stop} (h : s.Blames us) {what : Expectation}
    (hcomplaint : s.complaint = .expected what) : Legal us what := by
  refine ⟨fun xs hxs => h.met xs ?_, fun hwhat => h.accepted ?_⟩
  · rw [hcomplaint]
    exact hxs
  · rw [hcomplaint, hwhat]

end Parser

theorem Script.parse_eq_error {text : String} {e : SyntaxError} (h : parse text = .error e) :
    ∃ s, Parser.script (Token.ofText text) = .error s ∧
      e = s.error (Token.endAt text.utf8ByteSize) := by
  unfold parse at h
  rw [Text.byteLength_toList] at h
  cases hscript : Parser.script (Token.ofText text) with
  | error s =>
    rw [hscript] at h
    exact ⟨s, rfl, (Except.error.inj h).symm⟩
  | ok s =>
    rw [hscript] at h
    cases h

/-- **A syntax error is at the one token that offends, and names something that is legal there.**
It calls that token an invalid number where it is a number with too many points and another number
could stand, and says what else is expected in all other cases. -/
theorem Script.parse_error_blames {text : String} {e : SyntaxError} (h : parse text = .error e) :
    ∃ k t, Offends (Token.ofText text) k ∧ (∀ j, Offends (Token.ofText text) j → j = k) ∧
      (Token.ofText text ++ [Token.endAt text.utf8ByteSize])[k]? = some t ∧ e.span = t.span ∧
      (e.kind = .invalidNumber t.text ↔ Misread ((Token.ofText text).take k) t) ∧
      (¬ Misread ((Token.ofText text).take k) t →
        ∃ what, e.kind = .expected what t.describe ∧ Legal ((Token.ofText text).take k) what) := by
  obtain ⟨s, hscript, rfl⟩ := parse_eq_error h
  obtain ⟨us, hts, hblames⟩ := Parser.script_eq_error hscript
  have hoffends := hblames.offends hts hscript
  have hmisread := hblames.misread_iff hts text.utf8ByteSize
  have htake : (Token.ofText text).take us.length = us := by rw [hts, List.take_left]
  refine ⟨us.length, s.token (Token.endAt text.utf8ByteSize), hoffends,
    fun j hj => hj.unique hoffends, Parser.Stop.getElem?_token hts _, ?_⟩
  rw [htake, hmisread]
  unfold Parser.Stop.error
  cases hcomplaint : s.complaint with
  | invalidNumber => exact ⟨rfl, ⟨fun _ => rfl, fun _ => rfl⟩, fun h => absurd rfl h⟩
  | expected what =>
    refine ⟨rfl, ⟨fun h => ?_, fun h => ?_⟩, fun _ => ⟨what, rfl, hblames.legal hcomplaint⟩⟩
    · cases h
    · cases h

/-- Where a name must stand, a number with too many points is not called invalid. -/
theorem Script.parse_error_blames_number :
    parse "function 1..2" = .error ⟨.expected .identifier "`1..2`", ⟨9, 13⟩⟩ ∧
      ∃ k t, Offends (Token.ofText "function 1..2") k ∧
        (Token.ofText "function 1..2" ++ [Token.endAt 13])[k]? = some t ∧ t.span = ⟨9, 13⟩ := by
  have hnil : Token.Blanks [] := List.forall_mem_nil _
  have hspace : Token.Blanks [' '] := List.forall_mem_singleton.mpr (by decide)
  have hfunction : Token.Lexeme (.keyword .function) "function" "function".toList
      (' ' :: "1..2".toList) :=
    Token.lexeme_of_keyword .function (Token.ends_cons.mpr (by decide))
  have hnumber : Token.Lexeme .number "1..2" ('1' :: ['.', '.', '2']) [] :=
    .number (by decide) (List.all_eq_true.mp (by decide)) (Token.ends_nil _)
  have htokens : Token.ofText "function 1..2" =
      [⟨.keyword .function, "function", ⟨0, 8⟩⟩, ⟨.number, "1..2", ⟨9, 13⟩⟩] :=
    (Token.Covers.token hnil hfunction (.token hspace hnumber (.blanks hnil))).allFrom_eq
  have hparse : parse "function 1..2" = .error ⟨.expected .identifier "`1..2`", ⟨9, 13⟩⟩ := by
    unfold parse
    rw [htokens]
    rfl
  obtain ⟨k, t, hk, -, ht, hspan, -⟩ := parse_error_blames hparse
  exact ⟨hparse, k, t, hk, ht, hspan.symm⟩

end Scriptlet
