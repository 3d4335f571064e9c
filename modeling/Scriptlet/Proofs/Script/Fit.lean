import Scriptlet.Proofs.Grammar
import Scriptlet.Proofs.Script.Reader

/-!
# Fit: a reader that reads the phrases of a rule, and says where there is none

`Fits p D F`: the reader `p` reads the phrases `D`, and `F` is what may come next.

* `Completes`  a phrase is read, whatever follows it, as long as `F` lets it follow;
* `FitsAt.ok`  what is read is a phrase, and `F` holds of what follows;
* `FitsAt.error`  where a reader stops, what it has passed can be completed with what it asks for,
               and it stops there no matter what comes after the token at hand.

`FitsAt` leaves open what is completed, by its parameter `C`: where a factor is missing, any
expression may stand, and what comes out is an expression then and no factor.  In `Fits` it is a
phrase of `D` (`Whole D`).  Readers that fit, one after the other, fit the phrases one after the
other (`Fits.andThen`).
-/

namespace Scriptlet.Parser

open Grammar

def nextKind (ts : List Token) : Option Token.Kind := ts.head?.map Token.kind

theorem nextKind_cons (t : Token) (ts : List Token) : nextKind (t :: ts) = some t.kind := rfl

/-- what kind of token may come after a phrase, by what the phrase stands for -/
abbrev Follow (α : Type) := α → Option Token.Kind → Prop

def anything {α : Type} : Follow α := fun _ _ => True

/-! ## complaints -/

def Complaint.MetBy : Complaint → List Token → Prop
  | .expected what, xs => Expected what xs
  | .invalidNumber, xs => ∃ t, xs = [t] ∧ IsNumeral t

/-- Both start with a token that the complaint is made about, if it is about one of them. -/
def Complaint.Alike (c : Complaint) (ts ts' : List Token) : Prop :=
  ∃ t rest t' rest', ts = t :: rest ∧ ts' = t' :: rest' ∧ t'.kind = t.kind ∧
    (c = .invalidNumber → t'.text = t.text)

theorem Complaint.Alike.nextKind_eq {c : Complaint} {ts ts' : List Token} (h : c.Alike ts ts') :
    nextKind ts' = nextKind ts := by
  obtain ⟨t, rest, t', rest', rfl, rfl, hkind, -⟩ := h
  exact congrArg some hkind

theorem Complaint.Alike.nextKind_append {c : Complaint} {ts ts' : List Token} (h : c.Alike ts ts')
    (us : List Token) : nextKind (us ++ ts') = nextKind (us ++ ts) := by
  cases us with
  | nil => exact h.nextKind_eq
  | cons u us => rfl

/-- An invalid number is a number token that cannot be read; the end of the input is expected only
after all that a reader reads. -/
structure Stop.Justified (s : Stop) : Prop where
  number : s.complaint = .invalidNumber →
    ∃ t rest, s.rest = t :: rest ∧ t.kind = .number ∧ Number.ofText? t.text = none
  inner : s.complaint ≠ .expected .endOfInput

theorem Stop.justified_of_expected {what : Expectation} (hwhat : what ≠ .endOfInput)
    (ts : List Token) : Stop.Justified ⟨.expected what, ts⟩ where
  number h := by cases h
  inner h := hwhat (Complaint.expected.inj h)

/-! ## phrases -/

def Nothing {α : Type} (a : α) : Phrase α := fun us b => us = [] ∧ b = a

def One (kind : Token.Kind) : Phrase Token := fun us t => us = [t] ∧ t.kind = kind

def Then {α β : Type} (D : Phrase α) (E : α → Phrase β) : Phrase β := fun us b =>
  ∃ xs ys a, us = xs ++ ys ∧ D xs a ∧ E a ys b

theorem then_one_iff {β : Type} {kind : Token.Kind} {E : Token → Phrase β} {us : List Token}
    {b : β} : Then (One kind) E us b ↔ ∃ t vs, us = t :: vs ∧ t.kind = kind ∧ E t vs b := by
  constructor
  · intro h
    obtain ⟨xs, vs, t, rfl, ⟨rfl, ht⟩, hb⟩ := h
    exact ⟨t, vs, rfl, ht, hb⟩
  · intro h
    obtain ⟨t, vs, rfl, ht, hb⟩ := h
    exact ⟨[t], vs, t, rfl, ⟨rfl, ht⟩, hb⟩

def Whole {α : Type} (D : Phrase α) (us : List Token) : Prop := ∃ a, D us a

def Occurs {α : Type} (D : Phrase α) : Prop := ∃ us, Whole D us

/-! ## readers -/

section
variable {α β : Type}

def Completes (p : Reader α) (D : Phrase α) (F : Follow α) : Prop :=
  ∀ ⦃us : List Token⦄ ⦃a : α⦄ (rest : List Token), D us a → F a (nextKind rest) →
    p (us ++ rest) = .ok (a, rest)

structure FitsAt (p : Reader α) (D : Phrase α) (C : List Token → Prop) (F : Follow α)
    (ts : List Token) : Prop where
  ok : ∀ {a : α} {rest : List Token}, p ts = .ok (a, rest) →
    ∃ us, ts = us ++ rest ∧ D us a ∧ F a (nextKind rest)
  error : ∀ {s : Stop}, p ts = .error s →
    ∃ us, ts = us ++ s.rest ∧ s.Justified ∧
      (∀ xs, s.complaint.MetBy xs → ∃ vs, C (us ++ (xs ++ vs))) ∧
      (∀ ts', s.complaint.Alike s.rest ts' → p (us ++ ts') = .error ⟨s.complaint, ts'⟩)

structure Fits (p : Reader α) (D : Phrase α) (F : Follow α) : Prop where
  completes : Completes p D F
  fitsAt : ∀ ts, FitsAt p D (Whole D) F ts
  occurs : Occurs D

variable {p : Reader α} {D : Phrase α} {C : List Token → Prop} {F : Follow α} {ts : List Token}
  {q : α → Reader β} {E : α → Phrase β} {G : Follow β}

theorem FitsAt.of_ok (us : List Token) {rest : List Token} {a : α}
    (h : p (us ++ rest) = .ok (a, rest)) (hD : D us a) (hF : F a (nextKind rest)) :
    FitsAt p D C F (us ++ rest) where
  ok h' := by
    rw [h] at h'
    cases h'
    exact ⟨us, rfl, hD, hF⟩
  error h' := by
    rw [h] at h'
    cases h'

theorem FitsAt.of_stop {c : Complaint} (h : p ts = .error ⟨c, ts⟩)
    (hjust : Stop.Justified ⟨c, ts⟩) (hmet : ∀ xs, c.MetBy xs → ∃ vs, C (xs ++ vs))
    (halike : ∀ ts', c.Alike ts ts' → p ts' = .error ⟨c, ts'⟩) : FitsAt p D C F ts where
  ok h' := by
    rw [h] at h'
    cases h'
  error h' := by
    rw [h] at h'
    cases h'
    exact ⟨[], rfl, hjust, hmet, halike⟩

theorem FitsAt.of_stop_nil {what : Expectation} (h : p [] = .error ⟨.expected what, []⟩)
    (hwhat : what ≠ .endOfInput) (hmet : ∀ xs, Expected what xs → ∃ vs, C (xs ++ vs)) :
    FitsAt p D C F [] := by
  refine .of_stop h (Stop.justified_of_expected hwhat []) hmet ?_
  intro ts' h
  obtain ⟨t, rest, t', rest', hts, -⟩ := h
  cases hts

theorem FitsAt.of_stop_cons {what : Expectation} {t : Token} {rest : List Token}
    (h : ∀ t' rest', t'.kind = t.kind → p (t' :: rest') = .error ⟨.expected what, t' :: rest'⟩)
    (hwhat : what ≠ .endOfInput) (hmet : ∀ xs, Expected what xs → ∃ vs, C (xs ++ vs)) :
    FitsAt p D C F (t :: rest) := by
  refine .of_stop (h t rest rfl) (Stop.justified_of_expected hwhat _) hmet ?_
  intro ts' h
  obtain ⟨u, us, t', rest', hts, rfl, hkind, -⟩ := h
  cases hts
  exact h t' rest' hkind

theorem FitsAt.cons {p' : Reader α} {D' : Phrase α} {C' : List Token → Prop} {t : Token}
    (heq : ∀ rest, p (t :: rest) = p' rest) (h : FitsAt p' D' C' F ts)
    (hD : ∀ {us a}, D' us a → D (t :: us) a) (hC : ∀ {us}, C' us → C (t :: us)) :
    FitsAt p D C F (t :: ts) where
  ok h' := by
    obtain ⟨us, rfl, hus, hF⟩ := h.ok ((heq ts).symm.trans h')
    exact ⟨t :: us, rfl, hD hus, hF⟩
  error h' := by
    obtain ⟨us, hts, hjust, hmet, halike⟩ := h.error ((heq ts).symm.trans h')
    refine ⟨t :: us, by rw [hts]; rfl, hjust, fun xs hxs => ?_, fun ts' hts' => ?_⟩
    · obtain ⟨vs, ha⟩ := hmet xs hxs
      exact ⟨vs, hC ha⟩
    · exact (heq _).trans (halike ts' hts')

theorem FitsAt.mono {D' : Phrase α} {C' : List Token → Prop} {F' : Follow α}
    (h : FitsAt p D C F ts) (hD : ∀ {us a}, D us a → D' us a) (hC : ∀ {us}, C us → C' us)
    (hF : ∀ {us a k}, D us a → F a k → F' a k) : FitsAt p D' C' F' ts where
  ok h' := by
    obtain ⟨us, hts, hus, hk⟩ := h.ok h'
    exact ⟨us, hts, hD hus, hF hus hk⟩
  error h' := by
    obtain ⟨us, hts, hjust, hmet, halike⟩ := h.error h'
    refine ⟨us, hts, hjust, fun xs hxs => ?_, halike⟩
    obtain ⟨vs, ha⟩ := hmet xs hxs
    exact ⟨vs, hC ha⟩

/-- Readers that agree on tokens that start with the same kind fit alike. -/
theorem FitsAt.congr {p' : Reader α} (h : FitsAt p D C F ts)
    (heq : ∀ us, nextKind us = nextKind ts → p' us = p us) : FitsAt p' D C F ts where
  ok h' := h.ok ((heq ts rfl).symm.trans h')
  error {s} h' := by
    obtain ⟨us, hts, hjust, hmet, halike⟩ := h.error ((heq ts rfl).symm.trans h')
    refine ⟨us, hts, hjust, hmet, fun ts' hts' => ?_⟩
    have hnext : nextKind (us ++ ts') = nextKind ts := by
      rw [hts'.nextKind_append, ← hts]
    exact (heq _ hnext).trans (halike ts' hts')

theorem Whole.mono {D' : Phrase α} (hD : ∀ {us a}, D us a → D' us a) {us : List Token}
    (h : Whole D us) : Whole D' us := by
  obtain ⟨a, ha⟩ := h
  exact ⟨a, hD ha⟩

/-- **One reader after the other, at given tokens.**  Where the second one stops, the first one is
read again with other tokens behind: it is complete, and the token after it is of the same kind. -/
theorem FitsAt.andThen {A : List Token → Prop} {B : α → List Token → Prop}
    (hp : Completes p D F) (hts : FitsAt p D A F ts)
    (hq : ∀ {us a rest}, ts = us ++ rest → D us a → F a (nextKind rest) →
      FitsAt (q a) (E a) (B a) G rest)
    (hA : ∀ {us}, A us → ∃ vs, C (us ++ vs)) (hB : ∀ {us a vs}, D us a → B a vs → C (us ++ vs)) :
    FitsAt (p.andThen q) (Then D E) C G ts where
  ok {b rest} h := by
    cases hpts : p ts with
    | error s =>
      rw [Reader.andThen_of_error hpts] at h
      cases h
    | ok r =>
      obtain ⟨a, mid⟩ := r
      rw [Reader.andThen_of_ok hpts] at h
      obtain ⟨us, hus, hD, hF⟩ := hts.ok hpts
      obtain ⟨vs, hvs, hEb, hG⟩ := (hq hus hD hF).ok h
      exact ⟨us ++ vs, by rw [hus, hvs, List.append_assoc], ⟨us, vs, a, rfl, hD, hEb⟩, hG⟩
  error {s} h := by
    cases hpts : p ts with
    | error s' =>
      rw [Reader.andThen_of_error hpts] at h
      cases h
      obtain ⟨us, hus, hjust, hmet, halike⟩ := hts.error hpts
      refine ⟨us, hus, hjust, fun xs hxs => ?_, fun ts' hts' => ?_⟩
      · obtain ⟨vs, ha⟩ := hmet xs hxs
        obtain ⟨ws, hb⟩ := hA ha
        rw [List.append_assoc, List.append_assoc] at hb
        exact ⟨vs ++ ws, hb⟩
      · exact Reader.andThen_of_error (halike ts' hts')
    | ok r =>
      obtain ⟨a, mid⟩ := r
      rw [Reader.andThen_of_ok hpts] at h
      obtain ⟨us, hus, hD, hF⟩ := hts.ok hpts
      obtain ⟨vs, hvs, hjust, hmet, halike⟩ := (hq hus hD hF).error h
      refine ⟨us ++ vs, by rw [hus, hvs, List.append_assoc], hjust, fun xs hxs => ?_,
        fun ts' hts' => ?_⟩
      · obtain ⟨ws, hb⟩ := hmet xs hxs
        exact ⟨ws, by rw [List.append_assoc]; exact hB hD hb⟩
      · have hnext : F a (nextKind (vs ++ ts')) := by
          rw [hts'.nextKind_append, ← hvs]
          exact hF
        rw [List.append_assoc, Reader.andThen_of_ok (hp _ hD hnext)]
        exact halike ts' hts'

theorem append_nil_of {us : List Token} (h : C us) : ∃ vs, C (us ++ vs) :=
  ⟨[], by rwa [List.append_nil]⟩

theorem Whole.then_left (hE : ∀ a, Occurs (E a)) {us : List Token} (h : Whole D us) :
    ∃ vs, Whole (Then D E) (us ++ vs) := by
  obtain ⟨a, ha⟩ := h
  obtain ⟨vs, b, hb⟩ := hE a
  exact ⟨vs, b, us, vs, a, rfl, ha, hb⟩

theorem Occurs.then (hD : Occurs D) (hE : ∀ a, Occurs (E a)) : Occurs (Then D E) := by
  obtain ⟨us, hus⟩ := hD
  obtain ⟨vs, hvs⟩ := Whole.then_left hE hus
  exact ⟨us ++ vs, hvs⟩

theorem occurs_nothing (a : α) : Occurs (Nothing a) := ⟨[], a, rfl, rfl⟩

theorem Whole.then_right {us vs : List Token} {a : α} (ha : D us a) (h : Whole (E a) vs) :
    Whole (Then D E) (us ++ vs) := by
  obtain ⟨b, hb⟩ := h
  exact ⟨b, us, vs, a, rfl, ha, hb⟩

theorem Completes.andThen (hp : Completes p D F) (hq : ∀ a, Completes (q a) (E a) G)
    (hF : ∀ {a ys b rest}, E a ys b → G b (nextKind rest) → F a (nextKind (ys ++ rest))) :
    Completes (p.andThen q) (Then D E) G := by
  intro us b rest h hG
  obtain ⟨xs, ys, a, rfl, hD, hE⟩ := h
  rw [List.append_assoc, Reader.andThen_of_ok (hp _ hD (hF hE hG))]
  exact hq a rest hE hG

/-- **One reader after the other.** -/
theorem Fits.andThen (hp : Fits p D F) (hq : ∀ a, Fits (q a) (E a) G)
    (hF : ∀ {a ys b rest}, E a ys b → G b (nextKind rest) → F a (nextKind (ys ++ rest))) :
    Fits (p.andThen q) (Then D E) G where
  completes := hp.completes.andThen (fun a => (hq a).completes) hF
  fitsAt ts := .andThen hp.completes (hp.fitsAt ts) (fun _ _ _ => (hq _).fitsAt _)
    (Whole.then_left fun a => (hq a).occurs) Whole.then_right
  occurs := hp.occurs.then fun a => (hq a).occurs

theorem completes_done (b : β) : Completes (.done b) (Nothing b) G := by
  intro us a rest h _
  obtain ⟨rfl, rfl⟩ := h
  rfl

theorem fitsAt_done {b : β} {A : List Token → Prop} (hG : G b (nextKind ts)) :
    FitsAt (.done b) (Nothing b) A G ts :=
  .of_ok [] rfl ⟨rfl, rfl⟩ hG

theorem Fits.done (b : β) : Fits (.done b) (Nothing b) anything where
  completes := completes_done b
  fitsAt _ := fitsAt_done trivial
  occurs := occurs_nothing b

end

/-! ## single tokens -/

theorem Fits.take {kind : Token.Kind} {what : Expectation}
    (hwhat : ∀ {xs}, Expected what xs → Whole (One kind) xs) :
    Fits (reader (Parser.take kind what)) (One kind) anything where
  completes := by
    intro us t rest h _
    obtain ⟨rfl, ht⟩ := h
    exact take_cons_of_eq ht what rest
  fitsAt ts := by
    have hmet : ∀ xs, Expected what xs → ∃ vs, Whole (One kind) (xs ++ vs) :=
      fun xs hxs => append_nil_of (hwhat hxs)
    have hne : what ≠ .endOfInput := by
      intro h
      obtain rfl := h
      obtain ⟨t, h, -⟩ := hwhat rfl
      cases h
    cases ts with
    | nil => exact .of_stop_nil rfl hne hmet
    | cons t rest =>
      by_cases ht : t.kind = kind
      · exact .of_ok [t] (take_cons_of_eq ht what rest) ⟨rfl, ht⟩ trivial
      · exact .of_stop_cons (fun t' rest' h => take_cons_of_ne (h ▸ ht) what rest') hne hmet
  occurs := ⟨_, ⟨kind, "", .empty 0⟩, rfl, rfl⟩

theorem Fits.symbol (c : Char) : Fits (reader (Parser.symbol c)) (One (.symbol c)) anything :=
  .take id

theorem Fits.keyword (k : Keyword) : Fits (reader (Parser.keyword k)) (One (.keyword k)) anything :=
  .take id

def Name : Phrase Ident := Then (One .identifier) fun t => Nothing (identOf t)

theorem name_iff {us : List Token} {x : Ident} :
    Name us x ↔ ∃ t, us = [t] ∧ t.kind = .identifier ∧ x = identOf t := by
  constructor
  · intro h
    obtain ⟨t, -, rfl, ht, rfl, rfl⟩ := then_one_iff.mp h
    exact ⟨t, rfl, ht, rfl⟩
  · intro h
    obtain ⟨t, rfl, ht, rfl⟩ := h
    exact then_one_iff.mpr ⟨t, [], rfl, ht, rfl, rfl⟩

theorem then_name_iff {β : Type} {E : Ident → Phrase β} {us : List Token} {b : β} :
    Then Name E us b ↔ ∃ t vs, us = t :: vs ∧ t.kind = .identifier ∧ E (identOf t) vs b := by
  constructor
  · intro h
    obtain ⟨xs, vs, x, rfl, hx, hb⟩ := h
    obtain ⟨t, rfl, ht, rfl⟩ := name_iff.mp hx
    exact ⟨t, vs, rfl, ht, hb⟩
  · intro h
    obtain ⟨t, vs, rfl, ht, hb⟩ := h
    exact ⟨[t], vs, identOf t, rfl, name_iff.mpr ⟨t, rfl, ht, rfl⟩, hb⟩

theorem Fits.ident : Fits (reader Parser.ident) Name anything := by
  rw [funext ident_eq]
  exact .andThen (.take id) (fun _ => .done _) fun _ _ => trivial

end Scriptlet.Parser
