import Scriptlet.Proofs.Script.Fit

/-!
# Repetition: phrases one after the other, up to a token that starts none

* `completes_cons`, `fitsAt_cons`  a phrase, and then a repetition;
* `Repeats.completes`  a reader that repeats another one reads any number of its phrases;
* `Repeats.fitsAt`     it fits wherever one of these phrases may come next.
-/

namespace Scriptlet.Parser

open Grammar

variable {α : Type} {p : Reader α} {many : Reader (List α)} {D E : Phrase α}
  {F G : Option Token.Kind → Prop} {ts : List Token}

def Reader.cons (p : Reader α) (many : Reader (List α)) : Reader (List α) :=
  p.andThen fun a => many.andThen fun as => .done (a :: as)

def More (D E : Phrase α) : Phrase (List α) :=
  Then D fun a => Then (Repeated E) fun as => Nothing (a :: as)

theorem more_iff {us : List Token} {as : List α} :
    More D E us as ↔ ∃ xs ys a bs, us = xs ++ ys ∧ as = a :: bs ∧ D xs a ∧ Repeated E ys bs := by
  constructor
  · intro h
    obtain ⟨xs, -, a, rfl, ha, ys, -, bs, rfl, hbs, rfl, rfl⟩ := h
    exact ⟨xs, ys, a, bs, by rw [List.append_nil], rfl, ha, hbs⟩
  · intro h
    obtain ⟨xs, ys, a, bs, rfl, rfl, ha, hbs⟩ := h
    exact ⟨xs, ys, a, rfl, ha, ys, [], bs, (List.append_nil ys).symm, hbs, rfl, rfl⟩

theorem completes_cons (hp : Completes p D fun _ => F)
    (hmany : Completes many (Repeated E) fun _ => G)
    (hF : ∀ {ys as rest}, Repeated E ys as → G (nextKind rest) → F (nextKind (ys ++ rest))) :
    Completes (p.cons many) (More D E) fun _ => G := by
  intro us as rest h hG
  obtain ⟨xs, ys, a, bs, rfl, rfl, ha, hbs⟩ := more_iff.mp h
  have hp := hp (ys ++ rest) ha (hF hbs hG)
  unfold Reader.cons
  rw [List.append_assoc, Reader.andThen_of_ok hp, Reader.andThen_of_ok (hmany rest hbs hG)]
  rfl

theorem fitsAt_cons (hp : Fits p D fun _ => F) (hmany : Completes many (Repeated E) fun _ => G)
    (hfits : ∀ {us a rest}, ts = us ++ rest → D us a → F (nextKind rest) →
      FitsAt many (Repeated E) (Whole (Repeated E)) (fun _ => G) rest) :
    FitsAt (p.cons many) (More D E) (Whole (More D E)) (fun _ => G) ts := by
  refine .andThen hp.completes (hp.fitsAt ts) (fun hts hD hF => ?_)
    (Whole.then_left fun a => ⟨[], [a], [], [], [], rfl, .nil, rfl, rfl⟩) Whole.then_right
  exact .andThen hmany (hfits hts hD hF) (fun _ _ hG => fitsAt_done hG)
    (Whole.then_left fun _ => occurs_nothing _) Whole.then_right

/-- a reader that goes on with `p` until `stop` holds of the next token -/
structure Repeats (p : Reader α) (many : Reader (List α)) (stop : Option Token.Kind → Prop) :
    Prop where
  stops : ∀ ts, stop (nextKind ts) → many ts = .ok ([], ts)
  goesOn : ∀ ts, ¬ stop (nextKind ts) → many ts = p.cons many ts

/-- how a phrase starts: not like what ends the repetition, and like what may follow a phrase -/
structure Starts (D : Phrase α) (F stop : Option Token.Kind → Prop) : Prop where
  ne_nil : ∀ {us a}, D us a → us ≠ []
  not_stop : ∀ {us a} (rest : List Token), D us a → ¬ stop (nextKind (us ++ rest))
  follows : ∀ {us a} (rest : List Token), D us a → F (nextKind (us ++ rest))

variable {stop : Option Token.Kind → Prop}

theorem Starts.follows_repeated (hD : Starts D F stop) {ys rest : List Token} {as : List α}
    (h : Repeated D ys as) (hF : F (nextKind rest)) : F (nextKind (ys ++ rest)) := by
  cases h with
  | nil => exact hF
  | cons ha has =>
    rw [List.append_assoc]
    exact hD.follows _ ha

theorem Repeats.completes (h : Repeats p many stop) (hp : Completes p D fun _ => F)
    (hD : Starts D F stop) : Completes many (Repeated D) fun _ k => F k ∧ stop k := by
  intro us as rest has hrest
  induction has with
  | nil => exact h.stops rest hrest.2
  | @cons ts us a as ha has ih =>
    have hp := hp (us ++ rest) ha (hD.follows_repeated has hrest.1)
    have hgo := h.goesOn _ (hD.not_stop (us ++ rest) ha)
    rw [List.append_assoc, hgo, Reader.cons, Reader.andThen_of_ok hp, Reader.andThen_of_ok ih]
    rfl

/-- **A repetition fits where a phrase of it may come next.** -/
theorem Repeats.fitsAt (h : Repeats p many stop) (hp : Fits p D fun _ => F)
    (hD : Starts D F stop) (hts : F (nextKind ts)) :
    FitsAt many (Repeated D) (Whole (Repeated D)) (fun _ k => F k ∧ stop k) ts := by
  induction hlen : ts.length using Nat.strongRecOn generalizing ts with
  | ind len ih =>
    by_cases hstop : stop (nextKind ts)
    · exact .of_ok [] (h.stops ts hstop) .nil ⟨hts, hstop⟩
    · have hcons := fitsAt_cons hp (h.completes hp.completes hD)
        (fun {us a rest} (hrest : ts = us ++ rest) ha hF => by
          have hus := List.length_pos_iff.mpr (hD.ne_nil ha)
          rw [hrest, List.length_append] at hlen
          exact ih rest.length (by omega) hF rfl)
      have hrepeated {us : List Token} {as : List α} (h : More D D us as) : Repeated D us as := by
        obtain ⟨xs, ys, a, bs, rfl, rfl, ha, hbs⟩ := more_iff.mp h
        exact .cons ha hbs
      exact (hcons.mono hrepeated (Whole.mono hrepeated) fun _ h' => h').congr
        fun us hus => h.goesOn us (hus ▸ hstop)

end Scriptlet.Parser
