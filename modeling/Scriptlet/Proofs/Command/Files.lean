import Scriptlet.Proofs.Command.Streams

/-!
# Files: what is written at a path is what a command runs there

A folder that is written to has the file at its place, and a folder at every place on the way there.
So a path that goes down all the way leads to the file, and to the text in it.

* `Folder.node?_write_self`, `Folder.node?_write_way`   what is at these places after a write;
* `Folder.walk_eq_ok`       a path goes down to a file when folders are on the way;
* `Folder.readText_write`   hence a text is read at the path where it is written;
* `Command.outcome_write`   and is run there as it is on the command line, but for its name.
-/

namespace Scriptlet

namespace Folder

/-- The path leads to the place, and reading it is not refused for what it looks like: it only goes
down, and neither the whole path nor a part of it is too long. -/
structure LeadsDown (path : String) (place : Place) : Prop where
  filePlace : filePlace? path = some place
  noUp : ".." ∉ parts path
  short : path.utf8ByteSize ≤ longestPath
  shortParts : ∀ part ∈ parts path, part.utf8ByteSize ≤ longestPart

example : LeadsDown "a/./b" ["b", "a"] where
  filePlace := by decide +kernel
  noUp := by decide +kernel
  short := by decide +kernel
  shortParts := by
    have hparts : parts "a/./b" = ["a", ".", "b"] := by decide +kernel
    rw [hparts]
    simp only [List.forall_mem_cons]
    exact ⟨by decide, by decide, by decide, List.forall_mem_nil _⟩

/-! ## places after a write -/

section

variable {f : Folder} {path : String} {place : Place} (hplace : filePlace? path = some place)
  (hfits : f.fits place = true) (content : ByteArray)
include hplace hfits

theorem write_of_fits : f.write path content = ⟨(place, content) :: f.files⟩ := by
  unfold write
  rw [hplace]
  dsimp only
  rw [if_pos hfits]

theorem node?_write_self : (f.write path content).node? place = some (.file content) := by
  unfold node?
  rw [write_of_fits hplace hfits, List.lookup_cons_self]

theorem node?_write_way {inner : Place} (hway : inner <:+ place) (hne : inner ≠ place) :
    (f.write path content).node? inner = some .inner := by
  have hsuffix : inner.isSuffixOf place = true := List.isSuffixOf_iff_suffix.mpr hway
  have hnone : ((place, content) :: f.files).lookup inner = none := by
    rw [List.lookup_eq_none_iff]
    intro q hq
    rw [bne_iff_ne]
    rintro rfl
    obtain rfl | hq := List.mem_cons.mp hq
    · exact hne rfl
    · have hclear := List.all_eq_true.mp hfits q hq
      simp [hne, hsuffix] at hclear
  unfold node?
  rw [write_of_fits hplace hfits, hnone]
  dsimp only
  rw [List.any_cons, hsuffix, Bool.true_or, if_pos rfl]

end

/-! ## down a path -/

theorem step_of_isName {p : String} (h : isName p = true) (here : Place) :
    step (some here) p = some (p :: here) := by
  unfold step
  rw [if_pos h, Option.map_some]

theorem step_of_stays {p : String} (h : isName p = false) (hup : p ≠ "..") (here : Option Place) :
    step here p = here := by
  unfold step
  rw [h, if_neg Bool.false_ne_true, if_neg hup]

theorem foldl_step_none {ps : List String} : ps.foldl step none = none := by
  induction ps with
  | nil => rfl
  | cons p ps ih =>
    have hstep : step none p = none := by
      unfold step
      split_ifs <;> rfl
    rw [List.foldl_cons, hstep, ih]

theorem foldl_step {ps : List String} (hup : ".." ∉ ps) (here : Place) :
    ps.foldl step (some here) = some ((ps.filter isName).reverse ++ here) := by
  induction ps generalizing here with
  | nil => rfl
  | cons p ps ih =>
    have hp : p ≠ ".." := fun h => hup (h ▸ List.mem_cons_self)
    have hps : ".." ∉ ps := fun h => hup (List.mem_cons_of_mem p h)
    rw [List.foldl_cons]
    cases hname : isName p with
    | true =>
      rw [step_of_isName hname, ih hps, List.filter_cons_of_pos hname, List.reverse_cons,
        List.append_assoc, List.singleton_append]
    | false =>
      rw [step_of_stays hname hp, ih hps, List.filter_cons_of_neg (by rw [hname]; nofun)]

section

variable {f : Folder} {p : String} {here : Place}

theorem walk_of_inner (hname : isName p = true) (hshort : p.utf8ByteSize ≤ longestPart)
    (hnode : f.node? (p :: here) = some .inner) (ps : List String) :
    f.walk (some here) (p :: ps) = f.walk (some (p :: here)) ps := by
  rw [walk, hname, if_neg (by decide), if_neg (Nat.not_lt.mpr hshort), step_of_isName hname]
  dsimp only
  rw [hnode]

theorem walk_of_file {content : ByteArray} (hname : isName p = true)
    (hshort : p.utf8ByteSize ≤ longestPart)
    (hnode : f.node? (p :: here) = some (.file content)) :
    f.walk (some here) [p] = .ok content := by
  rw [walk, hname, if_neg (by decide), if_neg (Nat.not_lt.mpr hshort), step_of_isName hname]
  dsimp only
  rw [hnode]
  rfl

end

theorem walk_of_stays {f : Folder} {p : String} (hname : isName p = false) (hup : p ≠ "..")
    (here : Option Place) (ps : List String) : f.walk here (p :: ps) = f.walk here ps := by
  rw [walk, hname, if_pos (by decide), step_of_stays hname hup]

/-- **A path goes down to a file when folders are on the way.** -/
theorem walk_eq_ok {f : Folder} {place : Place} {content : ByteArray}
    (hway : ∀ inner, inner <:+ place → inner ≠ place → f.node? inner = some .inner)
    (hfile : f.node? place = some (.file content)) {ps : List String} {last : String}
    (hup : ".." ∉ ps) (hshort : ∀ p ∈ ps ++ [last], p.utf8ByteSize ≤ longestPart)
    (hlast : isName last = true) {here : Place}
    (hplace : last :: (ps.filter isName).reverse ++ here = place) :
    f.walk (some here) (ps ++ [last]) = .ok content := by
  induction ps generalizing here with
  | nil =>
    have hplace : last :: here = place := hplace
    exact walk_of_file hlast (hshort last (List.mem_singleton_self last)) (hplace ▸ hfile)
  | cons p ps ih =>
    have hps : ".." ∉ ps := fun h => hup (List.mem_cons_of_mem p h)
    have hshort' : ∀ q ∈ ps ++ [last], q.utf8ByteSize ≤ longestPart :=
      fun q hq => hshort q (List.mem_cons_of_mem p hq)
    rw [List.cons_append]
    cases hp : isName p with
    | false =>
      have hne : p ≠ ".." := fun h => hup (h ▸ List.mem_cons_self)
      rw [List.filter_cons_of_neg (by rw [hp]; nofun)] at hplace
      rw [walk_of_stays hp hne]
      exact ih hps hshort' hplace
    | true =>
      rw [List.filter_cons_of_pos hp, List.reverse_cons, ← List.cons_append, List.append_assoc,
        List.singleton_append] at hplace
      have hinner : f.node? (p :: here) = some .inner := by
        refine hway _ ⟨_, hplace⟩ fun h => ?_
        -- the last name is still to come
        rw [← hplace, List.self_eq_append_left] at h
        cases h
      rw [walk_of_inner hp (hshort p List.mem_cons_self) hinner]
      exact ih hps hshort' hplace

/-! ## what is read -/

theorem decodeText_toUTF8 (text : String) : decodeText text.toUTF8 = .ok text := by
  have hread : String.fromUTF8? text.toUTF8 = some text := by
    unfold String.fromUTF8?
    rw [String.toUTF8_eq_toByteArray, dif_pos text.isValidUTF8]
    rfl
  rw [decodeText, hread]

theorem LeadsDown.exists_parts {path : String} {place : Place} (h : LeadsDown path place) :
    start path = some [] ∧ ∃ ps last, parts path = ps ++ [last] ∧ isName last = true ∧
      last :: (ps.filter isName).reverse = place := by
  have hplace := h.filePlace
  unfold filePlace? at hplace
  split at hplace
  · rename_i last hlast
    split_ifs at hplace with hname
    obtain ⟨ps, hparts⟩ := List.getLast?_eq_some_iff.mp hlast
    unfold start at hplace ⊢
    split_ifs at hplace ⊢
    · rw [foldl_step_none] at hplace
      cases hplace
    · rw [foldl_step h.noUp, List.append_nil, hparts, List.filter_append, List.reverse_append,
        List.filter_cons_of_pos hname] at hplace
      exact ⟨rfl, ps, last, hparts, hname, Option.some.inj hplace⟩
  · cases hplace

/-- **A text is read at the path where it is written.** -/
theorem readText_write {f : Folder} {path : String} {place : Place} (h : LeadsDown path place)
    (hfits : f.fits place = true) (text : String) :
    (f.write path text.toUTF8).readText path = .ok text := by
  obtain ⟨hstart, ps, last, hparts, hlast, hplace⟩ := h.exists_parts
  have hup : ".." ∉ ps := fun hmem => h.noUp (hparts ▸ List.mem_append_left _ hmem)
  have hne : path ≠ "" := by
    rintro rfl
    cases h.filePlace
  unfold readText read
  rw [if_neg hne, if_neg (Nat.not_lt.mpr h.short), hstart, hparts,
    walk_eq_ok (fun _ => node?_write_way h.filePlace hfits _) (node?_write_self h.filePlace hfits _)
      hup (hparts ▸ h.shortParts) hlast (by rw [List.append_nil, hplace])]
  exact decodeText_toUTF8 text

end Folder

/-- **A script that is written to a file runs as on the command line**, but for its name in the
report. -/
theorem Command.outcome_write {f : Folder} {path : String} {place : Place}
    (h : Folder.LeadsDown path place) (hfits : f.fits place = true) (text : String)
    (colour : Bool) (emit : Option Emission) :
    let read := (f.write path text.toUTF8).readText
    ∃ o o', outcomeIn Theme.standard.unlimited read colour ⟨text, true, emit⟩ = .ok o ∧
      outcomeIn Theme.standard.unlimited read colour ⟨path, false, emit⟩ = .ok o' ∧
      o.exitCode = o'.exitCode ∧ o.out = o'.out ∧
      (o.err = "" ∧ o'.err = "" ∨ ∃ above below, ∃ p : Spot text.toList,
        o.err = above ++ Drawing.placeLine "<unnamed>" p ++ "\n" ++ below ∧
        o'.err = above ++ Drawing.placeLine path p ++ "\n" ++ below) :=
  outcome_by_name rfl colour (Folder.readText_write h hfits text) emit

end Scriptlet
