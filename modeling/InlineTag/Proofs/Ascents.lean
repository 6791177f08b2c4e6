import Mathlib
import InlineTag.Files.Path

/-!
# InlineTag.Proofs.Ascents

The paths from a path upwards, and the places that they name below the root.

* `Ascent`: a path, its parent, the parent of that one, and so on to the top.
* `ascent_iff`: every path has exactly one ascent, which `ancestors` gives.
* `Ascent.length_le`: an ascent is no longer than the text of the path.
* `placeOf_parent`: for a path from the root, a parent names the place directly above.
* `Ascent.pairwise_placeOf`: no place comes up twice on the ascent of such a path.
-/

namespace InlineTag
namespace Files

open Text

/-! ## Ascents -/

/-- The paths from a path upwards, of which each is the parent of the one before it and the last has
none. -/
inductive Ascent : List Char → List (List Char) → Prop where
  | top {path : List Char} (hparent : parent? path = none) : Ascent path [path]
  | up {path parent : List Char} {above : List (List Char)} (hparent : parent? path = some parent)
      (habove : Ascent parent above) : Ascent path (path :: above)

section Ascents

variable {path parent : List Char} {chain below above : List (List Char)}

theorem ancestors_of_none (h : parent? path = none) : ancestors path = [path] := by
  rw [ancestors]
  split
  · rfl
  · rename_i hparent
    rw [h] at hparent
    cases hparent

theorem ancestors_of_some (h : parent? path = some parent) :
    ancestors path = path :: ancestors parent := by
  rw [ancestors]
  split
  · rename_i hparent
    rw [h] at hparent
    cases hparent
  · rename_i hparent
    rw [h] at hparent
    cases hparent
    rfl

/-- Climbing comes to an end, since each parent is shorter. -/
theorem ascent_ancestors (path : List Char) : Ascent path (ancestors path) := by
  fun_induction ancestors path with
  | case1 path hparent => exact .top hparent
  | case2 path parent hparent ih => exact .up hparent ih

theorem Ascent.eq_ancestors (h : Ascent path chain) : chain = ancestors path := by
  induction h with
  | top hparent => rw [ancestors_of_none hparent]
  | up hparent _ ih => rw [ancestors_of_some hparent, ih]

theorem ascent_iff : Ascent path chain ↔ chain = ancestors path :=
  ⟨Ascent.eq_ancestors, fun h => h ▸ ascent_ancestors path⟩

theorem Ascent.length_le (h : Ascent path chain) : chain.length ≤ path.length + 1 := by
  induction h with
  | top => simp
  | up hparent _ ih =>
    have hshorter := parent?_shorter hparent
    rw [List.length_cons]
    omega

/-- From each of its paths on, an ascent is the ascent of that path. -/
theorem Ascent.behind {other : List Char} (h : Ascent path chain)
    (hchain : chain = below ++ other :: above) : Ascent other (other :: above) := by
  induction h generalizing below with
  | top hparent =>
    cases below with
    | nil =>
      obtain ⟨rfl, rfl⟩ := List.cons.inj hchain
      exact .top hparent
    | cons first below => simp at hchain
  | up hparent habove ih =>
    cases below with
    | nil =>
      obtain ⟨rfl, rfl⟩ := List.cons.inj hchain
      exact .up hparent habove
    | cons first below => exact ih (List.cons.inj hchain).2

end Ascents

/-! ## Places -/

/-- The parts of a path that lead somewhere. -/
def placeOf (path : List Char) : List (List Char) :=
  (pieces '/' path).filter fun part => !isIdle part

/-- A path from the root that never leads back up. -/
structure Rooted (path : List Char) : Prop where
  absolute : path.head? = some '/'
  forward : ['.', '.'] ∉ pieces '/' path

section Places

variable {path parent : List Char} {parts chain : List (List Char)}

theorem head?_eq_slash_iff : path.head? = some '/' ↔ ∃ rest, path = '/' :: rest := by
  cases path <;> simp [eq_comm]

theorem placeOf_slash (rest : List Char) : placeOf ('/' :: rest) = placeOf rest := by
  simp [placeOf, pieces, isIdle]

theorem dots_mem_placeOf_iff : ['.', '.'] ∈ placeOf path ↔ ['.', '.'] ∈ pieces '/' path := by
  rw [placeOf, List.mem_filter]
  exact and_iff_left (by decide)

theorem placeOf_joined (h : ∀ part ∈ parts, '/' ∉ part) :
    placeOf (joined '/' parts) = parts.filter fun part => !isIdle part := by
  cases parts with
  | nil => rfl
  | cons part rest => rw [placeOf, pieces_joined (List.cons_ne_nil part rest) h]

theorem dropIdle_subset (parts : List (List Char)) : dropIdle parts ⊆ parts := by
  obtain ⟨idle, hidle⟩ := dropIdle_append parts
  intro part hpart
  rw [hidle]
  exact List.mem_append_left idle hpart

theorem filter_dropIdle (parts : List (List Char)) :
    (dropIdle parts).filter (fun part => !isIdle part) = parts.filter fun part => !isIdle part := by
  induction parts using List.reverseRecOn with
  | nil => rfl
  | append_singleton parts last ih =>
    by_cases hlast : isIdle last
    · rw [List.filter_append, ← ih]
      simp [dropIdle, hlast]
    · simp [dropIdle, hlast]

theorem parent?_slash {rest : List Char} (h : parent? ('/' :: rest) = some parent) :
    ∃ parts last, dropIdle (pieces '/' rest) = parts ++ [last] ∧
      parent = '/' :: joined '/' (dropIdle parts) := by
  simp only [parent?, splitBase] at h
  split at h
  · cases h
  · rename_i part parts hparts
    cases h
    have hne := List.cons_ne_nil part parts
    refine ⟨(part :: parts).dropLast, (part :: parts).getLast hne, ?_, rfl⟩
    rw [hparts, List.dropLast_concat_getLast]

/-- The parent of a path from the root is one too, and names the place directly above. -/
theorem placeOf_parent (habsolute : path.head? = some '/') (h : parent? path = some parent) :
    parent.head? = some '/' ∧ ∃ last, placeOf path = placeOf parent ++ [last] := by
  obtain ⟨rest, rfl⟩ := head?_eq_slash_iff.mp habsolute
  obtain ⟨parts, last, hparts, rfl⟩ := parent?_slash h
  have hlast : isIdle last = false := by
    have hne : dropIdle (pieces '/' rest) ≠ [] := by simp [hparts]
    simpa [hparts] using getLast_dropIdle hne
  have hmark : ∀ part ∈ dropIdle parts, '/' ∉ part := by
    intro part hpart
    refine not_mem_of_mem_pieces (dropIdle_subset (pieces '/' rest) ?_)
    rw [hparts]
    exact List.mem_append_left [last] (dropIdle_subset parts hpart)
  refine ⟨rfl, last, ?_⟩
  rw [placeOf_slash, placeOf_slash, placeOf_joined hmark, filter_dropIdle, placeOf,
    ← filter_dropIdle, hparts, List.filter_append]
  simp [hlast]

theorem Rooted.up (hpath : Rooted path) (h : parent? path = some parent) : Rooted parent := by
  obtain ⟨habsolute, last, hplace⟩ := placeOf_parent hpath.absolute h
  refine ⟨habsolute, fun hdots => hpath.forward ?_⟩
  rw [← dots_mem_placeOf_iff, hplace]
  exact List.mem_append_left [last] (dots_mem_placeOf_iff.mpr hdots)

/-- All paths of the ascent start at the root too. -/
theorem Ascent.rooted (h : Ascent path chain) (hpath : Rooted path) :
    ∀ other ∈ chain, Rooted other := by
  induction h with
  | top => exact List.forall_mem_singleton.mpr hpath
  | up hparent _ ih => exact List.forall_mem_cons.mpr ⟨hpath, ih (hpath.up hparent)⟩

theorem Ascent.length_placeOf_le (h : Ascent path chain) (hpath : Rooted path) :
    ∀ other ∈ chain, (placeOf other).length ≤ (placeOf path).length := by
  induction h with
  | top => exact List.forall_mem_singleton.mpr le_rfl
  | up hparent _ ih =>
    obtain ⟨-, last, hplace⟩ := placeOf_parent hpath.absolute hparent
    refine List.forall_mem_cons.mpr ⟨le_rfl, fun other hother => ?_⟩
    have hle := ih (hpath.up hparent) other hother
    rw [hplace, List.length_append]
    omega

/-- Every path of the ascent has a place of its own. -/
theorem Ascent.pairwise_placeOf (h : Ascent path chain) (hpath : Rooted path) :
    chain.Pairwise fun lower upper => placeOf lower ≠ placeOf upper := by
  induction h with
  | top => exact List.pairwise_singleton _ _
  | up hparent habove ih =>
    refine List.pairwise_cons.mpr ⟨fun other hother heq => ?_, ih (hpath.up hparent)⟩
    obtain ⟨-, last, hplace⟩ := placeOf_parent hpath.absolute hparent
    have hle := habove.length_placeOf_le (hpath.up hparent) other hother
    rw [← heq, hplace, List.length_append, List.length_singleton] at hle
    omega

end Places

end Files
end InlineTag
