import Mathlib
import InlineTag.Proofs.AddedFiles
import InlineTag.Proofs.ConfigSources

/-!
# InlineTag.Proofs.NearestConfig

The search for a configuration file, from a path upwards.

* `Config.FileIn`: the directory has a regular file of the name that is searched for.
* `Config.Nearest`: the first directory of an ascent that has one.
* `Config.find_eq_ok_iff`, `Config.find_eq_error_iff`: what the search gives.
* `Config.Nearest.find_eq_of_below`: it gives the same from everywhere below the file.
* `Config.find_added_of_off`, `Config.Nearest.added_above`, `Config.nearest_added`: a file added off
  the ascent, above the file found, or below it.
* `Config.find_nearest`: all of this together.
-/

namespace InlineTag
namespace Config

open Files

/-- The directory has a regular file of the name that is searched for. -/
def FileIn (look : List Char → Sight) (directory : List Char) : Prop :=
  (look (join directory fileName)).isFile = true

/-- The directory is the first one with a file on the ascent from `start`. -/
structure Nearest (look : List Char → Sight) (start : List Char) (below : List (List Char))
    (directory : List Char) (above : List (List Char)) : Prop where
  ascent : Ascent start (below ++ directory :: above)
  file : FileIn look directory
  none_below : ∀ other ∈ below, ¬ FileIn look other

section Search

variable {look other : List Char → Sight} {start path directory : List Char}
  {chain below above : List (List Char)} {fault : Fault}

theorem Nearest.find_eq (h : Nearest look start below directory above) :
    find look start = .ok (join directory fileName) :=
  find_eq_ok h.ascent.eq_ancestors.symm h.none_below h.file

/-- Either some directory of the ascent is the first with a file, or none has one. The induction is
on the ascent: what is nearest to a parent is nearest to its child, unless the child has a file. -/
theorem nearest_or_none (look : List Char → Sight) (h : Ascent start chain) :
    (∃ below directory above, Nearest look start below directory above) ∨
      ∀ directory ∈ chain, ¬ FileIn look directory := by
  induction h with
  | top hparent =>
    rename_i path
    by_cases hfile : FileIn look path
    · exact .inl ⟨[], path, [], .top hparent, hfile, by simp⟩
    · exact .inr (List.forall_mem_singleton.mpr hfile)
  | up hparent habove ih =>
    rename_i path parent above
    by_cases hfile : FileIn look path
    · exact .inl ⟨[], path, above, .up hparent habove, hfile, by simp⟩
    · rcases ih with ⟨below, directory, rest, hnearest⟩ | hnone
      · exact .inl ⟨path :: below, directory, rest, .up hparent hnearest.ascent, hnearest.file,
          List.forall_mem_cons.mpr ⟨hfile, hnearest.none_below⟩⟩
      · exact .inr (List.forall_mem_cons.mpr ⟨hfile, hnone⟩)

theorem find_eq_ok_iff : find look start = .ok path ↔
    ∃ below directory above, Nearest look start below directory above ∧
      path = join directory fileName := by
  constructor
  · intro h
    rcases nearest_or_none look (ascent_ancestors start) with
      ⟨below, directory, above, hnearest⟩ | hnone
    · rw [hnearest.find_eq, Except.ok.injEq] at h
      exact ⟨below, directory, above, hnearest, h.symm⟩
    · rw [find_eq_error hnone] at h
      cases h
  · rintro ⟨below, directory, above, hnearest, rfl⟩
    exact hnearest.find_eq

theorem find_eq_error_iff (hascent : Ascent start chain) : find look start = .error fault ↔
    fault = .configNotFound (String.ofList start) ∧
      ∀ directory ∈ chain, ¬ FileIn look directory := by
  constructor
  · intro h
    rcases nearest_or_none look hascent with
      ⟨below, directory, above, hnearest⟩ | hnone
    · rw [hnearest.find_eq] at h
      cases h
    · rw [hascent.eq_ancestors] at hnone
      rw [find_eq_error hnone, Except.error.injEq] at h
      exact ⟨h.symm, hascent.eq_ancestors ▸ hnone⟩
  · rintro ⟨rfl, hnone⟩
    rw [hascent.eq_ancestors] at hnone
    exact find_eq_error hnone

/-- From a directory below the file, or its own, the rest of the ascent leads to the same file. -/
theorem Nearest.find_eq_of_below (h : Nearest look start below directory above) :
    ∀ lower ∈ below ++ [directory], find look lower = .ok (join directory fileName) := by
  intro lower hlower
  rcases List.mem_append.mp hlower with hbelow | hdirectory
  · obtain ⟨front, back, rfl⟩ := List.append_of_mem hbelow
    have hchain : front ++ lower :: back ++ directory :: above =
        front ++ lower :: (back ++ directory :: above) := by simp
    have hlower : Nearest look lower (lower :: back) directory above :=
      ⟨h.ascent.behind hchain, h.file,
        fun other hother => h.none_below other (List.mem_append_right front hother)⟩
    exact hlower.find_eq
  · obtain rfl := List.mem_singleton.mp hdirectory
    have hlower : Nearest look lower [] lower above := ⟨h.ascent.behind rfl, h.file, by simp⟩
    exact hlower.find_eq

/-- The search looks at nothing but the files of the ascent. -/
theorem find_congr (hascent : Ascent start chain)
    (h : ∀ directory ∈ chain, FileIn other directory ↔ FileIn look directory) :
    find other start = find look start := by
  rcases nearest_or_none look hascent with ⟨below, directory, above, hnearest⟩ | hnone
  · obtain rfl := hascent.eq_ancestors.trans hnearest.ascent.eq_ancestors.symm
    have hother : Nearest other start below directory above :=
      ⟨hascent, (h directory (by simp)).mpr hnearest.file, fun lower hlower hfile =>
        hnearest.none_below lower hlower ((h lower (List.mem_append_left _ hlower)).mp hfile)⟩
    rw [hother.find_eq, hnearest.find_eq]
  · have hother : ∀ directory ∈ chain, ¬ FileIn other directory := fun directory hdirectory hfile =>
      hnone directory hdirectory ((h directory hdirectory).mp hfile)
    rw [(find_eq_error_iff hascent).mpr ⟨rfl, hnone⟩, (find_eq_error_iff hascent).mpr ⟨rfl, hother⟩]

end Search

/-! ## Added files -/

theorem nameable_fileName : Nameable fileName := by
  constructor <;> decide

section Added

variable {tree more : Tree} {current start directory : List Char}
  {chain below above place : List (List Char)}

theorem fileIn_added_iff (h : tree.Added more place fileName)
    (habsolute : directory.head? = some '/') : FileIn (more.look current) directory ↔
      tree.LeadsTo directory place ∨ FileIn (tree.look current) directory :=
  h.look_isFile_iff habsolute nameable_fileName

/-- Two paths of an ascent do not lead to one place. -/
theorem not_leadsTo_of_leadsTo {upper lower : List Char} (hstart : Rooted start)
    (hascent : Ascent start (below ++ above)) (hlower : lower ∈ below) (hupper : upper ∈ above)
    (hleads : tree.LeadsTo upper place) : ¬ tree.LeadsTo lower place := by
  intro hlowerLeads
  have hrooted := hascent.rooted hstart
  have hdistinct := (List.pairwise_append.mp (hascent.pairwise_placeOf hstart)).2.2
  refine hdistinct lower hlower upper hupper ?_
  rw [← hlowerLeads.eq_placeOf (hrooted lower (List.mem_append_left above hlower)),
    ← hleads.eq_placeOf (hrooted upper (List.mem_append_right below hupper))]

theorem find_added_of_off (h : tree.Added more place fileName) (hstart : Rooted start)
    (hascent : Ascent start chain) (hoff : ∀ directory ∈ chain, ¬ tree.LeadsTo directory place) :
    find (more.look current) start = find (tree.look current) start := by
  refine find_congr hascent fun directory hdirectory => ?_
  rw [fileIn_added_iff h (hascent.rooted hstart directory hdirectory).absolute]
  exact or_iff_right (hoff directory hdirectory)

/-- With a file added further up, there is still none on the way to there. -/
theorem none_below_added {upper : List Char} (h : tree.Added more place fileName)
    (hstart : Rooted start) (hascent : Ascent start (below ++ above)) (hupper : upper ∈ above)
    (hleads : tree.LeadsTo upper place)
    (hnone : ∀ lower ∈ below, ¬ FileIn (tree.look current) lower) :
    ∀ lower ∈ below, ¬ FileIn (more.look current) lower := by
  intro lower hlower
  have hrooted := hascent.rooted hstart lower (List.mem_append_left above hlower)
  rw [fileIn_added_iff h hrooted.absolute, not_or]
  exact ⟨not_leadsTo_of_leadsTo hstart hascent hlower hupper hleads, hnone lower hlower⟩

theorem Nearest.added_above {upper : List Char} (h : tree.Added more place fileName)
    (hstart : Rooted start) (hnearest : Nearest (tree.look current) start below directory above)
    (hupper : upper ∈ above) (hleads : tree.LeadsTo upper place) :
    Nearest (more.look current) start below directory above where
  ascent := hnearest.ascent
  file :=
    have hrooted := hnearest.ascent.rooted hstart directory (by simp)
    (fileIn_added_iff h hrooted.absolute).mpr (.inr hnearest.file)
  none_below := none_below_added h hstart hnearest.ascent (List.mem_cons_of_mem directory hupper)
    hleads hnearest.none_below

theorem nearest_added (h : tree.Added more place fileName) (hstart : Rooted start)
    (hascent : Ascent start (below ++ directory :: above)) (hleads : tree.LeadsTo directory place)
    (hnone : ∀ lower ∈ below, ¬ FileIn (tree.look current) lower) :
    Nearest (more.look current) start below directory above where
  ascent := hascent
  file :=
    have hrooted := hascent.rooted hstart directory (by simp)
    (fileIn_added_iff h hrooted.absolute).mpr (.inl hleads)
  none_below := none_below_added h hstart hascent List.mem_cons_self hleads hnone

end Added

/-- A search goes up one finite ascent, which is all that there is from the start. It gives the file
of the first directory there that has a regular one, or else the start as the path not found, and
the same file from every directory on the way to that one. If the start is a path from the root that
never leads back up, a file added to a directory off the ascent, or above the file found, changes
nothing, and one added with no file below it is the one found. -/
theorem find_nearest (tree : Tree) (current start : List Char) :
    ∃ chain, (∀ other, Ascent start other ↔ other = chain) ∧ chain.length ≤ start.length + 1 ∧
      (∀ path, find (tree.look current) start = .ok path ↔
        ∃ below directory above, Nearest (tree.look current) start below directory above ∧
          path = join directory fileName) ∧
      (∀ fault, find (tree.look current) start = .error fault ↔
        fault = .configNotFound (String.ofList start) ∧
          ∀ directory ∈ chain, ¬ FileIn (tree.look current) directory) ∧
      (∀ below directory above, Nearest (tree.look current) start below directory above →
        ∀ lower ∈ below ++ [directory],
          find (tree.look current) lower = .ok (join directory fileName)) ∧
      (Rooted start → ∀ more place, tree.Added more place fileName →
        ((∀ directory ∈ chain, ¬ tree.LeadsTo directory place) →
          find (more.look current) start = find (tree.look current) start) ∧
        (∀ below directory above, Nearest (tree.look current) start below directory above →
          ∀ upper ∈ above, tree.LeadsTo upper place →
            find (more.look current) start = find (tree.look current) start) ∧
        ∀ below directory above, chain = below ++ directory :: above →
          tree.LeadsTo directory place →
          (∀ lower ∈ below, ¬ FileIn (tree.look current) lower) →
          find (more.look current) start = .ok (join directory fileName)) := by
  have hascent := ascent_ancestors start
  refine ⟨ancestors start, fun other => ascent_iff, hascent.length_le, fun path => find_eq_ok_iff,
    fun fault => find_eq_error_iff hascent, ?_, fun hstart more place hadded => ⟨?_, ?_, ?_⟩⟩
  · intro below directory above hnearest
    exact hnearest.find_eq_of_below
  · intro hoff
    exact find_added_of_off hadded hstart hascent hoff
  · intro below directory above hnearest upper hupper hleads
    rw [hnearest.find_eq, (hnearest.added_above hadded hstart hupper hleads).find_eq]
  · intro below directory above hchain hleads hnone
    exact (nearest_added hadded hstart (hchain ▸ hascent) hleads hnone).find_eq

/-- A file two directories up, past a directory of the name, then a file added off the ascent, one
added above, and one added below. -/
theorem find_nearest_posts :
    ∃ tree off upper nearer : Tree,
      find (tree.look []) "/site/content/posts".toList = .ok "/site/macrotag.toml".toList ∧
      find (tree.look []) "/site/content".toList = .ok "/site/macrotag.toml".toList ∧
      find (tree.look []) "/other".toList = .error (.configNotFound "/other") ∧
      tree.Added off ["other".toList] fileName ∧
      find (off.look []) "/site/content/posts".toList = .ok "/site/macrotag.toml".toList ∧
      tree.Added upper [] fileName ∧
      find (upper.look []) "/site/content/posts".toList = .ok "/site/macrotag.toml".toList ∧
      tree.Added nearer ["site".toList, "content".toList, "posts".toList] fileName ∧
      find (nearer.look []) "/site/content/posts".toList =
        .ok "/site/content/posts/macrotag.toml".toList := by
  let site : List Char := "site".toList
  let content : List Char := "content".toList
  let posts : List Char := "posts".toList
  let tree : Tree := ⟨[([site, fileName], "".toUTF8)],
    [[site, content, posts], [site, content, fileName], ["other".toList]]⟩
  have hadd (place : List (List Char)) (hinside : tree.entry? place = some .directory)
      (hfree : tree.entry? (place ++ [fileName]) = none) :
      tree.Added ⟨(place ++ [fileName], "".toUTF8) :: tree.files, tree.directories⟩ place
        fileName :=
    .of_cons _ hinside (by simp [hfree])
  have hoff := hadd ["other".toList] (by rfl) (by rfl)
  have hupper := hadd [] (by rfl) (by rfl)
  have hnearer := hadd [site, content, posts] (by rfl) (by rfl)
  have hascent : Ascent "/site/content/posts".toList
      ["/site/content/posts".toList, "/site/content".toList, "/site".toList, "/".toList] :=
    .up (by rfl) (.up (by rfl) (.up (by rfl) (.top (by rfl))))
  have hother : Ascent "/other".toList ["/other".toList, "/".toList] :=
    .up (by rfl) (.top (by rfl))
  have hnearest : Nearest (tree.look []) "/site/content/posts".toList
      ["/site/content/posts".toList, "/site/content".toList] "/site".toList ["/".toList] := by
    refine ⟨hascent, by rw [FileIn]; rfl, ?_⟩
    simp only [List.forall_mem_cons, FileIn]
    decide
  have hrooted : Rooted "/site/content/posts".toList := ⟨rfl, by decide⟩
  obtain ⟨chain, hchain, -, hok, -, hbelow, hadded⟩ :=
    find_nearest tree [] "/site/content/posts".toList
  obtain ⟨chain', hchain', -, -, herror, -, -⟩ := find_nearest tree [] "/other".toList
  obtain rfl := (hchain _).mp hascent
  obtain rfl := (hchain' _).mp hother
  have hfound := (hok _).mpr ⟨_, _, _, hnearest, rfl⟩
  refine ⟨tree, _, _, _, hfound, hbelow _ _ _ hnearest _ (by simp), (herror _).mpr ⟨rfl, ?_⟩,
    hoff, ((hadded hrooted _ _ hoff).1 ?_).trans hfound,
    hupper, ((hadded hrooted _ _ hupper).2.1 _ _ _ hnearest _ List.mem_cons_self ?_).trans hfound,
    hnearer, (hadded hrooted _ _ hnearer).2.2 [] _ _ rfl ⟨by decide, by rfl⟩ (by simp)⟩
  · simp only [List.forall_mem_cons, FileIn]
    decide
  · intro directory hdirectory hleads
    have hplaces : ∀ directory ∈ ["/site/content/posts".toList, "/site/content".toList,
        "/site".toList, "/".toList], ["other".toList] ≠ placeOf directory := by decide
    exact hplaces directory hdirectory
      (hleads.eq_placeOf (hascent.rooted hrooted directory hdirectory))
  · exact ⟨by decide, by rfl⟩

end Config
end InlineTag
