import Mathlib
import InlineTag.Files.Tree
import InlineTag.Proofs.Ascents

/-!
# InlineTag.Proofs.AddedFiles

What a path shows when a file is added to a tree.

* `Tree.LeadsTo`: a path from the root leads to the directory at a place.
* `Tree.look_join_isFile_iff`: a name below a path shows a file exactly when the path leads to a
  directory that has one.
* `Tree.Added`: a tree has one more file in one of its directories.
* `Tree.Added.look_isFile_iff`: only below paths to that directory is a file seen that was not seen
  before.
-/

namespace InlineTag
namespace Files

open Text

/-- A name that a file can have. -/
structure Nameable (name : List Char) : Prop where
  no_slash : '/' ∉ name
  no_nul : '\x00' ∉ name
  not_idle : isIdle name = false
  not_dots : name ≠ ['.', '.']

namespace Tree

/-- The path from the root leads to the directory at the place. -/
structure LeadsTo (tree : Tree) (path : List Char) (place : List (List Char)) : Prop where
  no_nul : '\x00' ∉ path
  follow_eq : tree.follow [] (pieces '/' path) = (.directory, place)

/-- The trees differ in nothing but a regular file, which `more` has in the directory at the place.
Another regular file may have stood there before. -/
structure Added (tree more : Tree) (place : List (List Char)) (name : List Char) : Prop where
  inside : tree.entry? place = some .directory
  free : tree.entry? (place ++ [name]) ≠ some .directory
  file : ∃ content, more.entry? (place ++ [name]) = some (.file content)
  elsewhere : ∀ other, other ≠ place ++ [name] → more.entry? other = tree.entry? other

section Walks

variable {tree more : Tree} {current path : List Char} {name part : List Char}
  {place settled parts : List (List Char)}

/-! ## Walks -/

/-- The place to which a part leads from a place. -/
def enter (place : List (List Char)) (part : List Char) : List (List Char) :=
  if isIdle part then place else if part = ['.', '.'] then place.dropLast else place ++ [part]

theorem enter_of_nameable (h : Nameable name) : enter place name = place ++ [name] := by
  simp [enter, h.not_idle, h.not_dots]

theorem follow_nil_eq_directory_iff :
    tree.follow place [] = (.directory, settled) ↔
      tree.entry? place = some .directory ∧ place = settled := by
  rw [follow]
  split <;> simp_all

theorem follow_nil_isFile_iff :
    (tree.follow place []).1.isFile ↔ ∃ content, tree.entry? place = some (.file content) := by
  rw [follow]
  split <;> simp_all [Sight.isFile]

theorem follow_cons_of_directory (h : tree.entry? place = some .directory) :
    tree.follow place (part :: parts) = tree.follow (enter place part) parts := by
  simp only [follow, h, enter]
  split
  · rfl
  · split <;> rfl

theorem follow_cons_of_not_directory (h : tree.entry? place ≠ some .directory)
    (part : List Char) (parts : List (List Char)) :
    (tree.follow place (part :: parts)).1 = .missing ∨
      (tree.follow place (part :: parts)).1 = .notDirectory := by
  rw [follow]
  split <;> simp_all

theorem follow_cons_eq_directory_iff :
    tree.follow place (part :: parts) = (.directory, settled) ↔
      tree.entry? place = some .directory ∧
        tree.follow (enter place part) parts = (.directory, settled) := by
  by_cases h : tree.entry? place = some .directory
  · rw [follow_cons_of_directory h, and_iff_right h]
  · refine iff_of_false (fun hfollow => ?_) fun hboth => h hboth.1
    have hstop := follow_cons_of_not_directory h part parts
    simp [hfollow] at hstop

theorem follow_cons_isFile_iff :
    (tree.follow place (part :: parts)).1.isFile ↔
      tree.entry? place = some .directory ∧ (tree.follow (enter place part) parts).1.isFile := by
  by_cases h : tree.entry? place = some .directory
  · rw [follow_cons_of_directory h, and_iff_right h]
  · refine iff_of_false (fun hfile => ?_) fun hboth => h hboth.1
    rcases follow_cons_of_not_directory h part parts with hstop | hstop
    · simp [hstop, Sight.isFile] at hfile
    · simp [hstop, Sight.isFile] at hfile

/-- A part between two slashes with nothing in it leads nowhere else. -/
theorem follow_concat_nil_eq_directory_iff :
    tree.follow place (parts ++ [[]]) = (.directory, settled) ↔
      tree.follow place parts = (.directory, settled) := by
  induction parts generalizing place with
  | nil =>
    rw [List.nil_append, follow_cons_eq_directory_iff, follow_nil_eq_directory_iff,
      follow_nil_eq_directory_iff]
    exact and_iff_right_of_imp And.left
  | cons part parts ih =>
    rw [List.cons_append, follow_cons_eq_directory_iff, follow_cons_eq_directory_iff, ih]

/-- A name at the end shows a file if the walk in front of it reaches a directory that has one. -/
theorem follow_concat_isFile_iff (hname : Nameable name) :
    (tree.follow place (parts ++ [name])).1.isFile ↔
      ∃ settled, tree.follow place parts = (.directory, settled) ∧
        ∃ content, tree.entry? (settled ++ [name]) = some (.file content) := by
  induction parts generalizing place with
  | nil =>
    rw [List.nil_append, follow_cons_isFile_iff, enter_of_nameable hname, follow_nil_isFile_iff]
    simp [follow_nil_eq_directory_iff, and_assoc]
  | cons part parts ih =>
    rw [List.cons_append, follow_cons_isFile_iff, ih]
    simp [follow_cons_eq_directory_iff, and_assoc]

/-- A walk that never goes back up ends at the place that its parts name. -/
theorem place_of_follow_eq_directory (hdots : ['.', '.'] ∉ parts)
    (h : tree.follow place parts = (.directory, settled)) :
    settled = place ++ parts.filter fun part => !isIdle part := by
  induction parts generalizing place with
  | nil =>
    obtain ⟨-, rfl⟩ := follow_nil_eq_directory_iff.mp h
    rw [List.filter_nil, List.append_nil]
  | cons part parts ih =>
    rw [List.mem_cons, not_or] at hdots
    rw [ih hdots.2 (follow_cons_eq_directory_iff.mp h).2, enter]
    by_cases hidle : isIdle part
    · simp [hidle]
    · simp [hidle, Ne.symm hdots.1]

/-- Trees with the same directories are walked alike as far as directories go. -/
theorem follow_eq_directory_congr
    (h : ∀ other, more.entry? other = some .directory ↔ tree.entry? other = some .directory) :
    more.follow place parts = (.directory, settled) ↔
      tree.follow place parts = (.directory, settled) := by
  induction parts generalizing place with
  | nil => rw [follow_nil_eq_directory_iff, follow_nil_eq_directory_iff, h]
  | cons part parts ih => rw [follow_cons_eq_directory_iff, follow_cons_eq_directory_iff, h, ih]

/-! ## Paths -/

theorem LeadsTo.eq_placeOf (h : tree.LeadsTo path place) (hpath : Rooted path) :
    place = placeOf path :=
  place_of_follow_eq_directory hpath.forward h.follow_eq

theorem ne_nil_of_absolute (h : path.head? = some '/') : path ≠ [] := by
  rintro rfl
  cases h

/-- A name is put behind a slash, which may stand at the end of the path already. -/
theorem exists_join_eq (hpath : path ≠ []) (hname : '/' ∉ name) :
    ∃ front, (path = front ∨ path = front ++ ['/']) ∧ join path name = front ++ '/' :: name := by
  fun_cases join path name with
  | case1 rest => simp at hname
  | case2 hslash hlast => exact absurd (List.getLast?_eq_none_iff.mp hlast) hpath
  | case3 hslash hlast =>
    obtain ⟨front, rfl⟩ := List.getLast?_eq_some_iff.mp hlast
    exact ⟨front, .inr rfl, by simp⟩
  | case4 => exact ⟨path, .inl rfl, rfl⟩

theorem head?_join (habsolute : path.head? = some '/') (hname : '/' ∉ name) :
    (join path name).head? = some '/' := by
  obtain ⟨front, rfl | rfl, hjoin⟩ := exists_join_eq (ne_nil_of_absolute habsolute) hname
  · rw [hjoin, List.head?_append, habsolute, Option.some_or]
  · rwa [hjoin, List.head?_append, List.head?_cons, ← List.head?_cons, ← List.head?_append]

theorem nul_mem_join_iff (hpath : path ≠ []) (hname : Nameable name) :
    '\x00' ∈ join path name ↔ '\x00' ∈ path := by
  obtain ⟨front, rfl | rfl, hjoin⟩ := exists_join_eq hpath hname.no_slash
  · simp [hjoin, hname.no_nul]
  · simp [hjoin, hname.no_nul]

theorem follow_pieces_join_isFile_iff (hpath : path ≠ []) (hname : Nameable name) :
    (tree.follow place (pieces '/' (join path name))).1.isFile ↔
      ∃ settled, tree.follow place (pieces '/' path) = (.directory, settled) ∧
        ∃ content, tree.entry? (settled ++ [name]) = some (.file content) := by
  obtain ⟨front, rfl | rfl, hjoin⟩ := exists_join_eq hpath hname.no_slash
  · rw [hjoin, pieces_append, pieces_of_not_mem hname.no_slash, follow_concat_isFile_iff hname]
  · rw [hjoin, pieces_append, pieces_of_not_mem hname.no_slash, follow_concat_isFile_iff hname,
      pieces_append]
    simp only [pieces, follow_concat_nil_eq_directory_iff]

theorem look_of_absolute (habsolute : path.head? = some '/') :
    tree.look current path = if '\x00' ∈ path then .unreadable badCharacter
      else (tree.follow [] (pieces '/' path)).1 := by
  obtain ⟨rest, rfl⟩ := head?_eq_slash_iff.mp habsolute
  simp [look, join]

/-- A name below a path shows a file exactly when the path leads to a directory that has one. -/
theorem look_join_isFile_iff (habsolute : path.head? = some '/') (hname : Nameable name) :
    (tree.look current (join path name)).isFile ↔
      ∃ place, tree.LeadsTo path place ∧
        ∃ content, tree.entry? (place ++ [name]) = some (.file content) := by
  have hpath := ne_nil_of_absolute habsolute
  rw [look_of_absolute (head?_join habsolute hname.no_slash)]
  simp only [nul_mem_join_iff hpath hname]
  split
  · rename_i hnul
    exact iff_of_false (by simp [Sight.isFile]) fun ⟨place, hleads, _⟩ => hleads.no_nul hnul
  · rename_i hnul
    rw [follow_pieces_join_isFile_iff hpath hname]
    constructor
    · rintro ⟨settled, hfollow, hfile⟩
      exact ⟨settled, ⟨hnul, hfollow⟩, hfile⟩
    · rintro ⟨place, hleads, hfile⟩
      exact ⟨place, hleads.follow_eq, hfile⟩

/-! ## Added files -/

/-- The place is the root or stands above a directory or a file, or is one of them. -/
def Above (tree : Tree) (place : List (List Char)) : Prop :=
  place = [] ∨ (∃ other ∈ tree.directories, place <+: other) ∨ ∃ file ∈ tree.files, place <+: file.1

theorem above_iff : (place = [] || tree.directories.any place.isPrefixOf ||
    tree.files.any fun file => place.isPrefixOf file.1) = true ↔ tree.Above place := by
  simp [Above, or_assoc]

theorem above_of_directory (h : tree.entry? place = some .directory) : tree.Above place := by
  unfold entry? at h
  split at h
  · cases h
  · split at h
    · rename_i habove
      exact above_iff.mp habove
    · cases h

theorem entry?_congr (hlookup : more.files.lookup place = tree.files.lookup place)
    (habove : more.Above place ↔ tree.Above place) : more.entry? place = tree.entry? place := by
  unfold entry?
  rw [hlookup, Bool.eq_iff_iff.mpr (above_iff.trans (habove.trans above_iff.symm))]

theorem Above.of_front {above : List (List Char)} (h : tree.Above place)
    (hfront : above <+: place) : tree.Above above := by
  rcases h with rfl | ⟨other, hother, hplace⟩ | ⟨file, hfile, hplace⟩
  · exact .inl (List.prefix_nil.mp hfront)
  · exact .inr (.inl ⟨other, hother, hfront.trans hplace⟩)
  · exact .inr (.inr ⟨file, hfile, hfront.trans hplace⟩)

theorem above_cons_iff {file : List (List Char) × ByteArray} :
    Tree.Above ⟨file :: tree.files, tree.directories⟩ place ↔
      place <+: file.1 ∨ tree.Above place := by
  simp only [Above, List.exists_mem_cons_iff, or_left_comm]

namespace Added

variable {other : List (List Char)}

theorem entry?_eq_directory_iff (h : tree.Added more place name) :
    more.entry? other = some .directory ↔ tree.entry? other = some .directory := by
  by_cases hother : other = place ++ [name]
  · obtain ⟨content, hfile⟩ := h.file
    rw [hother, hfile]
    exact iff_of_false (by simp) h.free
  · rw [h.elsewhere other hother]

theorem leadsTo_iff (h : tree.Added more place name) :
    more.LeadsTo path other ↔ tree.LeadsTo path other := by
  have hfollow : more.follow [] (pieces '/' path) = (.directory, other) ↔
      tree.follow [] (pieces '/' path) = (.directory, other) :=
    follow_eq_directory_congr fun other => h.entry?_eq_directory_iff
  exact ⟨fun hleads => ⟨hleads.no_nul, hfollow.mp hleads.follow_eq⟩,
    fun hleads => ⟨hleads.no_nul, hfollow.mpr hleads.follow_eq⟩⟩

/-- Only below paths to its directory is a file seen that was not seen before. -/
theorem look_isFile_iff (h : tree.Added more place name) (habsolute : path.head? = some '/')
    (hname : Nameable name) :
    (more.look current (join path name)).isFile ↔
      tree.LeadsTo path place ∨ (tree.look current (join path name)).isFile := by
  rw [look_join_isFile_iff habsolute hname, look_join_isFile_iff habsolute hname]
  simp only [h.leadsTo_iff]
  constructor
  · rintro ⟨other, hleads, hfile⟩
    by_cases hother : other = place
    · exact .inl (hother ▸ hleads)
    · rw [h.elsewhere _ (by simpa using hother)] at hfile
      exact .inr ⟨other, hleads, hfile⟩
  · rintro (hleads | ⟨other, hleads, hfile⟩)
    · exact ⟨place, hleads, h.file⟩
    · by_cases hother : other = place
      · exact ⟨place, hother ▸ hleads, h.file⟩
      · rw [← h.elsewhere _ (by simpa using hother)] at hfile
        exact ⟨other, hleads, hfile⟩

/-- A file can be put into any directory that has no directory of its name. -/
theorem of_cons (content : ByteArray) (hinside : tree.entry? place = some .directory)
    (hfree : tree.entry? (place ++ [name]) ≠ some .directory) :
    tree.Added ⟨(place ++ [name], content) :: tree.files, tree.directories⟩ place name := by
  refine ⟨hinside, hfree, ⟨content, ?_⟩, fun other hother => ?_⟩
  · unfold entry?
    rw [List.lookup_cons_self]
  have hlookup : ((place ++ [name], content) :: tree.files).lookup other =
      tree.files.lookup other := by
    rw [List.lookup_cons, beq_false_of_ne hother]
  have habove : other <+: place ++ [name] → tree.Above other := by
    intro hfront
    rcases List.prefix_concat_iff.mp hfront with heq | hfront
    · exact absurd heq hother
    · exact (above_of_directory hinside).of_front hfront
  exact entry?_congr hlookup (above_cons_iff.trans (or_iff_right_of_imp habove))

end Added

end Walks
end Tree
end Files
end InlineTag
