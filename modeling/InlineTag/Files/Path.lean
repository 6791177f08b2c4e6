import InlineTag.Text.Cut

/-!
# InlineTag.Files.Path

Paths as texts. The parent of a path is found in the text alone, whatever stands on the disk: the
last part is cut off, together with slashes and single points around it. A part of two points is a
part like any other here.
-/

namespace InlineTag
namespace Files

open Text

/-- A part that leads nowhere else: nothing between two slashes, or a single point. -/
def isIdle (part : List Char) : Bool :=
  part == [] || part == ['.']

/-- The parts without the idle ones at their end. -/
def dropIdle (parts : List (List Char)) : List (List Char) :=
  (parts.reverse.dropWhile isIdle).reverse

/-- What a path stands on, a leading slash or a leading point, and the rest of it. -/
def splitBase : List Char → List Char × List Char
  | '/' :: rest => (['/'], rest)
  | ['.'] => (['.'], [])
  | '.' :: '/' :: rest => (['.'], '/' :: rest)
  | path => ([], path)

/-- The path without its last part; none for the root and for the empty path. -/
def parent? (path : List Char) : Option (List Char) :=
  let (base, rest) := splitBase path
  match dropIdle (pieces '/' rest) with
  | [] => if base = ['.'] then some [] else none
  | part :: parts => some (base ++ joined '/' (dropIdle (part :: parts).dropLast))

theorem splitBase_append (path : List Char) :
    (splitBase path).1 ++ (splitBase path).2 = path := by
  fun_cases splitBase path <;> rfl

/-- Only parts at the end are dropped. -/
theorem dropIdle_append (parts : List (List Char)) :
    ∃ idle, parts = dropIdle parts ++ idle := by
  refine ⟨(parts.reverse.takeWhile isIdle).reverse, ?_⟩
  rw [dropIdle, ← List.reverse_append, List.takeWhile_append_dropWhile, List.reverse_reverse]

/-- What is left does not end in an idle part. -/
theorem getLast_dropIdle {parts : List (List Char)} (h : dropIdle parts ≠ []) :
    isIdle ((dropIdle parts).getLast h) = false := by
  have hrev : parts.reverse.dropWhile isIdle ≠ [] := by simpa [dropIdle] using h
  have hhead := List.head_dropWhile_not isIdle hrev
  simpa [dropIdle, List.getLast_reverse] using hhead

/-- A parent is shorter, so a path has only finitely many above it. -/
theorem parent?_shorter {path parent : List Char} (h : parent? path = some parent) :
    parent.length < path.length := by
  have hpath := splitBase_append path
  have hlen := congrArg List.length hpath
  rw [List.length_append] at hlen
  rw [parent?] at h
  dsimp only at h
  split at h
  · split at h
    · rename_i hbase
      cases h
      rw [hbase] at hlen
      simp only [List.length_nil, List.length_singleton] at hlen ⊢
      omega
    · cases h
  · rename_i part parts hparts
    cases h
    have hne : dropIdle (pieces '/' (splitBase path).2) ≠ [] := by rw [hparts]; simp
    have hlast := getLast_dropIdle hne
    have hfull : (part :: parts).getLast (by simp) ≠ [] := by
      intro hnil
      simp only [hparts] at hlast
      rw [hnil] at hlast
      exact absurd hlast (by decide)
    obtain ⟨idle, hidle⟩ := dropIdle_append (pieces '/' (splitBase path).2)
    obtain ⟨dropped, hdropped⟩ := dropIdle_append (part :: parts).dropLast
    have hshort := length_joined_append_le '/' (dropIdle (part :: parts).dropLast) dropped
    rw [← hdropped] at hshort
    have hlt := length_joined_lt '/' (part :: parts).dropLast hfull
    rw [List.dropLast_concat_getLast] at hlt
    have hlong := length_joined_append_le '/' (part :: parts) idle
    rw [← hparts, ← hidle, joined_pieces, hparts] at hlong
    rw [List.length_append]
    omega

/-- A path and its parents, from the path upwards. -/
def ancestors (path : List Char) : List (List Char) :=
  match _h : parent? path with
  | none => [path]
  | some parent => path :: ancestors parent
termination_by path.length
decreasing_by exact parent?_shorter _h

/-- A path below another. A path from the root stands for itself. -/
def join (path below : List Char) : List Char :=
  match below with
  | '/' :: _ => below
  | _ =>
    match path.getLast? with
    | none => below
    | some '/' => path ++ below
    | some _ => path ++ '/' :: below

end Files
end InlineTag
