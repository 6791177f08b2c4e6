import InlineTag.Text.Blank

/-!
# InlineTag.Outline

The outline of a text: what stands before its first candidate, and each candidate with the text up
to the next. A candidate is a word at the start of the text or after white space, without white
space or a colon in it, that a colon follows directly. Which candidates count as markers is decided
afterwards: `absorb` folds every other one back, as plain text, into what stands before it.
-/

namespace InlineTag

open Text

def isWordChar (c : Char) : Bool :=
  !isBlank c && c != ':'

/-- The candidate at the very front of a text, with what follows its colon. -/
def candidate? (text : List Char) : Option (List Char × List Char) :=
  match text.takeWhile isWordChar, text.dropWhile isWordChar with
  | c :: word, ':' :: rest => some (c :: word, rest)
  | _, _ => none

theorem candidate?_shorter {text word rest : List Char}
    (h : candidate? text = some (word, rest)) : rest.length < text.length := by
  unfold candidate? at h
  split at h
  · rename_i hdrop
    cases h
    have := (List.dropWhile_sublist (l := text) isWordChar).length_le
    rw [hdrop] at this
    exact this
  · cases h

theorem eq_of_candidate? {text word rest : List Char}
    (h : candidate? text = some (word, rest)) : text = word ++ ':' :: rest := by
  unfold candidate? at h
  split at h
  · rename_i htake hdrop
    cases h
    rw [← htake, ← hdrop, List.takeWhile_append_dropWhile]
  · cases h

/-- A candidate word and the text behind its colon, up to the next candidate. -/
structure Fragment where
  word : List Char
  text : List Char
  deriving DecidableEq, Repr

/-- The text that a fragment is read from. -/
def Fragment.source (fragment : Fragment) : List Char :=
  fragment.word ++ ':' :: fragment.text

structure Outline where
  lead : List Char
  fragments : List Fragment
  deriving DecidableEq, Repr

namespace Outline

/-- Puts a character in front. -/
def push (c : Char) (outline : Outline) : Outline :=
  { outline with lead := c :: outline.lead }

/-- Puts a candidate in front: it takes the lead as its text. -/
def mark (word : List Char) (outline : Outline) : Outline :=
  ⟨[], ⟨word, outline.lead⟩ :: outline.fragments⟩

/-- The outline of a text, of which `atStart` says whether a word may begin here. -/
def scan (atStart : Bool) (text : List Char) : Outline :=
  match text with
  | [] => ⟨[], []⟩
  | c :: rest =>
    if atStart then
      match _h : candidate? (c :: rest) with
      | some (word, after) => (scan false after).mark word
      | none => (scan (isBlank c) rest).push c
    else (scan (isBlank c) rest).push c
termination_by text.length
decreasing_by
  · exact candidate?_shorter _h
  · exact Nat.lt_succ_self _
  · exact Nat.lt_succ_self _

def ofText (text : List Char) : Outline :=
  scan true text

/-- The text of the first fragments up to a declared one, and the rest with every undeclared
fragment taken into the text before it. -/
def absorbFragments (declared : List Char → Bool) :
    List Fragment → List Char × List Fragment
  | [] => ([], [])
  | fragment :: rest =>
    let (text, kept) := absorbFragments declared rest
    if declared fragment.word then ([], ⟨fragment.word, fragment.text ++ text⟩ :: kept)
    else (fragment.source ++ text, kept)

/-- The outline in which only the declared words are left as markers. -/
def absorb (declared : List Char → Bool) (outline : Outline) : Outline :=
  let (text, kept) := absorbFragments declared outline.fragments
  ⟨outline.lead ++ text, kept⟩

def words (outline : Outline) : List (List Char) :=
  outline.fragments.map (·.word)

/-! ## The text of an outline -/

/-- The text that an outline is the outline of. -/
def flatten (outline : Outline) : List Char :=
  outline.lead ++ outline.fragments.flatMap Fragment.source

theorem flatten_push (c : Char) (outline : Outline) :
    (outline.push c).flatten = c :: outline.flatten := rfl

theorem flatten_mark (word : List Char) (outline : Outline) :
    (outline.mark word).flatten = word ++ ':' :: outline.flatten := by
  simp [mark, flatten, Fragment.source]

end Outline
end InlineTag
