import InlineTag.Parsing

/-!
# InlineTag.Proofs.Trimming

What trimming and cleaning leave of a text, said without the functions that do it.

* `trimEnd_eq_iff`: a text loses the longest blank tail, and nothing else.
* `cleaned_iff`: `clean` gives the only text that `Cleaned` allows.
-/

namespace InlineTag
namespace Text

def Blank (text : List Char) : Prop :=
  ∀ c ∈ text, isBlank c = true

/-- The last character, if there is one, is not white space. -/
def EndsSolid (text : List Char) : Prop :=
  ∀ c, text.getLast? = some c → isBlank c = false

theorem allBlank_iff {text : List Char} : allBlank text = true ↔ Blank text :=
  List.all_eq_true

theorem Blank.colon_not_mem {text : List Char} (h : Blank text) : ':' ∉ text := by
  intro hmem
  have hcolon := h ':' hmem
  rw [isBlank_colon] at hcolon
  cases hcolon

theorem endsSolid_nil : EndsSolid [] := by
  intro c h
  cases h

theorem endsSolid_cons {c : Char} {rest : List Char} (h : rest ≠ []) :
    EndsSolid (c :: rest) ↔ EndsSolid rest := by
  rw [EndsSolid, EndsSolid, List.getLast?_cons_of_ne_nil h]

theorem endsSolid_append {front back : List Char} (h : back ≠ []) :
    EndsSolid (front ++ back) ↔ EndsSolid back := by
  rw [EndsSolid, EndsSolid, List.getLast?_append, List.getLast?_eq_some_getLast h, Option.some_or]

theorem endsSolid_trimEnd (text : List Char) : EndsSolid (trimEnd text) := by
  induction text with
  | nil => exact endsSolid_nil
  | cons c rest ih =>
    rw [trimEnd_cons]
    split
    · split
      · exact endsSolid_nil
      · rename_i hc
        intro d hd
        cases hd
        exact Bool.eq_false_iff.mpr hc
    · rename_i hrest
      exact (endsSolid_cons hrest).mpr ih

theorem trimEnd_of_blank {text : List Char} (h : Blank text) : trimEnd text = [] := by
  induction text with
  | nil => rfl
  | cons c rest ih =>
    rw [trimEnd_cons, if_pos (ih fun d hd => h d (List.mem_cons_of_mem _ hd)),
      if_pos (h c List.mem_cons_self)]

theorem trimEnd_of_endsSolid {text : List Char} (h : EndsSolid text) : trimEnd text = text := by
  induction text with
  | nil => rfl
  | cons c rest ih =>
    rw [trimEnd_cons]
    by_cases hrest : rest = []
    · subst hrest
      have hc : isBlank c = false := h c rfl
      simp [trimEnd_nil, hc]
    · rw [ih ((endsSolid_cons hrest).mp h), if_neg hrest]

/-- A blank tail makes no difference. -/
theorem trimEnd_append {text tail : List Char} (h : Blank tail) :
    trimEnd (text ++ tail) = trimEnd text := by
  induction text with
  | nil => exact trimEnd_of_blank h
  | cons c rest ih => rw [List.cons_append, trimEnd_cons, ih, trimEnd_cons]

/-- What is left is the front before the longest blank tail. -/
theorem trimEnd_eq_iff {text kept : List Char} :
    trimEnd text = kept ↔ EndsSolid kept ∧ ∃ tail, text = kept ++ tail ∧ Blank tail := by
  constructor
  · rintro rfl
    exact ⟨endsSolid_trimEnd text, trimEnd_append_blank text⟩
  · rintro ⟨hkept, tail, rfl, htail⟩
    rw [trimEnd_append htail, trimEnd_of_endsSolid hkept]

/-! ## Trimming on both sides -/

theorem trim_trim (text : List Char) : trim (trim text) = trim text := by
  have hfront : trimStart (trim text) = trim text := by
    obtain ⟨tail, htext, -⟩ := trimEnd_append_blank (trimStart text)
    cases hkept : trim text with
    | nil => rfl
    | cons c rest =>
      have hhead : (trimStart text).head? = some c := by
        rw [htext, show trimEnd (trimStart text) = c :: rest from hkept]
        rfl
      have hc : isBlank c = false := by
        have := List.head?_dropWhile_not isBlank text
        rw [show text.dropWhile isBlank = trimStart text from rfl, hhead] at this
        simpa using this
      rw [trimStart, List.dropWhile_cons_of_neg (by simp [hc])]
  rw [trim, hfront]
  exact trimEnd_of_endsSolid (endsSolid_trimEnd _)

theorem trim_eq_nil_iff {text : List Char} : trim text = [] ↔ Blank text := by
  constructor
  · intro h
    obtain ⟨tail, htext, htail⟩ := trimEnd_append_blank (trimStart text)
    rw [show trimEnd (trimStart text) = [] from h, List.nil_append] at htext
    intro c hc
    rw [← List.takeWhile_append_dropWhile (p := isBlank) (l := text)] at hc
    rcases List.mem_append.mp hc with hc | hc
    · exact List.all_eq_true.mp List.all_takeWhile c hc
    · exact htail c (htext ▸ hc)
  · intro h
    rw [trim, trimStart, ← List.append_nil text, List.dropWhile_append_of_pos h]
    rfl

/-- A text without white space stays as it is. -/
theorem trim_of_solid {text : List Char} (h : ∀ c ∈ text, isBlank c = false) :
    trim text = text := by
  have hstart : trimStart text = text := by
    cases text with
    | nil => rfl
    | cons c rest =>
      rw [trimStart, List.dropWhile_cons_of_neg]
      simp [h c List.mem_cons_self]
  rw [trim, hstart]
  exact trimEnd_of_endsSolid fun c hc => h c (List.mem_of_getLast? hc)

/-- White space before a text makes no difference, and none behind it does. -/
theorem trim_surrounded {front back : List Char} (hfront : Blank front) (text : List Char)
    (hback : Blank back) : trim (front ++ text ++ back) = trim text := by
  rw [trim, trim, trimStart, trimStart, List.append_assoc, List.dropWhile_append_of_pos hfront,
    List.dropWhile_append]
  split
  · rename_i hempty
    rw [List.isEmpty_iff.mp hempty, ← List.append_nil back, List.dropWhile_append_of_pos hback]
    rfl
  · exact trimEnd_append hback

theorem mem_of_mem_trim {c : Char} {text : List Char} (h : c ∈ trim text) : c ∈ text := by
  obtain ⟨tail, htext, -⟩ := trimEnd_append_blank (trimStart text)
  have hstart : c ∈ trimStart text := by
    rw [htext]
    exact List.mem_append_left _ h
  exact (List.dropWhile_sublist isBlank).mem hstart

end Text

open Text

/-! ## Cleaning -/

/-- `kept` is what goes into a tag of a text: the text without a space at its front, if it has
one there, and without the white space at its end. -/
def Cleaned (text kept : List Char) : Prop :=
  EndsSolid kept ∧ ∃ tail, Blank tail ∧
    (text = ' ' :: (kept ++ tail) ∨ text.head? ≠ some ' ' ∧ text = kept ++ tail)

theorem clean_space (rest : List Char) : clean (' ' :: rest) = trimEnd rest := rfl

theorem clean_of_head? {text : List Char} (h : text.head? ≠ some ' ') :
    clean text = trimEnd text := by
  unfold clean
  split
  · exact absurd rfl h
  · rfl

theorem clean_of_blank {text : List Char} (h : Blank text) : clean text = [] := by
  unfold clean
  split
  · exact trimEnd_of_blank fun c hc => h c (List.mem_cons_of_mem _ hc)
  · exact trimEnd_of_blank h

/-- A blank tail makes no difference. -/
theorem clean_append {text tail : List Char} (h : Blank tail) :
    clean (text ++ tail) = clean text := by
  cases text with
  | nil => exact clean_of_blank h
  | cons c rest =>
    by_cases hc : c = ' '
    · subst hc
      exact trimEnd_append h
    · have hhead : ∀ more, ((c :: rest) ++ more).head? ≠ some ' ' := by simp [hc]
      rw [clean_of_head? (hhead tail), clean_of_head? (by simpa using hhead []), trimEnd_append h]

theorem cleaned_iff {text kept : List Char} : Cleaned text kept ↔ kept = clean text := by
  constructor
  · rintro ⟨hkept, tail, htail, rfl | ⟨hhead, rfl⟩⟩
    · rw [clean_space, trimEnd_append htail, trimEnd_of_endsSolid hkept]
    · rw [clean_of_head? hhead, trimEnd_append htail, trimEnd_of_endsSolid hkept]
  · rintro rfl
    by_cases hhead : text.head? = some ' '
    · obtain ⟨rest, rfl⟩ := List.head?_eq_some_iff.mp hhead
      obtain ⟨hsolid, tail, htext, htail⟩ := trimEnd_eq_iff.mp (clean_space rest).symm
      exact ⟨hsolid, tail, htail, .inl (by rw [← htext])⟩
    · obtain ⟨hsolid, tail, htext, htail⟩ := trimEnd_eq_iff.mp (clean_of_head? hhead).symm
      exact ⟨hsolid, tail, htail, .inr ⟨hhead, htext⟩⟩

theorem endsSolid_clean (text : List Char) : EndsSolid (clean text) :=
  (cleaned_iff.mpr rfl).1

end InlineTag
