/-!
# InlineTag.Text.Cut

Cutting a text at a character: at its first occurrence (`cutAt`), or at every one (`pieces`).
-/

namespace InlineTag
namespace Text

/-- The text before and after the first `mark`; none when there is no `mark`. -/
def cutAt (mark : Char) : List Char → Option (List Char × List Char)
  | [] => none
  | c :: rest =>
    if c = mark then some ([], rest)
    else
      match cutAt mark rest with
      | none => none
      | some (before, after) => some (c :: before, after)

/-- The texts between the occurrences of `mark`: one more than there are marks. -/
def pieces (mark : Char) : List Char → List (List Char)
  | [] => [[]]
  | c :: rest =>
    if c = mark then [] :: pieces mark rest
    else
      match pieces mark rest with
      | [] => [[c]]
      | first :: others => (c :: first) :: others

/-- The pieces with `mark` between each two of them. -/
def joined (mark : Char) : List (List Char) → List Char
  | [] => []
  | [piece] => piece
  | piece :: others => piece ++ mark :: joined mark others

/-- Whether `part` stands somewhere in the text. -/
def contains (part : List Char) : List Char → Bool
  | [] => part.isEmpty
  | c :: rest => part.isPrefixOf (c :: rest) || contains part rest

/-! ## Laws -/

/-- A cut loses only the mark, and cuts at the first one. -/
theorem cutAt_some {mark : Char} {text before after : List Char}
    (h : cutAt mark text = some (before, after)) :
    text = before ++ mark :: after ∧ mark ∉ before := by
  fun_induction cutAt mark text generalizing before after with
  | case1 => cases h
  | case2 rest => cases h; simp
  | case3 c rest hc hcut => cases h
  | case4 c rest hc b a hcut ih =>
    cases h
    obtain ⟨rfl, hb⟩ := ih hcut
    exact ⟨rfl, by simp [hb, Ne.symm hc]⟩

theorem cutAt_none {mark : Char} {text : List Char} :
    cutAt mark text = none ↔ mark ∉ text := by
  fun_induction cutAt mark text with
  | case1 => simp
  | case2 rest => simp
  | case3 c rest hc hcut ih => simpa [Ne.symm hc] using ih.mp hcut
  | case4 c rest hc b a hcut ih =>
    have hmem : mark ∈ rest := by rw [(cutAt_some hcut).1]; simp
    simp [hmem]

theorem cutAt_append {mark : Char} {before : List Char} (h : mark ∉ before) (after : List Char) :
    cutAt mark (before ++ mark :: after) = some (before, after) := by
  induction before with
  | nil => simp [cutAt]
  | cons c rest ih =>
    have hc : c ≠ mark := fun hc => h (hc ▸ List.mem_cons_self)
    rw [List.cons_append, cutAt, if_neg hc, ih fun hmem => h (List.mem_cons_of_mem _ hmem)]

/-- The characters with a property end where one without it stands. -/
theorem takeWhile_append_mark {p : Char → Bool} {mark : Char} {before : List Char}
    (hbefore : ∀ c ∈ before, p c = true) (hmark : p mark = false) (after : List Char) :
    (before ++ mark :: after).takeWhile p = before ∧
      (before ++ mark :: after).dropWhile p = mark :: after := by
  have hstop : ¬ p mark = true := Bool.not_eq_true _ ▸ hmark
  constructor
  · rw [List.takeWhile_append_of_pos hbefore, List.takeWhile_cons_of_neg hstop, List.append_nil]
  · rw [List.dropWhile_append_of_pos hbefore, List.dropWhile_cons_of_neg hstop]

/-- A part without the mark, at the front of a text, ends before the mark. -/
theorem append_of_mark_not_mem {mark : Char} {part front more after : List Char}
    (hmark : mark ∉ part) (h : front ++ mark :: more = part ++ after) :
    ∃ rest, front = part ++ rest := by
  rcases List.append_eq_append_iff.mp h with ⟨rest, hpart, htail⟩ | ⟨rest, hfront, -⟩
  · cases rest with
    | nil => exact ⟨[], by simp [hpart]⟩
    | cons c rest =>
      obtain ⟨rfl, -⟩ := List.cons.inj htail
      exact absurd (by rw [hpart]; simp) hmark
  · exact ⟨rest, hfront⟩

theorem pieces_ne_nil (mark : Char) (text : List Char) : pieces mark text ≠ [] := by
  fun_cases pieces mark text <;> simp

theorem pieces_of_not_mem {mark : Char} {text : List Char} (h : mark ∉ text) :
    pieces mark text = [text] := by
  induction text with
  | nil => rfl
  | cons c rest ih =>
    rw [List.mem_cons, not_or] at h
    rw [pieces, if_neg (Ne.symm h.1), ih h.2]

/-- A mark between two texts keeps their pieces apart. -/
theorem pieces_append (mark : Char) (front back : List Char) :
    pieces mark (front ++ mark :: back) = pieces mark front ++ pieces mark back := by
  induction front with
  | nil => simp [pieces]
  | cons c front ih =>
    by_cases hc : c = mark
    · simp [pieces, hc, ih]
    · cases hpieces : pieces mark front with
      | nil => exact absurd hpieces (pieces_ne_nil mark front)
      | cons first others => simp [pieces, hc, ih, hpieces]

theorem not_mem_of_mem_pieces {mark : Char} {text piece : List Char}
    (h : piece ∈ pieces mark text) : mark ∉ piece := by
  fun_induction pieces mark text generalizing piece with
  | case1 =>
    rw [List.mem_singleton.mp h]
    exact List.not_mem_nil
  | case2 rest ih =>
    rcases List.mem_cons.mp h with rfl | hrest
    · exact List.not_mem_nil
    · exact ih hrest
  | case3 c rest hc hpieces ih => exact absurd hpieces (pieces_ne_nil mark rest)
  | case4 c rest hc first others hpieces ih =>
    rw [hpieces] at ih
    rcases List.mem_cons.mp h with rfl | hrest
    · rw [List.mem_cons, not_or]
      exact ⟨Ne.symm hc, ih List.mem_cons_self⟩
    · exact ih (List.mem_cons_of_mem _ hrest)

/-- Texts without marks are the pieces of what they are joined to. -/
theorem pieces_joined {mark : Char} {parts : List (List Char)} (hne : parts ≠ [])
    (hmark : ∀ part ∈ parts, mark ∉ part) : pieces mark (joined mark parts) = parts := by
  induction parts with
  | nil => exact absurd rfl hne
  | cons part rest ih =>
    obtain ⟨hpart, hrest⟩ := List.forall_mem_cons.mp hmark
    cases rest with
    | nil => exact pieces_of_not_mem hpart
    | cons next rest =>
      rw [joined, pieces_append, pieces_of_not_mem hpart, ih (by simp) hrest]
      · rfl
      · simp

/-- Nothing is lost between the pieces but the marks. -/
theorem joined_pieces (mark : Char) (text : List Char) :
    joined mark (pieces mark text) = text := by
  fun_induction pieces mark text with
  | case1 => rfl
  | case2 rest ih =>
    cases hpieces : pieces mark rest with
    | nil => exact absurd hpieces (pieces_ne_nil mark rest)
    | cons first others =>
      rw [hpieces] at ih
      simp [joined, ih]
  | case3 c rest hc hpieces ih => exact absurd hpieces (pieces_ne_nil mark rest)
  | case4 c rest hc first others hpieces ih =>
    rw [hpieces] at ih
    cases others with
    | nil => simpa [joined] using ih
    | cons second others => simpa [joined] using ih

theorem length_joined_cons_le (mark : Char) (piece : List Char) (others : List (List Char)) :
    piece.length + (joined mark others).length ≤ (joined mark (piece :: others)).length := by
  cases others with
  | nil => simp [joined]
  | cons next rest => simp [joined]

/-- With pieces put behind it a text grows no shorter. -/
theorem length_joined_append_le (mark : Char) (front back : List (List Char)) :
    (joined mark front).length ≤ (joined mark (front ++ back)).length := by
  induction front with
  | nil => simp [joined]
  | cons piece front ih =>
    cases front with
    | nil =>
      have hlong := length_joined_cons_le mark piece back
      simp only [joined, List.cons_append, List.nil_append] at hlong ⊢
      omega
    | cons next rest =>
      simp only [joined, List.cons_append, List.length_append, List.length_cons] at ih ⊢
      omega

/-- With a piece put behind it a text grows longer, unless the piece is empty. -/
theorem length_joined_lt (mark : Char) (front : List (List Char)) {last : List Char}
    (h : last ≠ []) : (joined mark front).length < (joined mark (front ++ [last])).length := by
  induction front with
  | nil => simpa [joined, List.length_pos_iff] using h
  | cons piece front ih =>
    cases front with
    | nil => simp [joined]
    | cons next rest =>
      simp only [joined, List.cons_append, List.length_append, List.length_cons] at ih ⊢
      omega

end Text
end InlineTag
