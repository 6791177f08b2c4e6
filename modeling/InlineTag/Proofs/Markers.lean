import InlineTag.Outline
import InlineTag.Text.Cut

/-!
# InlineTag.Proofs.Markers

The markers of a text as a set of positions, said without a scan: position `i` holds a marker when
a word may begin there, and a declared word with a colon behind it does.

* `MarkerAt`: the markers of a text. `atStart` says whether a word may begin at position 0.
* `NextMarker`: where the stretch of text from a position on ends.
* `markerAt_append_iff`: the markers behind a front are those of the rest, shifted.
-/

namespace InlineTag

open Text

/-- A word that can be a marker: not empty, and without white space or a colon in it. -/
structure IsWord (word : List Char) : Prop where
  ne_nil : word ≠ []
  chars : ∀ c ∈ word, isWordChar c = true

/-- A word may begin at the front, if `atStart` says so, and directly behind white space. -/
def WordStart (atStart : Bool) (text : List Char) : Nat → Prop
  | 0 => atStart = true
  | i + 1 => ∃ c, text[i]? = some c ∧ isBlank c = true

/-- A declared word begins at position `i` of the text, with a colon directly behind it. -/
structure MarkerAt (declared : List Char → Bool) (atStart : Bool) (text : List Char) (i : Nat)
    (word : List Char) : Prop where
  isWord : IsWord word
  declared : declared word = true
  starts : WordStart atStart text i
  stands : ∃ after, text.drop i = word ++ ':' :: after

/-- A word that stands as a marker, and where it begins. -/
structure Marker where
  start : Nat
  word : List Char
  deriving DecidableEq, Repr

/-- The first marker at or behind position `start` is at `stop`; without one there, the text ends
at `stop`. -/
structure NextMarker (declared : List Char → Bool) (text : List Char) (start stop : Nat) :
    Prop where
  le : start ≤ stop
  first : ∀ i word, MarkerAt declared true text i word → start ≤ i → stop ≤ i
  reached : stop = text.length ∨ ∃ word, MarkerAt declared true text stop word

/-! ## Words -/

theorem isWordChar_iff {c : Char} : isWordChar c = true ↔ isBlank c = false ∧ c ≠ ':' := by
  simp [isWordChar]

theorem IsWord.blank_not_mem {word : List Char} (h : IsWord word) {c : Char}
    (hc : isBlank c = true) : c ∉ word := by
  intro hmem
  have := (isWordChar_iff.mp (h.chars c hmem)).1
  rw [hc] at this
  cases this

theorem IsWord.colon_not_mem {word : List Char} (h : IsWord word) : ':' ∉ word := by
  intro hmem
  exact (isWordChar_iff.mp (h.chars ':' hmem)).2 rfl

/-- The candidate at the front of a text is the word up to the first colon, if it is one. -/
theorem candidate?_eq_some_iff {text word after : List Char} :
    candidate? text = some (word, after) ↔ IsWord word ∧ text = word ++ ':' :: after := by
  constructor
  · intro h
    refine ⟨?_, eq_of_candidate? h⟩
    unfold candidate? at h
    split at h
    · rename_i c rest htake hdrop
      cases h
      refine ⟨List.cons_ne_nil _ _, ?_⟩
      have hall := List.all_takeWhile (p := isWordChar) (l := text)
      rw [htake] at hall
      exact List.all_eq_true.mp hall
    · cases h
  · rintro ⟨hword, rfl⟩
    have hcolon : isWordChar ':' = false := by decide
    obtain ⟨htake, hdrop⟩ := takeWhile_append_mark hword.chars hcolon after
    unfold candidate?
    rw [htake, hdrop]
    cases hcons : word with
    | nil => exact absurd hcons hword.ne_nil
    | cons c rest => rfl

/-- Two words with colons behind them at one place are the same. -/
theorem IsWord.unique {word other after rest : List Char} (hword : IsWord word)
    (hother : IsWord other) (h : word ++ ':' :: after = other ++ ':' :: rest) :
    word = other ∧ after = rest := by
  have hcand : candidate? (word ++ ':' :: after) = some (word, after) :=
    candidate?_eq_some_iff.mpr ⟨hword, rfl⟩
  rw [h, candidate?_eq_some_iff.mpr ⟨hother, rfl⟩] at hcand
  cases hcand
  exact ⟨rfl, rfl⟩

/-! ## Positions -/

section Positions

variable {declared : List Char → Bool} {atStart : Bool} {text word : List Char} {i : Nat}

theorem not_markerAt_nil : ¬ MarkerAt declared atStart [] i word := by
  rintro ⟨-, -, -, after, h⟩
  simp at h

theorem markerAt_zero_iff :
    MarkerAt declared atStart text 0 word ↔
      atStart = true ∧ declared word = true ∧ ∃ after, candidate? text = some (word, after) := by
  constructor
  · rintro ⟨hword, hdeclared, hstart, after, h⟩
    exact ⟨hstart, hdeclared, after, candidate?_eq_some_iff.mpr ⟨hword, h⟩⟩
  · rintro ⟨hstart, hdeclared, after, h⟩
    obtain ⟨hword, htext⟩ := candidate?_eq_some_iff.mp h
    exact ⟨hword, hdeclared, hstart, after, htext⟩

theorem wordStart_succ_iff {c : Char} :
    WordStart atStart (c :: text) (i + 1) ↔ WordStart (isBlank c) text i := by
  cases i <;> simp [WordStart]

/-- Only white space at the front lets a word begin behind it. -/
theorem markerAt_succ_iff {c : Char} :
    MarkerAt declared atStart (c :: text) (i + 1) word ↔
      MarkerAt declared (isBlank c) text i word := by
  constructor
  · rintro ⟨hword, hdeclared, hstart, hstands⟩
    exact ⟨hword, hdeclared, wordStart_succ_iff.mp hstart, hstands⟩
  · rintro ⟨hword, hdeclared, hstart, hstands⟩
    exact ⟨hword, hdeclared, wordStart_succ_iff.mpr hstart, hstands⟩

/-- Whether a word may begin behind a text. -/
def startAfter (atStart : Bool) (front : List Char) : Bool :=
  front.foldl (fun _ c => isBlank c) atStart

theorem startAfter_concat (atStart : Bool) (front : List Char) (c : Char) :
    startAfter atStart (front ++ [c]) = isBlank c := by
  simp [startAfter]

theorem startAfter_append (atStart : Bool) (front back : List Char) :
    startAfter atStart (front ++ back) = startAfter (startAfter atStart front) back :=
  List.foldl_append

theorem markerAt_append_iff {front : List Char} :
    MarkerAt declared atStart (front ++ text) (front.length + i) word ↔
      MarkerAt declared (startAfter atStart front) text i word := by
  induction front generalizing atStart with
  | nil => simp [startAfter]
  | cons c front ih =>
    rw [List.cons_append, List.length_cons, Nat.add_right_comm, markerAt_succ_iff, ih]
    rfl

theorem MarkerAt.weaken (h : MarkerAt declared false text i word) :
    MarkerAt declared atStart text i word := by
  obtain ⟨hword, hdeclared, hstart, hstands⟩ := h
  refine ⟨hword, hdeclared, ?_, hstands⟩
  cases i with
  | zero => exact absurd hstart (by simp [WordStart])
  | succ i => exact hstart

theorem MarkerAt.strengthen (h : MarkerAt declared atStart text i word) :
    MarkerAt declared true text i word := by
  cases atStart with
  | true => exact h
  | false => exact h.weaken

theorem MarkerAt.bound (h : MarkerAt declared atStart text i word) :
    i + word.length < text.length := by
  obtain ⟨-, -, -, after, h⟩ := h
  have := congrArg List.length h
  simp at this
  omega

/-- A marker stays one when text is put behind. -/
theorem MarkerAt.append (h : MarkerAt declared atStart text i word) (more : List Char) :
    MarkerAt declared atStart (text ++ more) i word := by
  have hbound := h.bound
  obtain ⟨hword, hdeclared, hstart, after, h⟩ := h
  refine ⟨hword, hdeclared, ?_, after ++ more, ?_⟩
  · cases i with
    | zero => exact hstart
    | succ i =>
      obtain ⟨c, hc, hblank⟩ := hstart
      refine ⟨c, ?_, hblank⟩
      rw [List.getElem?_append_left (by omega), hc]
  · rw [List.drop_append_of_le_length (by omega), h]
    simp

/-- No marker reaches over white space. -/
theorem MarkerAt.of_append {front more : List Char} {c : Char} (hc : isBlank c = true)
    (h : MarkerAt declared atStart (front ++ c :: more) i word) (hi : i ≤ front.length) :
    MarkerAt declared atStart front i word := by
  obtain ⟨hword, hdeclared, hstart, after, h⟩ := h
  rw [List.drop_append_of_le_length hi] at h
  refine ⟨hword, hdeclared, ?_, ?_⟩
  · cases i with
    | zero => exact hstart
    | succ i =>
      obtain ⟨d, hd, hblank⟩ := hstart
      rw [List.getElem?_append_left (by omega)] at hd
      exact ⟨d, hd, hblank⟩
  · have hblank : c ∉ word ++ [':'] := by
      intro hmem
      rcases List.mem_append.mp hmem with hmem | hmem
      · exact hword.blank_not_mem hc hmem
      · rw [List.mem_singleton.mp hmem, isBlank_colon] at hc
        cases hc
    rw [List.append_cons word ':' after] at h
    obtain ⟨rest, hrest⟩ := append_of_mark_not_mem hblank h
    exact ⟨rest, by simp [hrest]⟩

theorem not_markerAt_blank_zero {c : Char} (hc : isBlank c = true) :
    ¬ MarkerAt declared atStart (c :: text) 0 word := by
  intro h
  have hfront : MarkerAt declared atStart ([] ++ c :: text) 0 word := h
  exact not_markerAt_nil (hfront.of_append hc (Nat.zero_le 0))

/-- No word begins within a word, nor directly behind its colon. -/
theorem IsWord.no_start {after : List Char} (hword : IsWord word)
    (hi : i < word.length + 1) (h : WordStart atStart (word ++ ':' :: after) (i + 1)) : False := by
  obtain ⟨c, hc, hblank⟩ := h
  rcases Nat.lt_succ_iff_lt_or_eq.mp hi with hi | rfl
  · rw [List.getElem?_append_left hi] at hc
    exact hword.blank_not_mem hblank (List.mem_of_getElem? hc)
  · rw [List.getElem?_append_right (Nat.le_refl _), Nat.sub_self] at hc
    cases hc
    rw [isBlank_colon] at hblank
    cases hblank

/-- A word that is not declared, or may not begin where it stands, brings no marker. -/
theorem IsWord.not_markerAt {after other : List Char} (hword : IsWord word)
    (hplain : atStart = false ∨ declared word = false) (hi : i ≤ word.length) :
    ¬ MarkerAt declared atStart (word ++ ':' :: after) i other := by
  intro hmark
  cases i with
  | zero =>
    obtain ⟨hother, hdeclared, hstart, rest, hstands⟩ := hmark
    obtain ⟨rfl, -⟩ := hword.unique hother hstands
    rcases hplain with rfl | hplain
    · cases hstart
    · rw [hdeclared] at hplain
      cases hplain
  | succ i => exact hword.no_start (Nat.lt_succ_of_lt hi) hmark.starts

/-- The markers behind a word and its colon are those of the rest, where none begins directly. -/
theorem markerAt_behind_iff {after other : List Char} :
    MarkerAt declared atStart (word ++ ':' :: after) (word.length + 1 + i) other ↔
      MarkerAt declared false after i other := by
  have h : MarkerAt declared atStart ((word ++ [':']) ++ after) ((word ++ [':']).length + i) other ↔
      MarkerAt declared (startAfter atStart (word ++ [':'])) after i other := markerAt_append_iff
  rw [startAfter_concat, isBlank_colon, ← List.append_cons, List.length_append] at h
  exact h

end Positions

/-- Where a stretch ends is fixed by where it begins. -/
theorem NextMarker.unique {declared : List Char → Bool} {text : List Char} {start stop stop' : Nat}
    (h : NextMarker declared text start stop) (h' : NextMarker declared text start stop') :
    stop = stop' := by
  have hle : ∀ {a b : Nat}, NextMarker declared text start a → NextMarker declared text start b →
      a ≤ b := by
    intro a b ha hb
    rcases hb.reached with hend | ⟨word, hmark⟩
    · rcases ha.reached with hend' | ⟨word, hmark⟩
      · omega
      · have := hmark.bound
        omega
    · exact ha.first b word hmark hb.le
  exact Nat.le_antisymm (hle h h') (hle h' h)

end InlineTag
