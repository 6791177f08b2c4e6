import InlineTag.Proofs.Markers

/-!
# InlineTag.Proofs.Outlines

The outline of a text and the markers of the text are the same thing.

* `Outlined`: the outline of a text for a set of declared words, as a relation with one rule for
  each way a text can begin.
* `outlined_scan`: scanning for candidates and absorbing the undeclared ones gives that outline.
* `Outlined.markerAt_iff`: the fragments begin at the markers of the text, at all of them, in order.
* `Outline.markers`, `Outlined.mem_markers_iff`: the same as a list.
* `Outlined.nextMarker`: the text of a fragment reaches up to the next marker.
* `Outlined.append`, `Outlined.append_word`: a front without markers goes into the lead.
-/

namespace InlineTag

open Text

namespace Outline

/-- Puts a text in front of the lead. -/
def prepend (text : List Char) (outline : Outline) : Outline :=
  { outline with lead := text ++ outline.lead }

theorem absorb_mark {declared : List Char → Bool} {word : List Char} (h : declared word = true)
    (outline : Outline) :
    (outline.mark word).absorb declared = (outline.absorb declared).mark word := by
  simp [absorb, mark, absorbFragments, h]

theorem absorb_mark_undeclared {declared : List Char → Bool} {word : List Char}
    (h : declared word = false) (outline : Outline) :
    (outline.mark word).absorb declared =
      (outline.absorb declared).prepend (word ++ [':']) := by
  simp [absorb, mark, absorbFragments, prepend, Fragment.source, h]

/-- The position at which the fragment behind the given ones begins. -/
def offset (outline : Outline) (front : List Fragment) : Nat :=
  (flatten ⟨outline.lead, front⟩).length

theorem offset_push (outline : Outline) (c : Char) (front : List Fragment) :
    (outline.push c).offset front = outline.offset front + 1 := rfl

theorem offset_mark (outline : Outline) (word : List Char) (front : List Fragment) :
    (outline.mark word).offset (⟨word, outline.lead⟩ :: front) =
      word.length + 1 + outline.offset front := by
  simp only [offset, flatten, mark, Fragment.source, List.flatMap_cons, List.nil_append,
    List.length_append, List.length_cons]
  omega

theorem offset_concat (outline : Outline) (front : List Fragment) (fragment : Fragment) :
    outline.offset (front ++ [fragment]) =
      outline.offset front + fragment.word.length + 1 + fragment.text.length := by
  simp only [offset, flatten, Fragment.source, List.flatMap_append, List.flatMap_cons,
    List.flatMap_nil, List.append_nil, List.length_append, List.length_cons]
  omega

theorem offset_append (outline : Outline) (front back : List Fragment) :
    outline.offset front ≤ outline.offset (front ++ back) := by
  simp only [offset, flatten, List.flatMap_append, List.length_append]
  omega

theorem offset_lt_concat (outline : Outline) (front : List Fragment) (fragment : Fragment) :
    outline.offset front < outline.offset (front ++ [fragment]) := by
  rw [offset_concat]
  omega

/-- Of two fragments of one outline, the second begins no later than the first, or it stands
behind the first and begins no sooner than that ends. -/
theorem offset_le_or_mem {outline : Outline} {front back front' back' : List Fragment}
    {fragment fragment' : Fragment} (h : outline.fragments = front ++ fragment :: back)
    (h' : outline.fragments = front' ++ fragment' :: back') :
    outline.offset front' ≤ outline.offset front ∨
      fragment' ∈ back ∧ outline.offset (front ++ [fragment]) ≤ outline.offset front' := by
  rcases List.append_eq_append_iff.mp (h.symm.trans h') with ⟨mid, rfl, hmid⟩ | ⟨mid, rfl, -⟩
  · cases mid with
    | nil => exact .inl (by simp)
    | cons next mid =>
      obtain ⟨rfl, rfl⟩ := List.cons.inj hmid
      refine .inr ⟨by simp, ?_⟩
      rw [List.append_cons front fragment mid]
      exact offset_append outline _ mid
  · exact .inl (offset_append outline front' mid)

/-! ## Lists of markers -/

/-- The markers at which fragments begin, when the first of them begins at `start`. -/
def markersFrom : Nat → List Fragment → List Marker
  | _, [] => []
  | start, fragment :: rest =>
    ⟨start, fragment.word⟩ :: markersFrom (start + fragment.source.length) rest

/-- The markers of a text, in order. -/
def markers (outline : Outline) : List Marker :=
  markersFrom outline.lead.length outline.fragments

theorem markersFrom_append (start : Nat) (front back : List Fragment) :
    markersFrom start (front ++ back) = markersFrom start front ++
      markersFrom (start + (front.flatMap Fragment.source).length) back := by
  induction front generalizing start with
  | nil => rfl
  | cons fragment front ih =>
    rw [List.cons_append, markersFrom, markersFrom, ih, List.flatMap_cons, List.length_append,
      Nat.add_assoc, List.cons_append]

theorem mem_markersFrom_iff {start i : Nat} {word : List Char} {fragments : List Fragment} :
    ⟨i, word⟩ ∈ markersFrom start fragments ↔
      ∃ front body back, fragments = front ++ ⟨word, body⟩ :: back ∧
        i = start + (front.flatMap Fragment.source).length := by
  constructor
  · intro hmem
    induction fragments generalizing start with
    | nil => cases hmem
    | cons fragment rest ih =>
      rcases List.mem_cons.mp hmem with heq | hmem
      · cases heq
        exact ⟨[], fragment.text, rest, rfl, rfl⟩
      · obtain ⟨front, body, back, rfl, rfl⟩ := ih hmem
        exact ⟨fragment :: front, body, back, rfl, by simp [Nat.add_assoc]⟩
  · rintro ⟨front, body, back, rfl, rfl⟩
    rw [markersFrom_append]
    simp [markersFrom]

/-- Markers stand from left to right. -/
theorem markersFrom_ordered (start : Nat) (fragments : List Fragment) :
    (markersFrom start fragments).Pairwise fun first second => first.start < second.start := by
  induction fragments generalizing start with
  | nil => exact .nil
  | cons fragment rest ih =>
    refine .cons ?_ (ih _)
    rintro ⟨i, word⟩ hmem
    obtain ⟨front, body, back, -, rfl⟩ := mem_markersFrom_iff.mp hmem
    simp only [Fragment.source, List.length_append, List.length_cons]
    omega

theorem map_word_markersFrom (start : Nat) (fragments : List Fragment) :
    (markersFrom start fragments).map (·.word) = fragments.map (·.word) := by
  induction fragments generalizing start with
  | nil => rfl
  | cons fragment rest ih => rw [markersFrom, List.map_cons, List.map_cons, ih]

theorem offset_eq (outline : Outline) (front : List Fragment) :
    outline.offset front = outline.lead.length + (front.flatMap Fragment.source).length :=
  List.length_append

end Outline

/-- Lists of markers that stand from left to right are equal if they have the same members. -/
theorem eq_of_ordered {markers markers' : List Marker}
    (h : markers.Pairwise fun first second => first.start < second.start)
    (h' : markers'.Pairwise fun first second => first.start < second.start)
    (hmem : ∀ marker, marker ∈ markers ↔ marker ∈ markers') : markers = markers' := by
  have hnodup : ∀ {list : List Marker},
      list.Pairwise (fun first second => first.start < second.start) → list.Nodup := by
    intro list hlist
    refine hlist.imp ?_
    rintro first _ hlt rfl
    exact Nat.lt_irrefl _ hlt
  refine List.Perm.eq_of_pairwise ?_ h h'
    ((List.perm_ext_iff_of_nodup (hnodup h) (hnodup h')).mpr hmem)
  intro first second _ _ hlt hgt
  exact absurd hgt (Nat.lt_asymm hlt)

/-- The outline of a text for the declared words. -/
inductive Outlined (declared : List Char → Bool) : Bool → List Char → Outline → Prop where
  | nil {atStart : Bool} : Outlined declared atStart [] ⟨[], []⟩
  | marker {word after : List Char} {outline : Outline} (hword : IsWord word)
      (hdeclared : declared word = true) (hafter : Outlined declared false after outline) :
      Outlined declared true (word ++ ':' :: after) (outline.mark word)
  | plain {atStart : Bool} {c : Char} {rest : List Char} {outline : Outline}
      (hnone : ∀ word, ¬ MarkerAt declared atStart (c :: rest) 0 word)
      (hrest : Outlined declared (isBlank c) rest outline) :
      Outlined declared atStart (c :: rest) (outline.push c)

namespace Outlined

variable {declared : List Char → Bool} {atStart : Bool} {text : List Char} {outline : Outline}

theorem flatten_eq (h : Outlined declared atStart text outline) : outline.flatten = text := by
  induction h with
  | nil => rfl
  | marker _ _ _ ih => rw [Outline.flatten_mark, ih]
  | plain _ _ ih => rw [Outline.flatten_push, ih]

/-- A front in which no marker begins goes into the lead. -/
theorem append {front : List Char}
    (hfront : ∀ i word, i < front.length → ¬ MarkerAt declared atStart (front ++ text) i word)
    (h : Outlined declared (startAfter atStart front) text outline) :
    Outlined declared atStart (front ++ text) (outline.prepend front) := by
  induction front generalizing atStart with
  | nil => exact h
  | cons c front ih =>
    refine .plain (fun word => hfront 0 word (Nat.succ_pos _)) (ih ?_ h)
    intro i word hi hmark
    exact hfront (i + 1) word (Nat.succ_lt_succ hi) (markerAt_succ_iff.mpr hmark)

/-- So does a word with its colon that is not declared or may not begin where it stands. -/
theorem append_word {word after : List Char} (h : Outlined declared false after outline)
    (hword : IsWord word) (hplain : atStart = false ∨ declared word = false) :
    Outlined declared atStart (word ++ ':' :: after) (outline.prepend (word ++ [':'])) := by
  rw [List.append_cons]
  refine append ?_ (by rw [startAfter_concat]; exact h)
  intro i other hi
  rw [List.length_append] at hi
  rw [← List.append_cons]
  exact hword.not_markerAt hplain (Nat.le_of_lt_succ hi)

end Outlined

theorem outlined_scan (declared : List Char → Bool) (atStart : Bool) (text : List Char) :
    Outlined declared atStart text ((Outline.scan atStart text).absorb declared) := by
  fun_induction Outline.scan atStart text with
  | case1 atStart => exact .nil
  | case2 c rest word after hcand ih =>
    obtain ⟨hword, htext⟩ := candidate?_eq_some_iff.mp hcand
    rw [htext]
    cases hdeclared : declared word with
    | true =>
      rw [Outline.absorb_mark hdeclared]
      exact .marker hword hdeclared ih
    | false =>
      rw [Outline.absorb_mark_undeclared hdeclared]
      exact ih.append_word hword (.inr hdeclared)
  | case3 c rest hcand ih =>
    refine .plain ?_ ih
    intro word hmark
    obtain ⟨-, -, after, h⟩ := markerAt_zero_iff.mp hmark
    rw [hcand] at h
    cases h
  | case4 atStart c rest hstart ih =>
    refine .plain ?_ ih
    intro word hmark
    exact hstart (markerAt_zero_iff.mp hmark).1

namespace Outlined

variable {declared : List Char → Bool} {atStart : Bool} {text : List Char} {outline : Outline}

/-! ## Where the fragments stand -/

theorem words (h : Outlined declared atStart text outline) {fragment : Fragment}
    (hmem : fragment ∈ outline.fragments) :
    IsWord fragment.word ∧ declared fragment.word = true := by
  induction h with
  | nil => cases hmem
  | marker hword hdeclared _ ih =>
    rcases List.mem_cons.mp hmem with rfl | hmem
    · exact ⟨hword, hdeclared⟩
    · exact ih hmem
  | plain _ _ ih => exact ih hmem

/-- The fragments begin at markers, and every marker is the beginning of one. -/
theorem markerAt_iff (h : Outlined declared atStart text outline) {i : Nat} {word : List Char} :
    MarkerAt declared atStart text i word ↔
      ∃ front body back, outline.fragments = front ++ ⟨word, body⟩ :: back ∧
        i = outline.offset front := by
  induction h generalizing i with
  | nil =>
    constructor
    · intro hmark
      exact absurd hmark not_markerAt_nil
    · rintro ⟨front, body, back, h, -⟩
      simp at h
  | @marker head after outline hword hdeclared hafter ih =>
    constructor
    · intro hmark
      cases i with
      | zero =>
        obtain ⟨hother, -, -, rest, hstands⟩ := hmark
        obtain ⟨rfl, -⟩ := hword.unique hother hstands
        exact ⟨[], _, _, rfl, rfl⟩
      | succ i =>
        rcases Nat.lt_or_ge i head.length with hi | hi
        · exact (hword.no_start (Nat.lt_succ_of_lt hi) hmark.starts).elim
        · obtain ⟨j, rfl⟩ := Nat.exists_eq_add_of_le hi
          rw [Nat.add_right_comm] at hmark ⊢
          obtain ⟨front, body, back, hfragments, rfl⟩ := ih.mp (markerAt_behind_iff.mp hmark)
          refine ⟨⟨head, outline.lead⟩ :: front, body, back, ?_, (Outline.offset_mark _ _ _).symm⟩
          rw [Outline.mark, hfragments, List.cons_append]
    · rintro ⟨front, body, back, h, rfl⟩
      cases front with
      | nil =>
        obtain ⟨hfragment, -⟩ := List.cons.inj h
        cases hfragment
        exact ⟨hword, hdeclared, rfl, _, rfl⟩
      | cons first front =>
        obtain ⟨rfl, hrest⟩ := List.cons.inj h
        rw [Outline.offset_mark]
        exact markerAt_behind_iff.mpr (ih.mpr ⟨front, body, back, hrest, rfl⟩)
  | @plain atStart c rest outline hnone hrest ih =>
    cases i with
    | zero =>
      constructor
      · intro hmark
        exact absurd hmark (hnone word)
      · rintro ⟨front, body, back, -, hi⟩
        rw [Outline.offset_push] at hi
        cases hi
    | succ i =>
      rw [markerAt_succ_iff, ih]
      constructor
      · rintro ⟨front, body, back, h, rfl⟩
        exact ⟨front, body, back, h, rfl⟩
      · rintro ⟨front, body, back, h, hi⟩
        exact ⟨front, body, back, h, Nat.succ.inj hi⟩

/-- The list of the markers has all markers of the text and nothing else. -/
theorem mem_markers_iff (h : Outlined declared atStart text outline) {i : Nat}
    {word : List Char} : ⟨i, word⟩ ∈ outline.markers ↔ MarkerAt declared atStart text i word := by
  rw [h.markerAt_iff, Outline.markers, Outline.mem_markersFrom_iff]
  simp only [Outline.offset_eq]

/-- A text has one outline. -/
theorem unique {outline' : Outline} (h : Outlined declared atStart text outline)
    (h' : Outlined declared atStart text outline') : outline = outline' := by
  induction h generalizing outline' with
  | nil =>
    generalize htext : ([] : List Char) = text at h'
    cases h' with
    | nil => rfl
    | marker => simp at htext
    | plain => cases htext
  | @marker word after outline hword hdeclared _ ih =>
    generalize htext : word ++ ':' :: after = text at h'
    cases h' with
    | nil => simp at htext
    | marker hword' _ hafter' =>
      obtain ⟨rfl, rfl⟩ := hword.unique hword' htext
      rw [ih hafter']
    | plain hnone' _ => exact absurd ⟨hword, hdeclared, rfl, after, htext.symm⟩ (hnone' word)
  | @plain atStart c rest outline hnone _ ih =>
    generalize htext : c :: rest = text at h'
    cases h' with
    | nil => cases htext
    | marker hword' hdeclared' _ =>
      exact absurd ⟨hword', hdeclared', rfl, _, htext⟩ (hnone _)
    | plain _ hrest' =>
      cases htext
      rw [ih hrest']

/-! ## What stands between the markers -/

theorem lead_free (h : Outlined declared atStart text outline) (i : Nat) (word : List Char) :
    ¬ MarkerAt declared atStart outline.lead i word := by
  induction h generalizing i with
  | nil => exact not_markerAt_nil
  | marker => exact not_markerAt_nil
  | @plain atStart c rest outline hnone hrest ih =>
    intro hmark
    cases i with
    | zero =>
      have hlonger := hmark.append (outline.fragments.flatMap Fragment.source)
      rw [show outline.push c = ⟨c :: outline.lead, outline.fragments⟩ from rfl,
        List.cons_append, show outline.lead ++ _ = rest from hrest.flatten_eq] at hlonger
      exact hnone word hlonger
    | succ i => exact ih i (markerAt_succ_iff.mp hmark)

theorem text_free (h : Outlined declared atStart text outline) {fragment : Fragment}
    (hmem : fragment ∈ outline.fragments) (i : Nat) (word : List Char) :
    ¬ MarkerAt declared false fragment.text i word := by
  induction h with
  | nil => cases hmem
  | marker _ _ hafter ih =>
    rcases List.mem_cons.mp hmem with rfl | hmem
    · exact hafter.lead_free i word
    · exact ih hmem
  | plain _ _ ih => exact ih hmem

/-- The text up to a fragment's end. -/
theorem take_offset (h : Outlined declared atStart text outline) {front back : List Fragment}
    (hfragments : outline.fragments = front ++ back) :
    text.take (outline.offset front) = Outline.flatten ⟨outline.lead, front⟩ := by
  rw [← h.flatten_eq, Outline.flatten, hfragments, List.flatMap_append, ← List.append_assoc]
  exact List.take_left

/-- The text of a fragment is what stands between the colon of its marker and the end. -/
theorem segment_eq (h : Outlined declared atStart text outline) {front back : List Fragment}
    {fragment : Fragment} (hfragments : outline.fragments = front ++ fragment :: back) :
    (text.take (outline.offset (front ++ [fragment]))).drop
      (outline.offset front + fragment.word.length + 1) = fragment.text := by
  have hfront : outline.fragments = (front ++ [fragment]) ++ back := by simp [hfragments]
  rw [h.take_offset hfront]
  have hsplit : Outline.flatten ⟨outline.lead, front ++ [fragment]⟩ =
      (Outline.flatten ⟨outline.lead, front⟩ ++ fragment.word ++ [':']) ++ fragment.text := by
    simp [Outline.flatten, Fragment.source]
  rw [hsplit]
  exact List.drop_left' (by simp [Outline.offset]; omega)

/-- The end of the given fragments is the end of the text or the beginning of the next one. -/
theorem offset_reached (h : Outlined declared true text outline) {front back : List Fragment}
    (hfragments : outline.fragments = front ++ back) :
    outline.offset front = text.length ∨
      ∃ word, MarkerAt declared true text (outline.offset front) word := by
  cases back with
  | nil =>
    left
    rw [List.append_nil] at hfragments
    rw [← h.flatten_eq, Outline.offset, ← hfragments]
  | cons next back =>
    exact .inr ⟨next.word, h.markerAt_iff.mpr ⟨front, next.text, back, hfragments, rfl⟩⟩

/-- The lead reaches up to the first marker. -/
theorem nextMarker_lead (h : Outlined declared true text outline) :
    NextMarker declared text 0 outline.lead.length := by
  have hlead : outline.offset [] = outline.lead.length := by simp [Outline.offset, Outline.flatten]
  rw [← hlead]
  refine ⟨Nat.zero_le _, ?_, h.offset_reached (List.nil_append _).symm⟩
  intro i word hmark _
  obtain ⟨front, body, back, -, rfl⟩ := h.markerAt_iff.mp hmark
  exact outline.offset_append [] front

/-- The text of a fragment reaches up to the next marker. -/
theorem nextMarker (h : Outlined declared true text outline) {front back : List Fragment}
    {fragment : Fragment} (hfragments : outline.fragments = front ++ fragment :: back) :
    NextMarker declared text (outline.offset front + 1) (outline.offset (front ++ [fragment])) := by
  have hfront : outline.fragments = (front ++ [fragment]) ++ back := by simp [hfragments]
  refine ⟨?_, ?_, h.offset_reached hfront⟩
  · exact Outline.offset_lt_concat _ _ _
  · intro i word hmark hi
    obtain ⟨front', body, back', hfragments', rfl⟩ := h.markerAt_iff.mp hmark
    rcases Outline.offset_le_or_mem hfragments hfragments' with hle | ⟨-, hle⟩
    · omega
    · exact hle

end Outlined
end InlineTag
