import InlineTag.Proofs.Reading

/-!
# InlineTag.Proofs.Seams

Texts put together. Where no marker reaches over the seam, the front and the back can be read each
on its own, and the outline of the whole is made of the two.

* `Apart`: no marker that begins in the front reaches over the seam. This is so when white space
  stands on either side of it.
* `Outlined.join`: the outline of the whole.
* `Contents`: what a tag takes from an outline, and `TagType.contents_append_blank`: white space at
  the end adds nothing to it.
* `TagType.outline_append_marker`: from a marker on, the outline does not depend on what stands
  before.
-/

namespace InlineTag

open Text Toml

/-- Every marker that begins in the front is one of the front. -/
def Apart (declared : List Char → Bool) (atStart : Bool) (front back : List Char) : Prop :=
  ∀ i word, i < front.length → MarkerAt declared atStart (front ++ back) i word →
    MarkerAt declared atStart front i word

section Apart

variable {declared : List Char → Bool} {atStart : Bool} {front back text : List Char}

theorem apart_of_blank {c : Char} (hc : isBlank c = true) :
    Apart declared atStart front (c :: back) := by
  intro i word hi hmark
  exact hmark.of_append hc (Nat.le_of_lt hi)

theorem apart_gap {gap : List Char} (hgap : Blank gap) : Apart declared atStart front gap := by
  cases gap with
  | nil =>
    intro i word _ hmark
    rwa [List.append_nil] at hmark
  | cons c gap => exact apart_of_blank (hgap c List.mem_cons_self)

theorem apart_of_startAfter (h : startAfter atStart front = true) :
    Apart declared atStart front back := by
  intro i word hi hmark
  rcases List.eq_nil_or_concat front with rfl | ⟨init, c, rfl⟩
  · cases hi
  · rw [List.concat_eq_append] at h hi hmark ⊢
    rw [startAfter_concat] at h
    rw [List.append_assoc, List.singleton_append] at hmark
    rw [List.length_append, List.length_singleton] at hi
    exact (hmark.of_append h (Nat.le_of_lt_succ hi)).append [c]

theorem Text.Blank.not_markerAt (h : Blank text) (i : Nat) (word : List Char) :
    ¬ MarkerAt declared atStart text i word := by
  rintro ⟨-, -, -, after, hstands⟩
  have hcolon : ':' ∈ text.drop i := by
    rw [hstands]
    simp
  exact h.colon_not_mem (List.mem_of_mem_drop hcolon)

/-- Parts without markers give a whole without markers. -/
theorem Apart.free (h : Apart declared atStart front back)
    (hfront : ∀ i word, ¬ MarkerAt declared atStart front i word)
    (hback : ∀ i word, ¬ MarkerAt declared (startAfter atStart front) back i word)
    (i : Nat) (word : List Char) : ¬ MarkerAt declared atStart (front ++ back) i word := by
  intro hmark
  rcases Nat.lt_or_ge i front.length with hi | hi
  · exact hfront i word (h i word hi hmark)
  · obtain ⟨j, rfl⟩ := Nat.exists_eq_add_of_le hi
    exact hback j word (markerAt_append_iff.mp hmark)

theorem startAfter_append_blank {gap : List Char} (hgap : Blank gap) (hne : gap ≠ []) :
    startAfter atStart (front ++ gap) = true := by
  rcases List.eq_nil_or_concat gap with rfl | ⟨init, c, rfl⟩
  · exact absurd rfl hne
  · rw [List.concat_eq_append, ← List.append_assoc, startAfter_concat]
    exact hgap c (by simp)

end Apart

/-! ## Outlines put together -/

namespace Outline

/-- Puts a lead and fragments in front. The last text of them takes the lead of the outline. -/
def behind (back : Outline) : List Char → List Fragment → Outline
  | lead, [] => back.prepend lead
  | lead, fragment :: rest => ((back.behind fragment.text rest).mark fragment.word).prepend lead

/-- The outline of two texts put together. -/
def join (front back : Outline) : Outline :=
  back.behind front.lead front.fragments

theorem push_join (front back : Outline) (c : Char) :
    (front.push c).join back = (front.join back).push c := by
  obtain ⟨lead, fragments⟩ := front
  cases fragments <;> rfl

theorem mark_join (front back : Outline) (word : List Char) :
    (front.mark word).join back = (front.join back).mark word := rfl

/-- A marker at the seam leaves the last text of the front as it is. -/
theorem join_mark (front back : Outline) (word : List Char) :
    front.join (back.mark word) =
      ⟨front.lead, front.fragments ++ ⟨word, back.lead⟩ :: back.fragments⟩ := by
  obtain ⟨lead, fragments⟩ := front
  show (back.mark word).behind lead fragments = _
  induction fragments generalizing lead with
  | nil => simp [behind, prepend, mark]
  | cons fragment rest ih =>
    rw [behind, ih]
    simp [prepend, mark]

end Outline

namespace Outlined

variable {declared : List Char → Bool} {atStart : Bool} {front back text : List Char}
  {outline outline' : Outline}

/-- The outline of the whole, when no marker reaches over the seam. -/
theorem join (h : Outlined declared atStart front outline)
    (hapart : Apart declared atStart front back)
    (hback : Outlined declared (startAfter atStart front) back outline') :
    Outlined declared atStart (front ++ back) (outline.join outline') := by
  induction h with
  | nil => exact hback
  | @marker word after outline hword hdeclared _ ih =>
    rw [Outline.mark_join, List.append_assoc, List.cons_append]
    refine .marker hword hdeclared (ih ?_ ?_)
    · intro i other hi hmark
      have hwhole := hapart (word.length + 1 + i) other (by simp; omega)
      rw [List.append_assoc, List.cons_append, markerAt_behind_iff, markerAt_behind_iff] at hwhole
      exact hwhole hmark
    · rwa [List.append_cons, startAfter_append, startAfter_concat, isBlank_colon] at hback
  | @plain atStart c rest outline hnone _ ih =>
    rw [Outline.push_join, List.cons_append]
    refine .plain ?_ (ih ?_ hback)
    · intro word hmark
      exact hnone word (hapart 0 word (Nat.succ_pos _) hmark)
    · intro i word hi hmark
      exact markerAt_succ_iff.mp
        (hapart (i + 1) word (Nat.succ_lt_succ hi) (markerAt_succ_iff.mpr hmark))

/-- A text without markers is its own lead. -/
theorem of_free (h : ∀ i word, ¬ MarkerAt declared atStart text i word) :
    Outlined declared atStart text ⟨text, []⟩ := by
  have happend : Outlined declared atStart (text ++ []) (Outline.prepend text ⟨[], []⟩) := by
    refine append ?_ .nil
    intro i word _
    rw [List.append_nil]
    exact h i word
  rw [Outline.prepend, List.append_nil] at happend
  exact happend

theorem fragments_eq_nil_iff (h : Outlined declared atStart text outline) :
    outline.fragments = [] ↔ ∀ i word, ¬ MarkerAt declared atStart text i word := by
  constructor
  · intro hnil i word hmark
    obtain ⟨front, body, back, hfragments, -⟩ := h.markerAt_iff.mp hmark
    rw [hnil] at hfragments
    simp at hfragments
  · intro hnone
    rw [h.unique (of_free hnone)]

/-- Whether a word may begin at the front matters only when a marker stands there. -/
theorem of_not_markerAt_zero (h : Outlined declared true text outline)
    (hnone : ∀ word, ¬ MarkerAt declared true text 0 word) :
    Outlined declared atStart text outline := by
  cases h with
  | nil => exact .nil
  | marker hword hdeclared _ => exact absurd ⟨hword, hdeclared, rfl, _, rfl⟩ (hnone _)
  | plain _ hrest =>
    refine .plain ?_ hrest
    intro word hmark
    exact hnone word hmark.strengthen

end Outlined

/-! ## Contents -/

/-- What a tag takes from an outline: the value, and the attributes in the order of the text. -/
structure Contents where
  value : List Char
  entries : List (String × String)

namespace Outline

def contents (outline : Outline) : Contents :=
  ⟨clean outline.lead, outline.fragments.map Fragment.entry⟩

theorem contents_join_mark (front back : Outline) (word : List Char) :
    (front.join (back.mark word)).contents =
      ⟨front.contents.value, front.contents.entries ++ (back.mark word).contents.entries⟩ := by
  rw [join_mark, contents, contents, contents, List.map_append]
  rfl

theorem contents_join_blank (front : Outline) {gap : List Char} (hgap : Blank gap) :
    (front.join ⟨gap, []⟩).contents = front.contents := by
  obtain ⟨lead, fragments⟩ := front
  show (Outline.behind ⟨gap, []⟩ lead fragments).contents = _
  induction fragments generalizing lead with
  | nil => simp [behind, contents, prepend, clean_append hgap]
  | cons fragment rest ih =>
    have hrest := ih fragment.text
    simp only [contents, Contents.mk.injEq] at hrest
    simp [behind, contents, prepend, mark, Fragment.entry, hrest]

end Outline

/-- The tag with the given contents. -/
def Contents.tag (contents : Contents) (name : String) (data options : Bag) : Tag :=
  { type := name
    value := String.ofList contents.value
    attrs := NameMap.ofList contents.entries
    data, options }

namespace TagType

variable {type : TagType} {front text : List Char} {outline : Outline}

theorem read_eq_tag (type : TagType) (name : String) (text : List Char) (data options : Bag) :
    type.read name text data options = (type.outline text).contents.tag name data options :=
  type.read_eq name text data options

/-- White space at the end is not part of the contents. -/
theorem contents_append_blank (type : TagType) (text : List Char) {gap : List Char}
    (hgap : Blank gap) :
    (type.outline (text ++ gap)).contents = (type.outline text).contents := by
  have hjoin := (type.outlined text).join (apart_gap hgap) (Outlined.of_free hgap.not_markerAt)
  rw [(type.outlined _).unique hjoin, Outline.contents_join_blank _ hgap]

/-- A marker opens an outline of its own. -/
theorem outline_append_marker {word after : List Char} (hstart : startAfter true front = true)
    (hword : IsWord word) (hdeclared : type.declares word = true)
    (hafter : Outlined type.declares false after outline) :
    type.outline (front ++ (word ++ ':' :: after)) =
      (type.outline front).join (outline.mark word) := by
  refine (type.outlined _).unique ((type.outlined front).join (apart_of_startAfter hstart) ?_)
  rw [hstart]
  exact .marker hword hdeclared hafter

end TagType
end InlineTag
