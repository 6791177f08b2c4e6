import Mathlib
import InlineTag.Proofs.Seams

/-!
# InlineTag.Proofs.TrailingAttributes

Attributes put behind a source. A source that has a colon can be read first, and what is put behind
it then sets attributes of the tag, one after the other.

* `Group`: white space, a word, a colon and a text, as they stand at the end of a source.
* `Group.Sets`, `Group.Stray`: the groups that set an attribute, and those whose word is not
  declared.
* `TagType.contents_append_groups`: a run of groups adds their attributes in order.
* `parse_append_groups`: what that does to a tag.
-/

namespace InlineTag

open Text Toml

/-- A stretch at the end of a text: white space, a word, a colon, and what stands behind it. -/
structure Group where
  gap : List Char
  word : List Char
  text : List Char

namespace Group

def source (group : Group) : List Char :=
  group.gap ++ (group.word ++ ':' :: group.text)

/-- The groups one behind the other. -/
def sources (groups : List Group) : List Char :=
  groups.flatMap source

/-- The text that a declared word takes from its group. -/
def content (group : Group) : String :=
  String.ofList (clean group.text)

def entry (group : Group) : String × String :=
  (String.ofList group.word, group.content)

/-- White space sets the group apart from what stands before it, and no declared word with a colon
stands behind white space in its text. -/
structure Formed (declared : List Char → Bool) (group : Group) : Prop where
  gap_ne : group.gap ≠ []
  gap_blank : Blank group.gap
  isWord : IsWord group.word
  free : ∀ i word, ¬ MarkerAt declared false group.text i word

/-- A group that sets an attribute. -/
structure Sets (declared : List Char → Bool) (group : Group) : Prop
    extends group.Formed declared where
  isDeclared : declared group.word = true

/-- A group that looks as if it set an attribute, but none that is declared. -/
structure Stray (declared : List Char → Bool) (group : Group) : Prop
    extends group.Formed declared where
  undeclared : declared group.word = false

end Group

/-! ## Groups in texts -/

section Strays

variable {declared : List Char → Bool} {atStart : Bool} {text : List Char}

/-- An undeclared word brings no marker. -/
theorem not_markerAt_undeclared {word after : List Char} (hword : IsWord word)
    (hdeclared : declared word = false)
    (hafter : ∀ i other, ¬ MarkerAt declared false after i other) (i : Nat) (other : List Char) :
    ¬ MarkerAt declared atStart (word ++ ':' :: after) i other :=
  ((Outlined.of_free hafter).append_word hword (.inr hdeclared)).fragments_eq_nil_iff.mp rfl i other

theorem free_append_stray (htext : ∀ i word, ¬ MarkerAt declared atStart text i word)
    {stray : Group} (hstray : stray.Stray declared) (i : Nat) (word : List Char) :
    ¬ MarkerAt declared atStart (text ++ stray.source) i word := by
  have hgap := (apart_gap hstray.gap_blank).free htext hstray.gap_blank.not_markerAt
  have hstart : startAfter atStart (text ++ stray.gap) = true :=
    startAfter_append_blank hstray.gap_blank hstray.gap_ne
  rw [Group.source, ← List.append_assoc]
  refine (apart_of_startAfter hstart).free hgap ?_ i word
  exact not_markerAt_undeclared hstray.isWord hstray.undeclared hstray.free

theorem free_append_strays (htext : ∀ i word, ¬ MarkerAt declared atStart text i word)
    {strays : List Group} (hstrays : ∀ stray ∈ strays, stray.Stray declared) (i : Nat)
    (word : List Char) :
    ¬ MarkerAt declared atStart (text ++ Group.sources strays) i word := by
  induction strays generalizing text with
  | nil =>
    rw [Group.sources, List.flatMap_nil, List.append_nil]
    exact htext i word
  | cons stray rest ih =>
    obtain ⟨hstray, hrest⟩ := List.forall_mem_cons.mp hstrays
    rw [Group.sources, List.flatMap_cons, ← List.append_assoc]
    exact ih (free_append_stray htext hstray) hrest

end Strays

/-- The group with stray ones taken into its text. -/
def Group.absorb (group : Group) (strays : List Group) : Group :=
  { group with text := group.text ++ Group.sources strays }

theorem Group.source_absorb (group : Group) (strays : List Group) :
    (group.absorb strays).source = group.source ++ Group.sources strays := by
  simp [absorb, source]

theorem Group.Sets.absorb {declared : List Char → Bool} {group : Group}
    (h : group.Sets declared) {strays : List Group}
    (hstrays : ∀ stray ∈ strays, stray.Stray declared) : (group.absorb strays).Sets declared where
  gap_ne := h.gap_ne
  gap_blank := h.gap_blank
  isWord := h.isWord
  free := free_append_strays h.free hstrays
  isDeclared := h.isDeclared

namespace TagType

variable {type : TagType}

/-- A group at the end adds its attribute and changes nothing before it. -/
theorem contents_append_group (text : List Char) {group : Group}
    (h : group.Sets type.declares) :
    (type.outline (text ++ group.source)).contents =
      ⟨(type.outline text).contents.value, (type.outline text).contents.entries ++ [group.entry]⟩ := by
  have hstart : startAfter true (text ++ group.gap) = true :=
    startAfter_append_blank h.gap_blank h.gap_ne
  rw [Group.source, ← List.append_assoc,
    outline_append_marker hstart h.isWord h.isDeclared (Outlined.of_free h.free),
    Outline.contents_join_mark, type.contents_append_blank text h.gap_blank]
  rfl

/-- A run of groups adds their attributes in order. -/
theorem contents_append_groups (text : List Char) {groups : List Group}
    (h : ∀ group ∈ groups, group.Sets type.declares) :
    (type.outline (text ++ Group.sources groups)).contents =
      ⟨(type.outline text).contents.value,
        (type.outline text).contents.entries ++ groups.map Group.entry⟩ := by
  induction groups generalizing text with
  | nil => simp [Group.sources]
  | cons group rest ih =>
    obtain ⟨hgroup, hrest⟩ := List.forall_mem_cons.mp h
    rw [Group.sources, List.flatMap_cons, ← List.append_assoc]
    rw [← Group.sources, ih _ hrest, contents_append_group text hgroup]
    simp

end TagType

/-! ## Groups in sources -/

theorem Splits.append {raw name : String} {text : List Char} (h : Splits raw name text)
    (hcolon : ':' ∈ raw.toList) (more : List Char) :
    Splits (raw ++ String.ofList more) name (text ++ more) := by
  obtain ⟨front, rfl, ⟨hraw, hfront⟩ | ⟨hraw, hfront, -⟩⟩ := h
  · exact ⟨front, rfl, .inl ⟨by simp [hraw], hfront⟩⟩
  · rw [hraw] at hcolon
    exact absurd hcolon hfront

section Sources

variable {registry : Registry} {raw : String} {type : TagType} {data options : Bag}

theorem parse_eq_tag (hlookup : registry.lookup (sourceType raw) = some type) :
    registry.parse raw data options =
      .ok ((type.outline (sourceRest raw)).contents.tag (sourceType raw) data options) := by
  rw [Registry.parse_of_lookup_some hlookup, TagType.read_eq_tag]

theorem parse_append_eq_tag (hcolon : ':' ∈ raw.toList)
    (hlookup : registry.lookup (sourceType raw) = some type) (more : List Char) :
    registry.parse (raw ++ String.ofList more) data options =
      .ok ((type.outline (sourceRest raw ++ more)).contents.tag (sourceType raw) data options) := by
  have hsplits : Splits raw (sourceType raw) (sourceRest raw) := splits_iff.mpr ⟨rfl, rfl⟩
  obtain ⟨htype, htext⟩ := splits_iff.mp (hsplits.append hcolon more)
  rw [parse_eq_tag (htype ▸ hlookup), ← htype, ← htext]

theorem Contents.tag_concat (value : List Char) (entries : List (String × String)) (group : Group)
    (name : String) (data options : Bag) :
    Contents.tag ⟨value, entries ++ [group.entry]⟩ name data options =
      (Contents.tag ⟨value, entries⟩ name data options).withAttr (String.ofList group.word)
        group.content := by
  rw [Contents.tag, Group.entry, NameMap.ofList_concat]
  rfl

theorem parse_append_group (hcolon : ':' ∈ raw.toList)
    (hlookup : registry.lookup (sourceType raw) = some type) {group : Group}
    (h : group.Sets type.declares) :
    registry.parse (raw ++ String.ofList group.source) data options =
      .ok (((type.outline (sourceRest raw)).contents.tag (sourceType raw) data options).withAttr
        (String.ofList group.word) group.content) := by
  rw [parse_append_eq_tag hcolon hlookup, TagType.contents_append_group _ h, Contents.tag_concat]

theorem parse_append_groups (hcolon : ':' ∈ raw.toList)
    (hlookup : registry.lookup (sourceType raw) = some type) {groups : List Group}
    (h : ∀ group ∈ groups, group.Sets type.declares) :
    registry.parse (raw ++ String.ofList (Group.sources groups)) data options =
      .ok (Contents.tag ⟨(type.outline (sourceRest raw)).contents.value,
        (type.outline (sourceRest raw)).contents.entries ++ groups.map Group.entry⟩
          (sourceType raw) data options) := by
  rw [parse_append_eq_tag hcolon hlookup, TagType.contents_append_groups _ h]

/-- Groups of different words may change places in a run of groups. -/
theorem parse_append_swap (hcolon : ':' ∈ raw.toList)
    (hlookup : registry.lookup (sourceType raw) = some type) {front back : List Group}
    {first second : Group}
    (h : ∀ group ∈ front ++ first :: second :: back, group.Sets type.declares)
    (hne : first.word ≠ second.word) :
    registry.parse (raw ++ String.ofList (Group.sources (front ++ first :: second :: back)))
        data options =
      registry.parse (raw ++ String.ofList (Group.sources (front ++ second :: first :: back)))
        data options := by
  have hname : first.entry.1 ≠ second.entry.1 := fun heq => hne (String.ofList_injective heq)
  have hswapped : ∀ group ∈ front ++ second :: first :: back, group.Sets type.declares := by
    intro group hmem
    refine h group ?_
    simp only [List.mem_append, List.mem_cons] at hmem ⊢
    tauto
  rw [parse_append_groups hcolon hlookup h, parse_append_groups hcolon hlookup hswapped]
  simp only [Contents.tag, List.map_append, List.map_cons, ← List.append_assoc]
  rw [NameMap.ofList_swap _ _ hname]

/-- A group is of no effect before another of its word. -/
theorem parse_append_repeated (hcolon : ':' ∈ raw.toList)
    (hlookup : registry.lookup (sourceType raw) = some type) {front mid back : List Group}
    {first second : Group}
    (h : ∀ group ∈ front ++ first :: (mid ++ second :: back), group.Sets type.declares)
    (heq : first.word = second.word) :
    registry.parse (raw ++ String.ofList (Group.sources (front ++ first :: (mid ++ second :: back))))
        data options =
      registry.parse (raw ++ String.ofList (Group.sources (front ++ (mid ++ second :: back))))
        data options := by
  have hname : first.entry.1 = second.entry.1 := congrArg String.ofList heq
  have hkept : ∀ group ∈ front ++ (mid ++ second :: back), group.Sets type.declares := by
    intro group hmem
    refine h group ?_
    simp only [List.mem_append, List.mem_cons] at hmem ⊢
    tauto
  rw [parse_append_groups hcolon hlookup h, parse_append_groups hcolon hlookup hkept]
  simp only [Contents.tag, List.map_append, List.map_cons]
  rw [← List.append_assoc, NameMap.ofList_overwritten _ _ _ hname, List.append_assoc]

end Sources

/-- What stands behind a source sets attributes and does nothing else. A group sets its attribute
and keeps the rest of the tag; in a run of groups two of different words may change places, and of
two with one word the first is of no effect; and undeclared words with a colon, put behind a group,
go into the text of its attribute. -/
theorem parse_trailing_attributes (registry : Registry) (raw : String) (type : TagType)
    (data options : Bag) (hcolon : ':' ∈ raw.toList)
    (hlookup : registry.lookup (sourceType raw) = some type) :
    ∃ tag, registry.parse raw data options = .ok tag ∧
      (∀ group : Group, group.Sets type.declares →
        registry.parse (raw ++ String.ofList group.source) data options =
          .ok (tag.withAttr (String.ofList group.word) (String.ofList (clean group.text)))) ∧
      (∀ (front back : List Group) (first second : Group),
        (∀ group ∈ front ++ first :: second :: back, group.Sets type.declares) →
        first.word ≠ second.word →
        registry.parse (raw ++ String.ofList (Group.sources (front ++ first :: second :: back)))
            data options =
          registry.parse (raw ++ String.ofList (Group.sources (front ++ second :: first :: back)))
            data options) ∧
      (∀ (front mid back : List Group) (first second : Group),
        (∀ group ∈ front ++ first :: (mid ++ second :: back), group.Sets type.declares) →
        first.word = second.word →
        registry.parse
            (raw ++ String.ofList (Group.sources (front ++ first :: (mid ++ second :: back))))
            data options =
          registry.parse (raw ++ String.ofList (Group.sources (front ++ (mid ++ second :: back))))
            data options) ∧
      (∀ (group : Group) (strays : List Group), group.Sets type.declares →
        (∀ stray ∈ strays, stray.Stray type.declares) →
        registry.parse (raw ++ String.ofList (group.source ++ Group.sources strays)) data options =
          .ok (tag.withAttr (String.ofList group.word)
            (String.ofList (clean (group.text ++ Group.sources strays))))) := by
  refine ⟨_, parse_eq_tag hlookup, ?_, ?_, ?_, ?_⟩
  · intro group h
    exact parse_append_group hcolon hlookup h
  · intro front back first second h hne
    exact parse_append_swap hcolon hlookup h hne
  · intro front mid back first second h heq
    exact parse_append_repeated hcolon hlookup h heq
  · intro group strays h hstrays
    rw [← Group.source_absorb]
    exact parse_append_group hcolon hlookup (h.absorb hstrays)

/-- A group behind a marker without a text, with another declared word glued to its own colon and
an undeclared word behind. -/
theorem parse_trailing_attributes_glued :
    ∃ (registry : Registry) (type : TagType) (group stray : Group),
      registry.lookup "t" = some type ∧ group.Sets type.declares ∧ stray.Stray type.declares ∧
      group.source ++ stray.source = "\tb:a: x c: y".toList ∧
      registry.parse ("t: v a: " ++ "\tb:a: x c: y") NameMap.empty NameMap.empty =
        .ok { type := "t", value := "v", attrs := NameMap.ofList [("a", ""), ("b", "a: x c: y")] } := by
  let type := TagType.declare "t" ["a", "b"] none
  let registry := Registry.empty.register type
  let group : Group := ⟨['\t'], ['b'], "a: x".toList⟩
  let stray : Group := ⟨[' '], ['c'], " y".toList⟩
  have hlookup : registry.lookup (sourceType "t: v a: ") = some type := by cbv
  have hgroup : group.Sets type.declares := by
    refine ⟨⟨by decide, allBlank_iff.mp rfl, ⟨by decide, List.all_eq_true.mp rfl⟩, ?_⟩, by decide⟩
    exact (outlined_scan _ _ _).fragments_eq_nil_iff.mp (by cbv)
  have hstray : stray.Stray type.declares := by
    refine ⟨⟨by decide, allBlank_iff.mp rfl, ⟨by decide, List.all_eq_true.mp rfl⟩, ?_⟩, by decide⟩
    exact (outlined_scan _ _ _).fragments_eq_nil_iff.mp (by cbv)
  obtain ⟨tag, hparse, -, -, -, habsorb⟩ := parse_trailing_attributes registry "t: v a: " type
    NameMap.empty NameMap.empty (by decide) hlookup
  have hread : registry.parse "t: v a: " NameMap.empty NameMap.empty =
      .ok { type := "t", value := "v", attrs := NameMap.ofList [("a", "")] } := by cbv
  rw [hread] at hparse
  cases hparse
  have hwhole := habsorb group [stray] hgroup (by simpa using hstray)
  exact ⟨registry, type, group, stray, by rfl, hgroup, hstray, by decide, hwhole⟩

end InlineTag
