import Mathlib
import InlineTag.Proofs.Reading

/-!
# InlineTag.Proofs.Spelling

Which tags reading can give, and how to spell a source for each of them.

* `Regular`: the tags that come out of reading. No text in them may hold a marker where reading
  would have found it.
* `Tag.spelled`: a source for a tag. A text that begins like a marker is put directly behind the
  colon, where no word may begin, and every other text behind a space, which reading drops.
* `parse_image`: reading gives regular tags only, and gives every regular tag for its spelling.
-/

namespace InlineTag

open Text Toml

/-- A tag as reading makes it, for a type with the declared words. -/
structure Regular (declared : List Char → Bool) (tag : Tag) : Prop where
  type_trimmed : trim tag.type.toList = tag.type.toList
  type_no_colon : ':' ∉ tag.type.toList
  value_solid : EndsSolid tag.value.toList
  value_free : ∀ i word, ¬ MarkerAt declared true tag.value.toList i word
  names : ∀ name text, tag.get? name = some text →
    IsWord name.toList ∧ declared name.toList = true
  texts_solid : ∀ name text, tag.get? name = some text → EndsSolid text.toList
  texts_free : ∀ name text, tag.get? name = some text →
    ∀ i word, ¬ MarkerAt declared false text.toList i word

/-- What stands between the colon of an attribute and its text: nothing if the text begins with a
declared word and a colon, and a space otherwise. -/
def separator (declared : List Char → Bool) (text : List Char) : List Char :=
  match candidate? text with
  | some (word, _) => if declared word then [] else [' ']
  | none => [' ']

def spelledAttr (declared : List Char → Bool) (entry : String × String) : List Char :=
  ' ' :: (entry.1.toList ++ ':' :: (separator declared entry.2.toList ++ entry.2.toList))

/-- A source for a tag: its type, its value, and its attributes in the order of names. -/
def Tag.spelled (declared : List Char → Bool) (tag : Tag) : String :=
  String.ofList (tag.type.toList ++ ':' :: ' ' ::
    (tag.value.toList ++ tag.attrs.entries.flatMap (spelledAttr declared)))

section Spelling

variable {declared : List Char → Bool} {atStart : Bool} {text : List Char}

/-! ## Cleaned texts and markers -/

theorem MarkerAt.of_trimEnd {i : Nat} {word : List Char}
    (h : MarkerAt declared atStart (trimEnd text) i word) :
    MarkerAt declared atStart text i word := by
  obtain ⟨tail, htext, -⟩ := trimEnd_append_blank text
  rw [htext]
  exact h.append tail

/-- Cleaning brings no marker up. -/
theorem MarkerAt.of_clean {i : Nat} {word : List Char}
    (h : MarkerAt declared atStart (clean text) i word) :
    ∃ j, MarkerAt declared atStart text j word := by
  by_cases hhead : text.head? = some ' '
  · obtain ⟨rest, rfl⟩ := List.head?_eq_some_iff.mp hhead
    rw [clean_space] at h
    refine ⟨i + 1, markerAt_succ_iff.mpr ?_⟩
    rw [isBlank_space]
    exact h.of_trimEnd.strengthen
  · rw [clean_of_head? hhead] at h
    exact ⟨i, h.of_trimEnd⟩

theorem not_markerAt_space_zero {word : List Char} :
    ¬ MarkerAt declared atStart (' ' :: text) 0 word :=
  not_markerAt_blank_zero isBlank_space

theorem clean_space_of_endsSolid (h : EndsSolid text) : clean (' ' :: text) = text := by
  rw [clean_space, trimEnd_of_endsSolid h]

/-! ## The separator -/

theorem separator_eq_nil {word : List Char} (h : MarkerAt declared true text 0 word) :
    separator declared text = [] := by
  obtain ⟨-, hdeclared, after, hcandidate⟩ := markerAt_zero_iff.mp h
  rw [separator, hcandidate]
  exact if_pos hdeclared

theorem separator_eq_space (h : ∀ word, ¬ MarkerAt declared true text 0 word) :
    separator declared text = [' '] := by
  unfold separator
  split
  · rename_i word after hcandidate
    refine if_neg fun hdeclared => h word ?_
    exact markerAt_zero_iff.mpr ⟨rfl, hdeclared, after, hcandidate⟩
  · rfl

/-- Behind the separator no marker stands that the text does not hold. -/
theorem separated_free (h : ∀ i word, ¬ MarkerAt declared false text i word) (i : Nat)
    (word : List Char) : ¬ MarkerAt declared false (separator declared text ++ text) i word := by
  by_cases hfirst : ∃ first, MarkerAt declared true text 0 first
  · obtain ⟨first, hfirst⟩ := hfirst
    rw [separator_eq_nil hfirst]
    exact h i word
  · rw [separator_eq_space fun first hmark => hfirst ⟨first, hmark⟩]
    intro hmark
    cases i with
    | zero => exact not_markerAt_space_zero hmark
    | succ i =>
      have hmark := markerAt_succ_iff.mp hmark
      cases i with
      | zero => exact hfirst ⟨word, hmark.strengthen⟩
      | succ i => exact h (i + 1) word ⟨hmark.isWord, hmark.declared, hmark.starts, hmark.stands⟩

theorem clean_separated (h : EndsSolid text) : clean (separator declared text ++ text) = text := by
  by_cases hfirst : ∃ first, MarkerAt declared true text 0 first
  · obtain ⟨first, hfirst⟩ := hfirst
    have hhead : text.head? ≠ some ' ' := by
      intro hhead
      obtain ⟨rest, rfl⟩ := List.head?_eq_some_iff.mp hhead
      exact not_markerAt_space_zero hfirst
    rw [separator_eq_nil hfirst, List.nil_append, clean_of_head? hhead, trimEnd_of_endsSolid h]
  · rw [separator_eq_space fun first hmark => hfirst ⟨first, hmark⟩]
    exact clean_space_of_endsSolid h

/-! ## The outline of a spelling -/

/-- An attribute that reading can give. -/
structure RegularAttr (declared : List Char → Bool) (entry : String × String) : Prop where
  isWord : IsWord entry.1.toList
  isDeclared : declared entry.1.toList = true
  solid : EndsSolid entry.2.toList
  free : ∀ i word, ¬ MarkerAt declared false entry.2.toList i word

/-- A text without markers and spelled attributes behind it: the text is the lead, up to a blank
tail, and the fragments give the attributes. -/
theorem outlined_spelled {entries : List (String × String)}
    (hentries : ∀ entry ∈ entries, RegularAttr declared entry)
    (htext : ∀ i word, ¬ MarkerAt declared atStart text i word) :
    ∃ outline tail,
      Outlined declared atStart (text ++ entries.flatMap (spelledAttr declared)) outline ∧
      Blank tail ∧ outline.lead = text ++ tail ∧
      outline.fragments.map Fragment.entry = entries := by
  induction entries generalizing atStart text with
  | nil =>
    refine ⟨Outline.prepend text ⟨[], []⟩, [], ?_, by simp [Blank], rfl, rfl⟩
    refine Outlined.append ?_ .nil
    intro i word _ hmark
    rw [List.flatMap_nil, List.append_nil] at hmark
    exact htext i word hmark
  | cons entry entries ih =>
    obtain ⟨name, content⟩ := entry
    have hentry := hentries _ List.mem_cons_self
    obtain ⟨outline, tail, houtlined, htail, hlead, hfragments⟩ :=
      ih (fun entry hmem => hentries entry (List.mem_cons_of_mem _ hmem))
        (separated_free hentry.free)
    have hmarked := Outlined.marker hentry.isWord hentry.isDeclared houtlined
    have hstart : startAfter atStart (text ++ [' ']) = true := by
      rw [startAfter_concat, isBlank_space]
    refine ⟨(outline.mark name.toList).prepend (text ++ [' ']), [' '], ?_, ?_, ?_, ?_⟩
    · have hsource : text ++ ((name, content) :: entries).flatMap (spelledAttr declared) =
          (text ++ [' ']) ++ (name.toList ++ ':' :: (separator declared content.toList ++
            content.toList ++ entries.flatMap (spelledAttr declared))) := by
        simp [spelledAttr]
      rw [hsource]
      refine Outlined.append ?_ (hstart.symm ▸ hmarked)
      intro i word hi hmark
      -- the space keeps the marker behind it apart from the text before it
      rw [List.append_assoc, List.singleton_append] at hmark
      rw [List.length_append] at hi
      exact htext i word (hmark.of_append isBlank_space (Nat.le_of_lt_succ hi))
    · intro c hc
      rw [List.mem_singleton.mp hc]
      exact isBlank_space
    · exact List.append_nil _
    · have hcontent : clean outline.lead = content.toList := by
        rw [hlead, clean_append htail]
        exact clean_separated hentry.solid
      rw [show ((outline.mark name.toList).prepend (text ++ [' '])).fragments =
        ⟨name.toList, outline.lead⟩ :: outline.fragments from rfl, List.map_cons, hfragments,
        Fragment.entry, hcontent]
      simp

end Spelling

/-! ## Reading a spelling -/

theorem Regular.attr {declared : List Char → Bool} {tag : Tag} (h : Regular declared tag)
    {entry : String × String} (hmem : entry ∈ tag.attrs.entries) : RegularAttr declared entry := by
  have hget : tag.get? entry.1 = some entry.2 := NameMap.get?_eq_some_iff.mpr hmem
  obtain ⟨hword, hdeclared⟩ := h.names _ _ hget
  exact ⟨hword, hdeclared, h.texts_solid _ _ hget, h.texts_free _ _ hget⟩

theorem splits_spelled {declared : List Char → Bool} {tag : Tag} (h : Regular declared tag) :
    Splits (tag.spelled declared) tag.type
      (' ' :: tag.value.toList ++ tag.attrs.entries.flatMap (spelledAttr declared)) := by
  refine ⟨tag.type.toList, ?_, .inl ⟨?_, h.type_no_colon⟩⟩
  · rw [h.type_trimmed, String.ofList_toList]
  · rw [Tag.spelled, String.toList_ofList]
    rfl

theorem read_spelled {type : TagType} {tag : Tag} (h : Regular type.declares tag)
    (data options : Bag) :
    type.read tag.type (' ' :: tag.value.toList ++
      tag.attrs.entries.flatMap (spelledAttr type.declares)) data options =
      { tag with data := data, options := options } := by
  have hvalue : ∀ i word, ¬ MarkerAt type.declares true (' ' :: tag.value.toList) i word := by
    intro i word hmark
    cases i with
    | zero => exact not_markerAt_space_zero hmark
    | succ i => exact h.value_free i word (markerAt_succ_iff.mp hmark).strengthen
  obtain ⟨outline, tail, houtlined, htail, hlead, hfragments⟩ :=
    outlined_spelled (fun _ => h.attr) hvalue
  rw [TagType.read_eq, (type.outlined _).unique houtlined, hlead, hfragments, clean_append htail,
    clean_space_of_endsSolid h.value_solid, NameMap.ofList_entries, String.ofList_toList]

theorem regular_read (type : TagType) {raw name : String} {text : List Char}
    (hsplits : Splits raw name text) (data options : Bag) :
    Regular type.declares (type.read name text data options) := by
  have houtlined := type.outlined text
  have htype := type.type_read name text data options
  have hvalue : (type.read name text data options).value.toList =
      clean (type.outline text).lead := by
    rw [TagType.read_eq, String.toList_ofList]
  have hattr : ∀ key content, (type.read name text data options).get? key = some content →
      ∃ fragment ∈ (type.outline text).fragments, fragment.word = key.toList ∧
        content.toList = clean fragment.text := by
    intro key content hget
    obtain ⟨front, body, back, hfragments, -, hcontent⟩ :=
      houtlined.lastText_iff.mp (TagType.get?_read_eq_some_iff.mp hget)
    exact ⟨⟨key.toList, body⟩, by simp [hfragments], rfl, hcontent⟩
  obtain ⟨front, rfl, hraw⟩ := hsplits
  have hfront : ':' ∉ front := by
    rcases hraw with ⟨-, h⟩ | ⟨-, h, -⟩ <;> exact h
  refine ⟨?_, ?_, ?_, ?_, ?_, ?_, ?_⟩
  · rw [htype, String.toList_ofList, trim_trim]
  · rw [htype, String.toList_ofList]
    exact fun hmem => hfront (mem_of_mem_trim hmem)
  · rw [hvalue]
    exact endsSolid_clean _
  · rw [hvalue]
    intro i word hmark
    obtain ⟨j, hmark⟩ := hmark.of_clean
    exact houtlined.lead_free j word hmark
  · intro key content hget
    obtain ⟨fragment, hmem, hword, -⟩ := hattr key content hget
    rw [← hword]
    exact houtlined.words hmem
  · intro key content hget
    obtain ⟨fragment, -, -, hcontent⟩ := hattr key content hget
    rw [hcontent]
    exact endsSolid_clean _
  · intro key content hget i word hmark
    obtain ⟨fragment, hmem, -, hcontent⟩ := hattr key content hget
    rw [hcontent] at hmark
    obtain ⟨j, hmark⟩ := hmark.of_clean
    exact houtlined.text_free hmem j word hmark

section Image

variable {registry : Registry} {name : String} {type : TagType}

theorem regular_of_parse (hlookup : registry.lookup name = some type) {raw : String}
    {data options : Bag} {tag : Tag} (h : registry.parse raw data options = .ok tag)
    (htype : tag.type = name) : Regular type.declares tag := by
  obtain ⟨found, hfound, rfl⟩ := Registry.parse_eq_ok_iff.mp h
  rw [TagType.type_read] at htype
  rw [htype, hlookup] at hfound
  cases hfound
  exact regular_read type (splits_iff.mpr ⟨rfl, rfl⟩) data options

theorem parse_spelled (hlookup : registry.lookup name = some type) {tag : Tag}
    (htype : tag.type = name) (h : Regular type.declares tag) (data options : Bag) :
    registry.parse (tag.spelled type.declares) data options =
      .ok { tag with data := data, options := options } := by
  obtain ⟨hname, htext⟩ := splits_iff.mp (splits_spelled h)
  rw [← htype, hname] at hlookup
  rw [Registry.parse_of_lookup_some hlookup, ← hname, ← htext, read_spelled h]

end Image

/-- Reading gives regular tags only and every regular tag from its spelling, so spelling a tag that
was read and reading it again gives the tag back. -/
theorem parse_image (registry : Registry) (name : String) (type : TagType)
    (hlookup : registry.lookup name = some type) :
    (∀ raw data options tag, registry.parse raw data options = .ok tag → tag.type = name →
      Regular type.declares tag) ∧
    (∀ tag data options, tag.type = name → Regular type.declares tag →
      registry.parse (tag.spelled type.declares) data options =
        .ok { tag with data := data, options := options }) ∧
    (∀ raw data options tag, registry.parse raw data options = .ok tag → tag.type = name →
      registry.parse (tag.spelled type.declares) data options = .ok tag) := by
  refine ⟨?_, ?_, ?_⟩
  · intro raw data options tag h htype
    exact regular_of_parse hlookup h htype
  · intro tag data options htype h
    exact parse_spelled hlookup htype h data options
  · intro raw data options tag h htype
    rw [parse_spelled hlookup htype (regular_of_parse hlookup h htype)]
    obtain ⟨found, -, rfl⟩ := Registry.parse_eq_ok_iff.mp h
    rw [TagType.read_eq]

/-- A text that begins like a marker, read and spelled with no space behind the colon before it. -/
theorem parse_image_glued :
    ∃ (registry : Registry) (type : TagType) (tag : Tag), registry.lookup "t" = some type ∧
      registry.parse "t: v  a:b: x b: " NameMap.empty NameMap.empty = .ok tag ∧
      tag.get? "a" = some "b: x" ∧ tag.spelled type.declares = "t: v a:b: x b: " ∧
      registry.parse "t: v a:b: x b: " NameMap.empty NameMap.empty = .ok tag := by
  let type := TagType.declare "t" ["a", "b"] none
  let registry := Registry.empty.register type
  have hlookup : registry.lookup "t" = some type := by rfl
  let tag : Tag := { type := "t", value := "v", attrs := NameMap.ofList [("a", "b: x"), ("b", "")] }
  have hparse : registry.parse "t: v  a:b: x b: " NameMap.empty NameMap.empty = .ok tag := by cbv
  have hspelled : tag.spelled type.declares = "t: v a:b: x b: " := by cbv
  refine ⟨registry, type, tag, hlookup, hparse, by cbv, hspelled, ?_⟩
  rw [← hspelled]
  exact (parse_image registry "t" type hlookup).2.2 _ _ _ _ hparse rfl

end InlineTag
