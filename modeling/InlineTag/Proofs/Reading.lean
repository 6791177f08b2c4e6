import InlineTag.Proofs.Lookups
import InlineTag.Proofs.Outlines
import InlineTag.Proofs.Trimming

/-!
# InlineTag.Proofs.Reading

What a tag is, read off its source without a scan. A source splits at its first colon into the
name of a type and a text; the markers of the text are a set of positions; the value is the text
before the first of them, and the text of an attribute is the one behind its last marker.

* `Reads`: the result of reading a source, as a relation.
* `parse_eq_iff_reads`: reading gives this result and no other.
* `TagType.read_eq`: a blank text is no special case.
-/

namespace InlineTag

open Text Toml

/-- The name and the text of a source: what stands before its first colon, trimmed, and what
stands behind it. Without a colon all of the source is the name, and the text is empty. -/
def Splits (raw name : String) (text : List Char) : Prop :=
  ∃ front, name = String.ofList (trim front) ∧
    (raw.toList = front ++ ':' :: text ∧ ':' ∉ front ∨
      raw.toList = front ∧ ':' ∉ front ∧ text = [])

/-- `value` is the text before the first marker, cleaned. -/
def LeadText (declared : List Char → Bool) (text value : List Char) : Prop :=
  ∃ stop, NextMarker declared text 0 stop ∧ Cleaned (text.take stop) value

/-- `content` is the text from the last marker with the given word up to the next marker,
cleaned. -/
def LastText (declared : List Char → Bool) (text word content : List Char) : Prop :=
  ∃ i stop, MarkerAt declared true text i word ∧
    (∀ j, MarkerAt declared true text j word → j ≤ i) ∧
    NextMarker declared text (i + 1) stop ∧
    Cleaned ((text.take stop).drop (i + word.length + 1)) content

/-- The value and the attributes of a tag are those that the markers of a text give. -/
structure ReadOff (declared : List Char → Bool) (text : List Char) (tag : Tag) : Prop where
  value : LeadText declared text tag.value.toList
  names : ∀ name, (∃ content, tag.get? name = some content) ↔
    ∃ i, MarkerAt declared true text i name.toList
  contents : ∀ name content, tag.get? name = some content ↔
    LastText declared text name.toList content.toList

/-- The result of reading a source with a table of types. -/
inductive Reads (registry : Registry) (raw : String) (data options : Bag) :
    Except TagFault Tag → Prop where
  | unknown {name : String} {text : List Char} (hsplits : Splits raw name text)
      (hnone : registry.lookup name = none) :
      Reads registry raw data options (.error (.undefinedType name))
  | known {name : String} {text : List Char} {type : TagType} {tag : Tag}
      (hsplits : Splits raw name text) (hsome : registry.lookup name = some type)
      (htype : tag.type = name) (hread : ReadOff type.declares text tag)
      (hdata : tag.data = data) (hoptions : tag.options = options) :
      Reads registry raw data options (.ok tag)

theorem splits_iff {raw name : String} {text : List Char} :
    Splits raw name text ↔ name = sourceType raw ∧ text = sourceRest raw := by
  rw [sourceType, sourceRest, splitSource]
  constructor
  · rintro ⟨front, rfl, ⟨hraw, hfront⟩ | ⟨hraw, hfront, rfl⟩⟩
    · rw [hraw, cutAt_append hfront]
      exact ⟨rfl, rfl⟩
    · rw [hraw, cutAt_none.mpr hfront]
      exact ⟨rfl, rfl⟩
  · cases hcut : cutAt ':' raw.toList with
    | none =>
      rintro ⟨rfl, rfl⟩
      exact ⟨raw.toList, rfl, .inr ⟨rfl, cutAt_none.mp hcut, rfl⟩⟩
    | some parts =>
      obtain ⟨before, after⟩ := parts
      rintro ⟨rfl, rfl⟩
      exact ⟨before, rfl, .inl (cutAt_some hcut)⟩

theorem LeadText.unique {declared : List Char → Bool} {text value value' : List Char}
    (h : LeadText declared text value) (h' : LeadText declared text value') : value = value' := by
  obtain ⟨stop, hnext, hclean⟩ := h
  obtain ⟨stop', hnext', hclean'⟩ := h'
  rw [hnext.unique hnext'] at hclean
  exact (cleaned_iff.mp hclean).trans (cleaned_iff.mp hclean').symm

theorem ReadOff.get?_eq_none_iff {declared : List Char → Bool} {text : List Char} {tag : Tag}
    (h : ReadOff declared text tag) {name : String} :
    tag.get? name = none ↔ ∀ i, ¬ MarkerAt declared true text i name.toList := by
  rw [← not_exists, ← h.names name, Option.eq_none_iff_forall_ne_some, not_exists]

/-! ## The parts of an outline -/

namespace Outlined

variable {declared : List Char → Bool} {text : List Char} {outline : Outline}

theorem leadText_iff (h : Outlined declared true text outline) {value : List Char} :
    LeadText declared text value ↔ value = clean outline.lead := by
  have hlead : text.take outline.lead.length = outline.lead := by
    rw [← h.flatten_eq]
    exact List.take_left
  constructor
  · rintro ⟨stop, hnext, hclean⟩
    rw [hnext.unique h.nextMarker_lead, hlead] at hclean
    exact cleaned_iff.mp hclean
  · rintro rfl
    exact ⟨_, h.nextMarker_lead, cleaned_iff.mpr (by rw [hlead])⟩

theorem lastText_iff (h : Outlined declared true text outline) {word content : List Char} :
    LastText declared text word content ↔
      ∃ front body back, outline.fragments = front ++ ⟨word, body⟩ :: back ∧
        (∀ fragment ∈ back, fragment.word ≠ word) ∧ content = clean body := by
  constructor
  · rintro ⟨i, stop, hmark, hlast, hnext, hclean⟩
    obtain ⟨front, body, back, hfragments, rfl⟩ := h.markerAt_iff.mp hmark
    refine ⟨front, body, back, hfragments, ?_, ?_⟩
    · -- a fragment of this word behind the last one would begin at a later marker
      intro later hmem hword
      obtain ⟨mid, rest, rfl⟩ := List.append_of_mem hmem
      rw [List.append_cons, ← List.append_assoc] at hfragments
      have hmark := h.markerAt_iff.mpr ⟨_, later.text, rest, hfragments, rfl⟩
      rw [hword] at hmark
      have hle := hlast _ hmark
      have hlt := outline.offset_lt_concat front ⟨word, body⟩
      have hmid := outline.offset_append (front ++ [⟨word, body⟩]) mid
      omega
    · rw [hnext.unique (h.nextMarker hfragments), h.segment_eq hfragments] at hclean
      exact cleaned_iff.mp hclean
  · rintro ⟨front, body, back, hfragments, hback, rfl⟩
    refine ⟨_, _, h.markerAt_iff.mpr ⟨front, body, back, hfragments, rfl⟩, ?_,
      h.nextMarker hfragments, cleaned_iff.mpr (by rw [h.segment_eq hfragments])⟩
    intro j hmark
    obtain ⟨front', body', back', hfragments', rfl⟩ := h.markerAt_iff.mp hmark
    rcases Outline.offset_le_or_mem hfragments hfragments' with hle | ⟨hmem, -⟩
    · exact hle
    · exact absurd rfl (hback _ hmem)

end Outlined

/-! ## The tag of a text -/

/-- The attribute that a fragment gives. -/
def Fragment.entry (fragment : Fragment) : String × String :=
  (String.ofList fragment.word, String.ofList (clean fragment.text))

namespace TagType

theorem outlined (type : TagType) (text : List Char) :
    Outlined type.declares true text (type.outline text) :=
  outlined_scan type.declares true text

/-- Reading a blank text without a look at its words makes no difference. -/
theorem read_eq (type : TagType) (name : String) (text : List Char) (data options : Bag) :
    type.read name text data options =
      { type := name
        value := String.ofList (clean (type.outline text).lead)
        attrs := NameMap.ofList ((type.outline text).fragments.map Fragment.entry)
        data, options } := by
  rw [read]
  split
  · rename_i hblank
    have hblank := allBlank_iff.mp hblank
    have houtlined := type.outlined text
    have hfragments : (type.outline text).fragments = [] := by
      -- a fragment would bring its colon
      refine List.eq_nil_iff_forall_not_mem.mpr fun fragment hmem => ?_
      have hcolon : ':' ∈ text := by
        rw [← houtlined.flatten_eq, Outline.flatten]
        refine List.mem_append_right _ (List.mem_flatMap.mpr ⟨fragment, hmem, ?_⟩)
        simp [Fragment.source]
      exact hblank.colon_not_mem hcolon
    have hlead : (type.outline text).lead = text := by
      have hflatten := houtlined.flatten_eq
      rwa [Outline.flatten, hfragments, List.flatMap_nil, List.append_nil] at hflatten
    rw [hfragments, hlead, clean_of_blank hblank]
    rfl
  · rfl

theorem type_read (type : TagType) (name : String) (text : List Char) (data options : Bag) :
    (type.read name text data options).type = name := by
  rw [read_eq]

theorem get?_read_eq_some_iff {type : TagType} {name : String} {text : List Char}
    {data options : Bag} {key content : String} :
    (type.read name text data options).get? key = some content ↔
      LastText type.declares text key.toList content.toList := by
  rw [read_eq, Tag.get?, NameMap.get?_ofList_eq_some_iff, (type.outlined text).lastText_iff]
  constructor
  · rintro ⟨front, back, hpairs, hback⟩
    obtain ⟨front, rest, hfragments, rfl, hrest⟩ := List.map_eq_append_iff.mp hpairs
    obtain ⟨⟨word, body⟩, back, rfl, hentry, rfl⟩ := List.map_eq_cons_iff.mp hrest
    cases hentry
    refine ⟨front, body, back, by simpa using hfragments, ?_, by simp⟩
    intro fragment hmem hword
    exact hback _ (List.mem_map_of_mem hmem) (by simp [Fragment.entry, hword])
  · rintro ⟨front, body, back, hfragments, hback, hcontent⟩
    refine ⟨front.map Fragment.entry, back.map Fragment.entry, ?_, ?_⟩
    · rw [hfragments, List.map_append, List.map_cons, Fragment.entry, ← hcontent]
      simp
    · rintro pair hmem rfl
      obtain ⟨fragment, hfragment, rfl⟩ := List.mem_map.mp hmem
      exact hback fragment hfragment (by simp [Fragment.entry])

theorem readOff_read (type : TagType) (name : String) (text : List Char) (data options : Bag) :
    ReadOff type.declares text (type.read name text data options) := by
  have houtlined := type.outlined text
  refine ⟨?_, ?_, fun key content => get?_read_eq_some_iff⟩
  · rw [houtlined.leadText_iff, read_eq]
    simp
  · intro key
    constructor
    · rintro ⟨content, h⟩
      obtain ⟨i, stop, hmark, -⟩ := get?_read_eq_some_iff.mp h
      exact ⟨i, hmark⟩
    · rintro ⟨i, hmark⟩
      obtain ⟨front, body, back, hfragments, -⟩ := houtlined.markerAt_iff.mp hmark
      refine Option.ne_none_iff_exists'.mp fun hnone => ?_
      rw [read_eq, Tag.get?, NameMap.get?_ofList_eq_none_iff] at hnone
      refine hnone _ (List.mem_map_of_mem (a := ⟨key.toList, body⟩) ?_) ?_
      · simp [hfragments]
      · simp [Fragment.entry]

end TagType

theorem ReadOff.eq_read {type : TagType} {text : List Char} {tag : Tag}
    (h : ReadOff type.declares text tag) :
    tag = type.read tag.type text tag.data tag.options := by
  have hread := type.readOff_read tag.type text tag.data tag.options
  have houtlined := type.outlined text
  have hvalue : tag.value = (type.read tag.type text tag.data tag.options).value :=
    String.toList_injective <|
      (houtlined.leadText_iff.mp h.value).trans (houtlined.leadText_iff.mp hread.value).symm
  have hattrs : tag.attrs = (type.read tag.type text tag.data tag.options).attrs := by
    refine NameMap.ext_get? fun name => Option.ext fun content => ?_
    exact (h.contents name content).trans (hread.contents name content).symm
  rw [TagType.read_eq] at hvalue hattrs ⊢
  cases tag
  cases hvalue
  cases hattrs
  rfl

theorem Registry.parse_eq_ok_iff {registry : Registry} {raw : String} {data options : Bag}
    {tag : Tag} : registry.parse raw data options = .ok tag ↔
      ∃ type, registry.lookup (sourceType raw) = some type ∧
        type.read (sourceType raw) (sourceRest raw) data options = tag := by
  rw [parse]
  cases registry.lookup (sourceType raw) with
  | none => simp
  | some type => simp

theorem reads_parse (registry : Registry) (raw : String) (data options : Bag) :
    Reads registry raw data options (registry.parse raw data options) := by
  have hsplits : Splits raw (sourceType raw) (sourceRest raw) := splits_iff.mpr ⟨rfl, rfl⟩
  cases hlookup : registry.lookup (sourceType raw) with
  | none =>
    rw [Registry.parse_of_lookup_none hlookup]
    exact .unknown hsplits hlookup
  | some type =>
    rw [Registry.parse_of_lookup_some hlookup]
    refine .known hsplits hlookup ?_ (type.readOff_read _ _ _ _) ?_ ?_
    all_goals rw [TagType.read_eq]

theorem Reads.eq_parse {registry : Registry} {raw : String} {data options : Bag}
    {result : Except TagFault Tag} (h : Reads registry raw data options result) :
    registry.parse raw data options = result := by
  obtain ⟨hname, hlookup⟩ | ⟨hname, hlookup, rfl, hread, rfl, rfl⟩ := h
  · obtain ⟨rfl, rfl⟩ := splits_iff.mp hname
    exact Registry.parse_of_lookup_none hlookup data options
  · obtain ⟨htype, rfl⟩ := splits_iff.mp hname
    rw [htype] at hlookup
    rw [Registry.parse_of_lookup_some hlookup, ← htype, ← hread.eq_read]

/-- Reading a source gives the result that its markers say, and no other. -/
theorem parse_eq_iff_reads (registry : Registry) (raw : String) (data options : Bag)
    (result : Except TagFault Tag) :
    registry.parse raw data options = result ↔ Reads registry raw data options result := by
  constructor
  · rintro rfl
    exact reads_parse registry raw data options
  · intro h
    exact h.eq_parse

end InlineTag
