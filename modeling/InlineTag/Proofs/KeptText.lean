import Mathlib
import InlineTag.Proofs.Seams

/-!
# InlineTag.Proofs.KeptText

No text of a source is dropped. The value and the texts of the attributes are stretches of the
text behind the first colon; what stands between them is the words of the markers, their colons and
white space. Only a marker that comes again takes the place of a text.

* `Cleaned.count_eq`, `Cleaned.infix_text`: cleaning drops white space, at the ends alone.
* `Outlined.words_nodup`: words that are marked once are words of different fragments.
* `Contents.count_tag`, `TagType.count_contents`: what is counted in a tag and in its text.
* `TagType.count_read_le`: nothing comes into a tag that its text does not have, repeated or not.
* `parse_keeps_text`: all this for a source.
-/

namespace InlineTag

open Text Toml

/-! ## Cleaned texts -/

section Cleaned

variable {text kept : List Char} {c : Char}

theorem Text.Blank.count_eq_zero (h : Blank text) (hc : isBlank c = false) :
    text.count c = 0 := by
  refine List.count_eq_zero.mpr fun hmem => ?_
  rw [h c hmem] at hc
  cases hc

/-- Cleaning keeps all but white space. -/
theorem Cleaned.count_eq (h : Cleaned text kept) (hc : isBlank c = false) :
    kept.count c = text.count c := by
  obtain ⟨-, tail, htail, rfl | ⟨-, rfl⟩⟩ := h
  · have hspace : Blank [' '] := allBlank_iff.mp rfl
    rw [← List.singleton_append, List.count_append, List.count_append, htail.count_eq_zero hc,
      hspace.count_eq_zero hc, Nat.zero_add, Nat.add_zero]
  · rw [List.count_append, htail.count_eq_zero hc, Nat.add_zero]

/-- Cleaning leaves the inside of a text as it is. -/
theorem Cleaned.infix_text (h : Cleaned text kept) : kept <:+: text := by
  obtain ⟨-, tail, -, rfl | ⟨-, rfl⟩⟩ := h
  · exact ⟨[' '], tail, rfl⟩
  · exact (List.prefix_append kept tail).isInfix

theorem clean_infix_text (text : List Char) : clean text <:+: text :=
  (cleaned_iff.mpr rfl).infix_text

theorem count_clean (text : List Char) (hc : isBlank c = false) :
    (clean text).count c = text.count c :=
  (cleaned_iff.mpr rfl).count_eq hc

end Cleaned

/-! ## Outlines -/

/-- Words that are marked at one place each are the words of different fragments. -/
theorem Outlined.words_nodup {declared : List Char → Bool} {atStart : Bool} {text : List Char}
    {outline : Outline} (h : Outlined declared atStart text outline)
    (honce : ∀ word i j, MarkerAt declared atStart text i word →
      MarkerAt declared atStart text j word → i = j) : outline.words.Nodup := by
  refine List.pairwise_map.mpr (List.pairwise_iff_forall_sublist.mpr ?_)
  intro first second hsublist heq
  obtain ⟨front, back, hfragments, hfirst, hsecond⟩ := List.cons_sublist_iff.mp hsublist
  obtain ⟨front, mid, rfl⟩ := List.append_of_mem hfirst
  obtain ⟨mid', back, rfl⟩ := List.append_of_mem (List.singleton_sublist.mp hsecond)
  -- the second of two fragments with one word begins behind the first
  have hbefore : outline.fragments = front ++ first :: (mid ++ (mid' ++ second :: back)) := by
    simp [hfragments]
  have hbehind : outline.fragments = (front ++ [first] ++ (mid ++ mid')) ++ second :: back := by
    simp [hfragments]
  have hlt := outline.offset_lt_concat front first
  have hle := outline.offset_append (front ++ [first]) (mid ++ mid')
  have hsame := honce first.word _ _ (h.markerAt_iff.mpr ⟨front, first.text, _, hbefore, rfl⟩)
    (h.markerAt_iff.mpr ⟨_, second.text, back, by rw [heq]; exact hbehind, rfl⟩)
  omega

namespace Outline

theorem count_flatten (outline : Outline) (c : Char) :
    outline.flatten.count c = outline.lead.count c +
      (outline.fragments.map fun fragment => fragment.source.count c).sum := by
  rw [flatten, List.count_append, List.count_flatMap]
  rfl

theorem lead_infix_flatten (outline : Outline) : outline.lead <:+: outline.flatten :=
  (List.prefix_append outline.lead _).isInfix

theorem text_infix_flatten {outline : Outline} {fragment : Fragment}
    (h : fragment ∈ outline.fragments) : fragment.text <:+: outline.flatten := by
  obtain ⟨front, back, hfragments⟩ := List.append_of_mem h
  refine ⟨outline.lead ++ front.flatMap Fragment.source ++ fragment.word ++ [':'],
    back.flatMap Fragment.source, ?_⟩
  simp [flatten, hfragments, Fragment.source]

end Outline

/-! ## Tags -/

/-- How often a character occurs in an attribute: in its name, in a colon, and in its text. -/
def attrCount (c : Char) (attr : String × String) : Nat :=
  attr.1.toList.count c + [':'].count c + attr.2.toList.count c

/-- How often a character occurs in the value of a tag and in its attributes. -/
def Tag.count (tag : Tag) (c : Char) : Nat :=
  tag.value.toList.count c + (tag.attrs.entries.map (attrCount c)).sum

theorem Fragment.attrCount_entry (fragment : Fragment) {c : Char} (hc : isBlank c = false) :
    attrCount c fragment.entry = fragment.source.count c := by
  have hsource : fragment.source = fragment.word ++ [':'] ++ fragment.text := by simp [source]
  rw [attrCount, entry, String.toList_ofList, String.toList_ofList, count_clean fragment.text hc,
    hsource, List.count_append, List.count_append]

/-- Of attributes with different names a tag has every one. -/
theorem Contents.count_tag {contents : Contents} (h : (contents.entries.map (·.1)).Nodup)
    (name : String) (data options : Bag) (c : Char) :
    (contents.tag name data options).count c =
      contents.value.count c + (contents.entries.map (attrCount c)).sum := by
  rw [Tag.count, tag, String.toList_ofList, ((NameMap.entries_ofList_perm h).map _).sum_eq]

/-- A tag has no attribute twice, so nothing in it is counted twice. -/
theorem Contents.count_tag_le (contents : Contents) (name : String) (data options : Bag)
    (c : Char) :
    (contents.tag name data options).count c ≤
      contents.value.count c + (contents.entries.map (attrCount c)).sum := by
  have hsubset : (NameMap.ofList contents.entries).entries ⊆ contents.entries := by
    rintro ⟨key, text⟩ hmem
    obtain ⟨front, back, hentries, -⟩ :=
      NameMap.get?_ofList_eq_some_iff.mp (NameMap.get?_eq_some_iff.mpr hmem)
    simp [hentries]
  obtain ⟨kept, hperm, hsublist⟩ := (NameMap.entries_nodup _).subperm hsubset
  rw [Tag.count, tag, String.toList_ofList, ← (hperm.map _).sum_eq]
  exact Nat.add_le_add_left ((hsublist.map _).sum_le_sum fun _ _ => Nat.zero_le _) _

namespace TagType

variable {type : TagType} {text : List Char}

theorem count_contents (type : TagType) (text : List Char) {c : Char} (hc : isBlank c = false) :
    (type.outline text).contents.value.count c +
        ((type.outline text).contents.entries.map (attrCount c)).sum = text.count c := by
  have hentries : (type.outline text).fragments.map (attrCount c ∘ Fragment.entry) =
      (type.outline text).fragments.map fun fragment => fragment.source.count c :=
    List.map_congr_left fun fragment _ => fragment.attrCount_entry hc
  rw [Outline.contents, List.map_map, hentries, count_clean _ hc, ← Outline.count_flatten,
    (type.outlined text).flatten_eq]

/-- Nothing but white space is more often in a tag than in its text. -/
theorem count_read_le (type : TagType) (name : String) (text : List Char) (data options : Bag)
    {c : Char} (hc : isBlank c = false) :
    (type.read name text data options).count c ≤ text.count c := by
  rw [read_eq_tag, ← type.count_contents text hc]
  exact Contents.count_tag_le _ name data options c

theorem names_contents_nodup (h : (type.outline text).words.Nodup) :
    ((type.outline text).contents.entries.map (·.1)).Nodup := by
  have hnames : (type.outline text).contents.entries.map (·.1) =
      (type.outline text).words.map String.ofList := by
    simp [Outline.contents, Outline.words, Fragment.entry]
  rw [hnames]
  exact h.map fun _ _ => String.ofList_injective

theorem value_infix_text (type : TagType) (name : String) (text : List Char)
    (data options : Bag) : (type.read name text data options).value.toList <:+: text := by
  rw [read_eq, String.toList_ofList]
  have hlead := (clean_infix_text _).trans (type.outline text).lead_infix_flatten
  rwa [(type.outlined text).flatten_eq] at hlead

theorem attr_infix_text {name : String} {data options : Bag} {key content : String}
    (h : (type.read name text data options).get? key = some content) :
    content.toList <:+: text := by
  rw [read_eq, Tag.get?, NameMap.get?_ofList_eq_some_iff] at h
  obtain ⟨front, back, hentries, -⟩ := h
  have hmem : (key, content) ∈ (type.outline text).fragments.map Fragment.entry := by
    simp [hentries]
  obtain ⟨fragment, hfragment, hentry⟩ := List.mem_map.mp hmem
  cases hentry
  have htext := (clean_infix_text _).trans (Outline.text_infix_flatten hfragment)
  rwa [(type.outlined text).flatten_eq, ← String.toList_ofList (l := clean fragment.text)] at htext

end TagType

/-- The value of a tag and the texts of its attributes are stretches of what stands behind the first
colon. Nothing but white space is more often in the tag than there, and nothing else is left out when
no marker comes twice. -/
theorem parse_keeps_text (registry : Registry) (raw : String) (type : TagType)
    (data options : Bag) (hlookup : registry.lookup (sourceType raw) = some type) :
    ∃ tag, registry.parse raw data options = .ok tag ∧
      tag.value.toList <:+: sourceRest raw ∧
      (∀ name text, tag.get? name = some text → text.toList <:+: sourceRest raw) ∧
      (∀ c, isBlank c = false → tag.count c ≤ (sourceRest raw).count c) ∧
      ((∀ word i j, MarkerAt type.declares true (sourceRest raw) i word →
          MarkerAt type.declares true (sourceRest raw) j word → i = j) →
        ∀ c, isBlank c = false → (sourceRest raw).count c = tag.count c) := by
  refine ⟨_, Registry.parse_of_lookup_some hlookup data options, type.value_infix_text _ _ _ _,
    fun name text => TagType.attr_infix_text, fun c => type.count_read_le _ _ _ _, ?_⟩
  intro honce c hc
  have hnames := TagType.names_contents_nodup ((type.outlined _).words_nodup honce)
  rw [type.read_eq_tag, Contents.count_tag hnames, type.count_contents _ hc]

/-- An undeclared word goes with the value, and a glued one with the text of its attribute. -/
theorem parse_keeps_text_absorbed :
    ∃ (registry : Registry) (type : TagType) (tag : Tag),
      registry.lookup (sourceType "t: é x: u a:ß b:a:d ") = some type ∧
      registry.parse "t: é x: u a:ß b:a:d " NameMap.empty NameMap.empty = .ok tag ∧
      tag.value = "é x: u" ∧ tag.get? "b" = some "a:d" ∧
      "a:d".toList <:+: sourceRest "t: é x: u a:ß b:a:d " ∧
      tag.count ':' = (sourceRest "t: é x: u a:ß b:a:d ").count ':' := by
  let type := TagType.declare "t" ["a", "b"] none
  let registry := Registry.empty.register type
  have hlookup : registry.lookup (sourceType "t: é x: u a:ß b:a:d ") = some type := by cbv
  obtain ⟨tag, hparse, -, hattrs, -, hcount⟩ := parse_keeps_text registry "t: é x: u a:ß b:a:d "
    type NameMap.empty NameMap.empty hlookup
  have hread : registry.parse "t: é x: u a:ß b:a:d " NameMap.empty NameMap.empty =
      .ok { type := "t", value := "é x: u", attrs := NameMap.ofList [("a", "ß"), ("b", "a:d")] } := by
    cbv
  have hb : tag.get? "b" = some "a:d" := by
    rw [hread] at hparse
    cases hparse
    cbv
  refine ⟨registry, type, tag, hlookup, hparse, ?_, hb, hattrs _ _ hb, ?_⟩
  · rw [hread] at hparse
    cases hparse
    rfl
  · refine (hcount ?_ ':' (by decide)).symm
    have hmarkers : (type.outline (sourceRest "t: é x: u a:ß b:a:d ")).markers =
        [⟨8, ['a']⟩, ⟨12, ['b']⟩] := by cbv
    intro word i j hi hj
    rw [← (type.outlined _).mem_markers_iff, hmarkers] at hi hj
    simp only [List.mem_cons, List.not_mem_nil, or_false, Marker.mk.injEq] at hi hj
    grind

end InlineTag
