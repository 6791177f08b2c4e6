import Mathlib
import InlineTag.Proofs.Configured
import InlineTag.Proofs.KeptText

/-!
# InlineTag.Proofs.Vocabulary

What a tag owes to the attributes that its type declares. Only words that stand as candidates in a
text are ever asked for, and a word that is no longer declared is absorbed, with its text, into the
segment before it.

* `CandidateAt`, `candidateAt_iff`: the words of a text that would be markers if they were declared.
* `Outline.absorb_congr`, `Outline.absorb_absorb`: absorbing asks for the words of the outline, and
  can be done in two rounds.
* `Outline.absorb_first`, `Outline.absorb_later`: what absorbing a single word does.
* `Absorbed`: what that is for a tag, told by the positions of markers.
* `parse_vocabulary`: all this for two tables of types.
-/

namespace InlineTag

open Text Toml

/-- A word begins at position `i` that is a marker if it is declared. -/
def CandidateAt (text : List Char) (i : Nat) (word : List Char) : Prop :=
  MarkerAt (fun _ => true) true text i word

/-- A text without a space at its front, if it has one there. -/
def unspaced : List Char → List Char
  | ' ' :: rest => rest
  | text => text

/-- The text of a segment from `start` that has taken in the marker at `i`: what stands before the
marker, with the white space there; the word and its colon; and what stands behind, up to `stop`. -/
def mergedText (text : List Char) (start i stop : Nat) (word : List Char) : String :=
  String.ofList (unspaced ((text.take i).drop start) ++
    (word ++ ':' :: trimEnd ((text.take stop).drop (i + word.length + 1))))

/-- The segment into which the marker at `i` goes. It is the value or the text of an attribute, and
nothing else of the tag changes. -/
inductive MergedAt (declared : List Char → Bool) (text : List Char) (i stop : Nat)
    (word : List Char) (tag tag' : Tag) : Prop where
  | value (hfirst : NextMarker declared text 0 i)
      (hvalue : tag'.value = mergedText text 0 i stop word)
      (hattrs : ∀ name, name ≠ String.ofList word → tag'.get? name = tag.get? name)
  | attribute {j : Nat} {key : List Char} (hmark : MarkerAt declared true text j key)
      (hnext : NextMarker declared text (j + 1) i) (hvalue : tag'.value = tag.value)
      (htext : tag'.get? (String.ofList key) =
        some (mergedText text (j + key.length + 1) i stop word))
      (hattrs : ∀ name, name ≠ String.ofList word → name ≠ String.ofList key →
        tag'.get? name = tag.get? name)

/-- The tag `tag'` is what becomes of `tag` when the word at position `i` is no marker any more. -/
structure Absorbed (declared : List Char → Bool) (text : List Char) (i : Nat) (word : List Char)
    (tag tag' : Tag) : Prop where
  absent : tag'.get? (String.ofList word) = none
  type_eq : tag'.type = tag.type
  data_eq : tag'.data = tag.data
  options_eq : tag'.options = tag.options
  merged : ∃ stop, NextMarker declared text (i + 1) stop ∧
    MergedAt declared text i stop word tag tag'

/-! ## Texts of merged segments -/

theorem clean_eq_trimEnd_unspaced (text : List Char) : clean text = trimEnd (unspaced text) := by
  fun_cases unspaced text with
  | case1 rest => rfl
  | case2 text hspace =>
    refine clean_of_head? fun hhead => ?_
    obtain ⟨rest, rfl⟩ := List.head?_eq_some_iff.mp hhead
    exact hspace rest rfl

theorem trimEnd_append_solid {c : Char} (hc : isBlank c = false) (front back : List Char) :
    trimEnd (front ++ c :: back) = front ++ c :: trimEnd back := by
  obtain ⟨hsolid, tail, hback, htail⟩ := trimEnd_eq_iff.mp (rfl : trimEnd back = trimEnd back)
  refine trimEnd_eq_iff.mpr ⟨(endsSolid_append (List.cons_ne_nil _ _)).mpr ?_, tail, ?_, htail⟩
  · cases hkept : trimEnd back with
    | nil =>
      intro d hd
      cases hd
      exact hc
    | cons d kept =>
      rw [hkept] at hsolid
      exact (endsSolid_cons (List.cons_ne_nil _ _)).mpr hsolid
  · rw [List.append_assoc, List.cons_append, ← hback]

/-- White space before a word is kept when the word goes into the text before it. -/
theorem clean_append_word {word : List Char} (hword : IsWord word) (front back : List Char) :
    clean (front ++ (word ++ ':' :: back)) = unspaced front ++ (word ++ ':' :: trimEnd back) := by
  have hunspaced : unspaced (front ++ (word ++ ':' :: back)) =
      unspaced front ++ (word ++ ':' :: back) := by
    fun_cases unspaced front with
    | case1 rest => rfl
    | case2 front hspace =>
      cases front with
      | cons c rest =>
        have hc : c ≠ ' ' := fun hc => hspace rest (by rw [hc])
        simp [unspaced, hc]
      | nil =>
        obtain ⟨c, rest, rfl⟩ := List.exists_cons_of_ne_nil hword.ne_nil
        have hc : c ≠ ' ' := by
          rintro rfl
          exact hword.blank_not_mem isBlank_space List.mem_cons_self
        simp [unspaced, hc]
  rw [clean_eq_trimEnd_unspaced, hunspaced, ← List.append_assoc,
    trimEnd_append_solid isBlank_colon, List.append_assoc]

/-! ## Absorbing -/

namespace Outline

section Absorbing

variable {declared other : List Char → Bool} {fragments back : List Fragment} {outline : Outline}

theorem absorbFragments_congr
    (h : ∀ fragment ∈ fragments, declared fragment.word = other fragment.word) :
    absorbFragments declared fragments = absorbFragments other fragments := by
  induction fragments with
  | nil => rfl
  | cons fragment rest ih =>
    obtain ⟨hfragment, hrest⟩ := List.forall_mem_cons.mp h
    rw [absorbFragments, absorbFragments, ih hrest, hfragment]

/-- Absorbing asks for the words of the outline and for no others. -/
theorem absorb_congr (h : ∀ word ∈ outline.words, declared word = other word) :
    outline.absorb declared = outline.absorb other := by
  have hfragments : ∀ fragment ∈ outline.fragments,
      declared fragment.word = other fragment.word :=
    fun fragment hmem => h fragment.word (List.mem_map_of_mem hmem)
  rw [absorb, absorb, absorbFragments_congr hfragments]

theorem absorbFragments_of_declared (h : ∀ fragment ∈ fragments, declared fragment.word = true) :
    absorbFragments declared fragments = ([], fragments) := by
  induction fragments with
  | nil => rfl
  | cons fragment rest ih =>
    obtain ⟨hfragment, hrest⟩ := List.forall_mem_cons.mp h
    rw [absorbFragments, ih hrest]
    simp [hfragment]

theorem absorb_of_declared (h : ∀ fragment ∈ outline.fragments, declared fragment.word = true) :
    outline.absorb declared = outline := by
  rw [absorb, absorbFragments_of_declared h]
  simp

theorem absorbFragments_absorbFragments (declared other : List Char → Bool)
    (fragments : List Fragment) :
    absorbFragments (fun word => declared word && other word) fragments =
      ((absorbFragments declared fragments).1 ++
          (absorbFragments other (absorbFragments declared fragments).2).1,
        (absorbFragments other (absorbFragments declared fragments).2).2) := by
  induction fragments with
  | nil => rfl
  | cons fragment rest ih =>
    rw [absorbFragments, absorbFragments, ih]
    cases hdeclared : declared fragment.word with
    | false => simp
    | true =>
      cases hother : other fragment.word <;>
        simp [absorbFragments, hother, Fragment.source]

/-- Words can be absorbed in two rounds. -/
theorem absorb_absorb (outline : Outline) (declared other : List Char → Bool) :
    (outline.absorb declared).absorb other =
      outline.absorb fun word => declared word && other word := by
  rw [absorb, absorb, absorb, absorbFragments_absorbFragments]
  simp

/-- A first word that is not declared goes into the lead. -/
theorem absorb_first {word text : List Char}
    (hfragments : outline.fragments = ⟨word, text⟩ :: back) (hword : declared word = false)
    (hback : ∀ fragment ∈ back, declared fragment.word = true) :
    outline.absorb declared = ⟨outline.lead ++ (word ++ ':' :: text), back⟩ := by
  rw [absorb, hfragments]
  simp [absorbFragments, absorbFragments_of_declared hback, hword, Fragment.source]

/-- Any other goes into the text of the fragment before it. -/
theorem absorb_later {word text : List Char} {front : List Fragment} {last : Fragment}
    (hfragments : outline.fragments = front ++ last :: ⟨word, text⟩ :: back)
    (hfront : ∀ fragment ∈ front, declared fragment.word = true)
    (hlast : declared last.word = true) (hword : declared word = false)
    (hback : ∀ fragment ∈ back, declared fragment.word = true) :
    outline.absorb declared = ⟨outline.lead,
      front ++ ⟨last.word, last.text ++ (word ++ ':' :: text)⟩ :: back⟩ := by
  have hall : absorbFragments declared (front ++ last :: ⟨word, text⟩ :: back) =
      ([], front ++ ⟨last.word, last.text ++ (word ++ ':' :: text)⟩ :: back) := by
    clear hfragments
    induction front with
    | nil =>
      simp [absorbFragments, absorbFragments_of_declared hback, hlast, hword, Fragment.source]
    | cons fragment front ih =>
      obtain ⟨hfragment, hfront⟩ := List.forall_mem_cons.mp hfront
      rw [List.cons_append, absorbFragments, ih hfront]
      simp [hfragment]
  rw [absorb, hfragments, hall]
  simp

end Absorbing

theorem offset_nil (outline : Outline) : outline.offset [] = outline.lead.length := by
  simp [offset, flatten]

end Outline

/-! ## Candidates -/

/-- The outline of a text is what is left of it when every word is declared. -/
theorem outlined_ofText (text : List Char) :
    Outlined (fun _ => true) true text (Outline.ofText text) := by
  have houtlined := outlined_scan (fun _ => true) true text
  rwa [Outline.absorb_of_declared fun _ _ => rfl] at houtlined

theorem candidateAt_iff {text : List Char} {i : Nat} {word : List Char} :
    CandidateAt text i word ↔ ⟨i, word⟩ ∈ (Outline.ofText text).markers :=
  (outlined_ofText text).mem_markers_iff.symm

theorem candidateAt_of_mem_words {text word : List Char} (h : word ∈ (Outline.ofText text).words) :
    ∃ i, CandidateAt text i word := by
  obtain ⟨⟨found, body⟩, hmem, rfl⟩ := List.mem_map.mp h
  obtain ⟨front, back, hfragments⟩ := List.append_of_mem hmem
  exact ⟨_, (outlined_ofText text).markerAt_iff.mpr ⟨front, body, back, hfragments, rfl⟩⟩

/-! ## Two types and one text -/

namespace TagType

variable {type other : TagType} {text word : List Char}

theorem declares_declare {name : String} {attributes : List String} {handler : Option Handler} :
    (declare name attributes handler).declares word = true ↔ String.ofList word ∈ attributes := by
  rw [declares, hasAttribute, List.contains_iff_mem]
  exact mem_firstOccurrences

/-- Types that agree on the candidates of a text give it one outline. -/
theorem outline_congr
    (h : ∀ i word, CandidateAt text i word → type.declares word = other.declares word) :
    type.outline text = other.outline text := by
  refine Outline.absorb_congr fun word hword => ?_
  obtain ⟨i, hcandidate⟩ := candidateAt_of_mem_words hword
  exact h i word hcandidate

/-- If only one candidate is declared no more, it is absorbed from the outline as it was. -/
theorem outline_without (hword : other.declares word = false)
    (h : ∀ i candidate, CandidateAt text i candidate → candidate ≠ word →
      type.declares candidate = other.declares candidate) :
    other.outline text = (type.outline text).absorb (· != word) := by
  rw [outline, outline, Outline.absorb_absorb]
  refine Outline.absorb_congr fun candidate hcandidate => ?_
  obtain ⟨i, hcandidate⟩ := candidateAt_of_mem_words hcandidate
  by_cases heq : candidate = word
  · simp [heq, hword]
  · simp [heq, h i candidate hcandidate heq]

/-- The tag of a text, read attribute by attribute. -/
theorem get?_read (type : TagType) (name : String) (text : List Char) (data options : Bag)
    (key : String) : (type.read name text data options).get? key =
      (NameMap.ofList ((type.outline text).fragments.map Fragment.entry)).get? key := by
  rw [read_eq, Tag.get?]

theorem get?_entries_eq_none {fragments : List Fragment}
    (h : ∀ fragment ∈ fragments, fragment.word ≠ word) :
    (NameMap.ofList (fragments.map Fragment.entry)).get? (String.ofList word) = none := by
  rw [NameMap.get?_ofList_eq_none_iff]
  rintro pair hpair heq
  obtain ⟨fragment, hfragment, rfl⟩ := List.mem_map.mp hpair
  exact h fragment hfragment (String.ofList_injective heq)

/-- The word is gone, and but for the segment it went into the tags of one text are the same. -/
theorem absorbed_of_merged {i stop : Nat} {name : String} {data options : Bag}
    (habsent : ∀ fragment ∈ (other.outline text).fragments, fragment.word ≠ word)
    (hstop : NextMarker type.declares text (i + 1) stop)
    (hmerged : MergedAt type.declares text i stop word (type.read name text data options)
      (other.read name text data options)) :
    Absorbed type.declares text i word (type.read name text data options)
      (other.read name text data options) where
  absent := by rw [get?_read, get?_entries_eq_none habsent]
  type_eq := by rw [type_read, type_read]
  data_eq := by rw [read_eq, read_eq]
  options_eq := by rw [read_eq, read_eq]
  merged := ⟨stop, hstop, hmerged⟩

/-- The case in which no marker stands before the absorbed one. -/
theorem absorbed_read_first {body : List Char} {back : List Fragment}
    (hfragments : (type.outline text).fragments = [] ++ ⟨word, body⟩ :: back)
    (hwithout : other.outline text = (type.outline text).absorb (· != word))
    (hnodup : (type.outline text).words.Nodup) (name : String) (data options : Bag) :
    Absorbed type.declares text ((type.outline text).offset []) word
      (type.read name text data options) (other.read name text data options) := by
  have houtlined := type.outlined text
  have hlead := houtlined.take_offset hfragments
  have hsegment := houtlined.segment_eq hfragments
  have hword := (houtlined.words (hfragments ▸ List.mem_append_right [] List.mem_cons_self)).1
  have hfirst : NextMarker type.declares text 0 ((type.outline text).offset []) := by
    rw [Outline.offset_nil]
    exact houtlined.nextMarker_lead
  have hback : ∀ fragment ∈ back, fragment.word ≠ word := by
    rw [Outline.words, hfragments, List.nil_append, List.map_cons, List.nodup_cons] at hnodup
    intro fragment hmem heq
    exact hnodup.1 (List.mem_map.mpr ⟨fragment, hmem, heq⟩)
  have habsorbed : other.outline text =
      ⟨(type.outline text).lead ++ (word ++ ':' :: body), back⟩ := by
    rw [hwithout]
    exact Outline.absorb_first hfragments (bne_self_eq_false word) fun fragment hmem =>
      bne_iff_ne.mpr (hback fragment hmem)
  refine absorbed_of_merged ?_ (houtlined.nextMarker hfragments) (.value hfirst ?_ ?_)
  · rw [habsorbed]
    exact hback
  · rw [read_eq, habsorbed, mergedText, hsegment, List.drop_zero, hlead, Outline.flatten,
      List.flatMap_nil, List.append_nil, clean_append_word hword]
  · intro key hkey
    rw [get?_read, get?_read, habsorbed, hfragments, List.nil_append, List.map_cons,
      NameMap.get?_ofList_cons, Fragment.entry, if_neg hkey, Option.or_none]

/-- The case in which a marker stands before the absorbed one. -/
theorem absorbed_read_later {body : List Char} {front back : List Fragment} {last : Fragment}
    (hfragments : (type.outline text).fragments = front ++ last :: ⟨word, body⟩ :: back)
    (hwithout : other.outline text = (type.outline text).absorb (· != word))
    (hnodup : (type.outline text).words.Nodup) (name : String) (data options : Bag) :
    Absorbed type.declares text ((type.outline text).offset (front ++ [last])) word
      (type.read name text data options) (other.read name text data options) := by
  have houtlined := type.outlined text
  have hbehind : (type.outline text).fragments = (front ++ [last]) ++ ⟨word, body⟩ :: back := by
    simp [hfragments]
  have hsegment := houtlined.segment_eq hbehind
  have hlast := houtlined.segment_eq hfragments
  have hmark := houtlined.markerAt_iff.mpr ⟨front, last.text, _, hfragments, rfl⟩
  have hword := (houtlined.words (hbehind ▸ List.mem_append_right _ List.mem_cons_self)).1
  rw [Outline.words, hfragments] at hnodup
  simp only [List.map_append, List.map_cons, List.nodup_append, List.nodup_cons, List.mem_map,
    List.mem_cons] at hnodup
  have hfront : ∀ fragment ∈ front, fragment.word ≠ word := by grind
  have hback : ∀ fragment ∈ back, fragment.word ≠ word := by grind
  have hlastword : last.word ≠ word := by grind
  have hbacklast : ∀ fragment ∈ back, fragment.word ≠ last.word := by grind
  have habsorbed : other.outline text = ⟨(type.outline text).lead,
      front ++ ⟨last.word, last.text ++ (word ++ ':' :: body)⟩ :: back⟩ := by
    rw [hwithout]
    exact Outline.absorb_later hfragments
      (fun fragment hmem => bne_iff_ne.mpr (hfront fragment hmem)) (bne_iff_ne.mpr hlastword)
      (bne_self_eq_false word) fun fragment hmem => bne_iff_ne.mpr (hback fragment hmem)
  refine absorbed_of_merged ?_ (houtlined.nextMarker hbehind)
    (.attribute hmark (houtlined.nextMarker hfragments) ?_ ?_ ?_)
  · rw [habsorbed]
    simp only [List.mem_append, List.mem_cons]
    rintro fragment (hmem | rfl | hmem)
    · exact hfront fragment hmem
    · exact hlastword
    · exact hback fragment hmem
  · rw [read_eq, read_eq, habsorbed]
  · rw [get?_read, habsorbed, List.map_append, List.map_cons, NameMap.get?_ofList_append,
      NameMap.get?_ofList_cons, get?_entries_eq_none hbacklast, mergedText, hsegment, hlast]
    simp [Fragment.entry, clean_append_word hword]
  · intro key hkey hkey'
    rw [get?_read, get?_read, habsorbed, hfragments]
    simp only [List.map_append, List.map_cons, NameMap.get?_ofList_append,
      NameMap.get?_ofList_cons, Fragment.entry, if_neg hkey, if_neg hkey', Option.or_none]

/-- What becomes of a tag when a word that marks one place of its text is declared no more. -/
theorem absorbed_read {i : Nat} (hmark : MarkerAt type.declares true text i word)
    (honce : ∀ key j k, MarkerAt type.declares true text j key →
      MarkerAt type.declares true text k key → j = k)
    (hword : other.declares word = false)
    (hothers : ∀ j candidate, CandidateAt text j candidate → candidate ≠ word →
      type.declares candidate = other.declares candidate) (name : String) (data options : Bag) :
    Absorbed type.declares text i word (type.read name text data options)
      (other.read name text data options) := by
  have hnodup := (type.outlined text).words_nodup honce
  have hwithout := outline_without hword hothers
  obtain ⟨front, body, back, hfragments, rfl⟩ := (type.outlined text).markerAt_iff.mp hmark
  rcases List.eq_nil_or_concat front with rfl | ⟨front, last, rfl⟩
  · exact absorbed_read_first hfragments hwithout hnodup name data options
  · rw [List.concat_eq_append] at hfragments ⊢
    rw [List.append_assoc, List.singleton_append] at hfragments
    exact absorbed_read_later hfragments hwithout hnodup name data options

end TagType

/-- A tag depends on the attributes of its type only through the candidates of the text. Types that
agree on all of them give the same tag. If they agree on all but one, which is a marker for the
first type and not declared by the second, and if no marker of the first comes twice, then that
marker is absorbed: its attribute is gone, the segment before it takes in the text from the word on,
with the white space before it, and all else in the tag is the same. -/
theorem parse_vocabulary (registry registry' : Registry) (raw : String) (data options : Bag)
    (type type' : TagType) (attributes attributes' : List String)
    (handler handler' : Option Handler)
    (htype : type = TagType.declare (sourceType raw) attributes handler)
    (htype' : type' = TagType.declare (sourceType raw) attributes' handler')
    (hlookup : registry.lookup (sourceType raw) = some type)
    (hlookup' : registry'.lookup (sourceType raw) = some type') :
    ∃ tag tag', registry.parse raw data options = .ok tag ∧
      registry'.parse raw data options = .ok tag' ∧
      ((∀ i word, CandidateAt (sourceRest raw) i word →
          (String.ofList word ∈ attributes ↔ String.ofList word ∈ attributes')) →
        tag' = tag) ∧
      ∀ i dropped, MarkerAt type.declares true (sourceRest raw) i dropped →
        (∀ word j k, MarkerAt type.declares true (sourceRest raw) j word →
          MarkerAt type.declares true (sourceRest raw) k word → j = k) →
        String.ofList dropped ∉ attributes' →
        (∀ j word, CandidateAt (sourceRest raw) j word → word ≠ dropped →
          (String.ofList word ∈ attributes ↔ String.ofList word ∈ attributes')) →
        Absorbed type.declares (sourceRest raw) i dropped tag tag' := by
  have hagree : ∀ word, (String.ofList word ∈ attributes ↔ String.ofList word ∈ attributes') →
      type.declares word = type'.declares word := by
    intro word h
    rw [Bool.eq_iff_iff, htype, htype', TagType.declares_declare, TagType.declares_declare, h]
  refine ⟨_, _, Registry.parse_of_lookup_some hlookup data options,
    Registry.parse_of_lookup_some hlookup' data options, ?_, ?_⟩
  · intro h
    rw [TagType.read_eq, TagType.read_eq,
      TagType.outline_congr fun i word hcandidate => hagree word (h i word hcandidate)]
  · intro i dropped hmark honce hdropped hothers
    have hundeclared : type'.declares dropped = false := by
      rw [← Bool.not_eq_true, htype', TagType.declares_declare]
      exact hdropped
    exact TagType.absorbed_read hmark honce hundeclared
      (fun j word hcandidate hne => hagree word (hothers j word hcandidate hne)) _ data options

/-- A list in another order, with a repetition and a name that no text asks for; and one in which
the name is missing that marks the text behind a run of white space. -/
theorem parse_vocabulary_dropped :
    ∃ (type type' : TagType) (registry registry' : Registry) (tag tag' : Tag),
      registry.lookup "t" = some type ∧ registry'.lookup "t" = some type' ∧
      type.attributes = ["b", "n", "a"] ∧ type'.attributes = ["a", "d", "b"] ∧
      registry.parse "t: v c:1 a:  y \tn: z\tb: u" NameMap.empty NameMap.empty = .ok tag ∧
      tag.attrs = NameMap.ofList [("a", " y"), ("n", "z"), ("b", "u")] ∧
      registry'.parse "t: v c:1 a:  y \tn: z\tb: u" NameMap.empty NameMap.empty = .ok tag' ∧
      tag'.attrs = NameMap.ofList [("a", " y \tn: z"), ("b", "u")] ∧
      Absorbed type.declares (sourceRest "t: v c:1 a:  y \tn: z\tb: u") 14 ['n'] tag tag' := by
  let raw := "t: v c:1 a:  y \tn: z\tb: u"
  let type := TagType.declare "t" ["b", "n", "a"] none
  let type' := TagType.declare "t" ["a", "d", "a", "b"] none
  let registry := Registry.empty.register type
  let registry' := Registry.empty.register type'
  have hname : sourceType raw = "t" := by cbv
  have hlookup : registry.lookup (sourceType raw) = some type := by cbv
  have hlookup' : registry'.lookup (sourceType raw) = some type' := by cbv
  obtain ⟨tag, tag', hparse, hparse', -, habsorbed⟩ := parse_vocabulary registry registry' raw
    NameMap.empty NameMap.empty type type' ["b", "n", "a"] ["a", "d", "a", "b"] none none
    (by rw [hname]) (by rw [hname]) hlookup hlookup'
  have hmarkers : (type.outline (sourceRest raw)).markers =
      [⟨7, ['a']⟩, ⟨14, ['n']⟩, ⟨19, ['b']⟩] := by cbv
  have hcandidates : (Outline.ofText (sourceRest raw)).markers =
      [⟨3, ['c']⟩, ⟨7, ['a']⟩, ⟨14, ['n']⟩, ⟨19, ['b']⟩] := by cbv
  refine ⟨type, type', registry, registry', tag, tag', by rfl, by rfl, by rfl, by rfl, hparse, ?_,
    hparse', ?_, habsorbed 14 ['n'] ?_ ?_ (by decide) ?_⟩
  · have hread : registry.parse raw NameMap.empty NameMap.empty = .ok
        { type := "t", value := "v c:1",
          attrs := NameMap.ofList [("a", " y"), ("n", "z"), ("b", "u")] } := by
      cbv
    rw [hread] at hparse
    cases hparse
    rfl
  · have hread : registry'.parse raw NameMap.empty NameMap.empty = .ok
        { type := "t", value := "v c:1",
          attrs := NameMap.ofList [("a", " y \tn: z"), ("b", "u")] } := by
      cbv
    rw [hread] at hparse'
    cases hparse'
    rfl
  · rw [← (type.outlined _).mem_markers_iff, hmarkers]
    simp
  · intro word j k hj hk
    rw [← (type.outlined _).mem_markers_iff, hmarkers] at hj hk
    simp only [List.mem_cons, List.not_mem_nil, or_false, Marker.mk.injEq] at hj hk
    grind
  · intro j word hcandidate hne
    rw [candidateAt_iff, hcandidates] at hcandidate
    simp only [List.mem_cons, List.not_mem_nil, or_false, Marker.mk.injEq] at hcandidate
    rcases hcandidate with ⟨-, rfl⟩ | ⟨-, rfl⟩ | ⟨-, rfl⟩ | ⟨-, rfl⟩
    · decide
    · decide
    · exact absurd rfl hne
    · decide

end InlineTag
