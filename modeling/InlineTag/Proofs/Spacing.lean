import Mathlib
import InlineTag.Proofs.Seams

/-!
# InlineTag.Proofs.Spacing

Where white space makes no difference in a source, and the one place where a space does.

* `TagType.contents_gap`: before a marker one stretch of white space is as good as another.
* `TagType.contents_space`, `TagType.contents_space_behind`: a space behind a colon is as good as
  none, unless a declared word with a colon stands directly behind it.
* `TagType.markers_space_behind`: there the space brings up one marker more.
* `parse_spacing`: all this for sources.
-/

namespace InlineTag

open Text Toml

/-! ## Sources cut at their first colon -/

/-- The source with the given texts before and behind its first colon. -/
def sourceOf (front text : List Char) : String :=
  String.ofList (front ++ ':' :: text)

theorem splits_sourceOf {front : List Char} (h : ':' ∉ front) (text : List Char) :
    Splits (sourceOf front text) (String.ofList (trim front)) text :=
  ⟨front, rfl, .inl ⟨String.toList_ofList, h⟩⟩

/-- Without a colon all of a source is its name. -/
theorem splits_bare {raw : List Char} (h : ':' ∉ raw) :
    Splits (String.ofList raw) (String.ofList (trim raw)) [] :=
  ⟨raw, rfl, .inr ⟨String.toList_ofList, h, rfl⟩⟩

section Sources

variable {registry : Registry} {data options : Bag} {raw raw' name : String}
  {text text' front : List Char}

/-- Sources of one type with texts of the same contents are read alike. -/
theorem parse_eq_of_contents (h : Splits raw name text) (h' : Splits raw' name text')
    (hcontents : ∀ type, registry.lookup name = some type →
      (type.outline text).contents = (type.outline text').contents) :
    registry.parse raw data options = registry.parse raw' data options := by
  obtain ⟨hname, rfl⟩ := splits_iff.mp h
  obtain ⟨hname', rfl⟩ := splits_iff.mp h'
  rw [Registry.parse, Registry.parse, ← hname, ← hname']
  cases hlookup : registry.lookup name with
  | none => rfl
  | some type => simp only [TagType.read_eq_tag, hcontents type hlookup]

theorem parse_eq_of_lookup {type : TagType} (hfront : ':' ∉ front)
    (hlookup : registry.lookup (String.ofList (trim front)) = some type)
    (hcontents : (type.outline text).contents = (type.outline text').contents) :
    registry.parse (sourceOf front text) data options =
      registry.parse (sourceOf front text') data options := by
  refine parse_eq_of_contents (splits_sourceOf hfront text) (splits_sourceOf hfront text') ?_
  intro found hfound
  rw [hlookup] at hfound
  cases hfound
  exact hcontents

/-- White space at the ends of a source makes no difference. -/
theorem parse_surrounded {blank raw blank' : List Char} (hblank : Blank blank)
    (hblank' : Blank blank') :
    registry.parse (String.ofList (blank ++ raw ++ blank')) data options =
      registry.parse (String.ofList raw) data options := by
  by_cases hcolon : ':' ∈ raw
  · obtain ⟨front, text, rfl, hfront⟩ := List.eq_append_cons_of_mem hcolon
    have hname : trim (blank ++ front) = trim front := by
      have htrim := trim_surrounded hblank front (List.forall_mem_nil _)
      rwa [List.append_nil] at htrim
    have hmore : ':' ∉ blank ++ front := by simp [hfront, hblank.colon_not_mem]
    have hsplits := splits_sourceOf hmore (text ++ blank')
    rw [hname, sourceOf] at hsplits
    rw [show blank ++ (front ++ ':' :: text) ++ blank' = blank ++ front ++ ':' :: (text ++ blank') by
      simp]
    exact parse_eq_of_contents hsplits (splits_sourceOf hfront text) fun type _ =>
      type.contents_append_blank text hblank'
  · have hmore : ':' ∉ blank ++ raw ++ blank' := by
      simp [hcolon, hblank.colon_not_mem, hblank'.colon_not_mem]
    refine parse_eq_of_contents (splits_bare hmore) ?_ fun type _ => rfl
    rw [trim_surrounded hblank raw hblank']
    exact splits_bare hcolon

end Sources

/-! ## A space in front -/

namespace Outline

variable {outline : Outline}

theorem contents_push_space (h : outline.lead.head? ≠ some ' ') :
    (outline.push ' ').contents = outline.contents := by
  rw [contents, contents, push, clean_of_head? h]
  rfl

theorem contents_mark_push_space (h : outline.lead.head? ≠ some ' ') (word : List Char) :
    ((outline.push ' ').mark word).contents = (outline.mark word).contents := by
  simp only [contents, mark, push, List.map_cons, Fragment.entry, clean_space, clean_of_head? h]

end Outline

namespace Outlined

variable {declared : List Char → Bool} {atStart : Bool} {text : List Char} {outline : Outline}

theorem push_blank {c : Char} (hc : isBlank c = true) (h : Outlined declared true text outline) :
    Outlined declared atStart (c :: text) (outline.push c) :=
  .plain (fun _ => not_markerAt_blank_zero hc) (hc ▸ h)

/-- A text and its lead begin alike, if the lead is not empty. -/
theorem head?_lead_ne (h : Outlined declared atStart text outline) {c : Char}
    (hhead : text.head? ≠ some c) : outline.lead.head? ≠ some c := by
  rw [← h.flatten_eq, Outline.flatten] at hhead
  cases hlead : outline.lead with
  | nil => simp
  | cons d lead => rwa [hlead] at hhead

end Outlined

namespace TagType

variable {type : TagType} {front text word : List Char}

/-- A space in front of a text that begins with none is not part of the contents. -/
theorem contents_space (h : text.head? ≠ some ' ') :
    (type.outline (' ' :: text)).contents = (type.outline text).contents := by
  have houtlined := type.outlined text
  rw [(type.outlined _).unique (houtlined.push_blank isBlank_space)]
  exact Outline.contents_push_space (houtlined.head?_lead_ne h)

/-! ## At a marker -/

/-- One stretch of white space before a marker is as good as another. -/
theorem contents_gap {gap gap' after : List Char} (hgap : Blank gap) (hne : gap ≠ [])
    (hgap' : Blank gap') (hne' : gap' ≠ []) (hword : IsWord word)
    (hdeclared : type.declares word = true) :
    (type.outline (front ++ gap ++ (word ++ ':' :: after))).contents =
      (type.outline (front ++ gap' ++ (word ++ ':' :: after))).contents := by
  have hafter := outlined_scan type.declares false after
  rw [outline_append_marker (startAfter_append_blank hgap hne) hword hdeclared hafter,
    outline_append_marker (startAfter_append_blank hgap' hne') hword hdeclared hafter,
    Outline.contents_join_mark, Outline.contents_join_mark, type.contents_append_blank front hgap,
    type.contents_append_blank front hgap']

/-- So is a space behind a marker, when none and no declared word with a colon stands there. -/
theorem contents_space_behind (hstart : startAfter true front = true) (hword : IsWord word)
    (hdeclared : type.declares word = true) (hhead : text.head? ≠ some ' ')
    (hnone : ∀ other, ¬ MarkerAt type.declares true text 0 other) :
    (type.outline (front ++ (word ++ ':' :: ' ' :: text))).contents =
      (type.outline (front ++ (word ++ ':' :: text))).contents := by
  have htext := type.outlined text
  have hspaced := outline_append_marker hstart hword hdeclared (htext.push_blank isBlank_space)
  have htight := outline_append_marker hstart hword hdeclared (htext.of_not_markerAt_zero hnone)
  rw [hspaced, htight, Outline.contents_join_mark, Outline.contents_join_mark,
    Outline.contents_mark_push_space (htext.head?_lead_ne hhead)]

end TagType

/-! ## Lists of markers -/

/-- The marker, one character further on. -/
def Marker.shift (marker : Marker) : Marker :=
  { marker with start := marker.start + 1 }

namespace Outline

theorem markersFrom_succ (start : Nat) (fragments : List Fragment) :
    markersFrom (start + 1) fragments = (markersFrom start fragments).map Marker.shift := by
  induction fragments generalizing start with
  | nil => rfl
  | cons fragment rest ih =>
    rw [markersFrom, markersFrom, List.map_cons, ← ih, Nat.add_right_comm]
    rfl

theorem markers_join_mark (front back : Outline) (word : List Char) :
    (front.join (back.mark word)).markers =
      front.markers ++ ⟨front.flatten.length, word⟩ ::
        markersFrom (front.flatten.length + word.length + 1 + back.lead.length) back.fragments := by
  have hlength : front.lead.length + (front.fragments.flatMap Fragment.source).length =
      front.flatten.length := List.length_append.symm
  rw [join_mark, markers, markersFrom_append, markersFrom, hlength]
  simp [Fragment.source, markers, Nat.add_assoc, Nat.add_comm, Nat.add_left_comm]

end Outline

/-- A space between the colon of a marker and a declared word with a colon brings up one marker
more, which is this word. -/
theorem TagType.markers_space_behind {type : TagType} {front word other after : List Char}
    (hstart : startAfter true front = true) (hword : IsWord word)
    (hdeclared : type.declares word = true) (hother : IsWord other)
    (hother' : type.declares other = true) :
    ∃ before behind,
      (type.outline (front ++ (word ++ ':' :: (other ++ ':' :: after)))).markers =
        before ++ ⟨front.length, word⟩ :: behind ∧
      (type.outline (front ++ (word ++ ':' :: ' ' :: (other ++ ':' :: after)))).markers =
        before ++ ⟨front.length, word⟩ :: ⟨front.length + word.length + 2, other⟩ ::
          behind.map Marker.shift := by
  have hafter := outlined_scan type.declares false after
  have htight := outline_append_marker hstart hword hdeclared (hafter.append_word hother (.inl rfl))
  have hmarked := Outlined.marker hother hother' hafter
  have hspaced := outline_append_marker hstart hword hdeclared (hmarked.push_blank isBlank_space)
  have hfront : (type.outline front).flatten = front := (type.outlined front).flatten_eq
  rw [htight, hspaced, Outline.markers_join_mark, Outline.markers_join_mark, hfront]
  refine ⟨_, _, rfl, ?_⟩
  rw [← Outline.markersFrom_succ]
  simp only [Outline.push, Outline.mark, Outline.prepend, Outline.markersFrom, Fragment.source,
    List.length_append, List.length_cons, List.length_nil, zero_add, List.append_assoc,
    List.cons_append, List.nil_append]
  rw [Nat.add_right_comm (front.length + word.length + 1) 1]

theorem MarkerAt.behind_front {declared : List Char → Bool} {front back word : List Char}
    (h : MarkerAt declared true (front ++ back) front.length word) :
    startAfter true front = true ∧ MarkerAt declared true back 0 word := by
  have hback : MarkerAt declared (startAfter true front) back 0 word := markerAt_append_iff.mp h
  exact ⟨hback.starts, hback.strengthen⟩

/-- Where white space makes no difference in a source: at its ends and before its first colon; in
place of other white space before a marker; as a space between the first colon and a text that does
not begin with one; and as a space between the colon of a marker and such a text, if no declared word
with a colon stands there. If one does, the space makes it a marker, one more than there were. -/
theorem parse_spacing (registry : Registry) (data options : Bag) :
    (∀ blank raw blank' : List Char, Blank blank → Blank blank' →
      registry.parse (String.ofList (blank ++ raw ++ blank')) data options =
        registry.parse (String.ofList raw) data options) ∧
    (∀ front gap text : List Char, ':' ∉ front → Blank gap →
      registry.parse (sourceOf (front ++ gap) text) data options =
        registry.parse (sourceOf front text) data options) ∧
    (∀ (front : List Char) (type : TagType) (before gap gap' behind word : List Char),
      ':' ∉ front → registry.lookup (String.ofList (trim front)) = some type →
      Blank gap → gap ≠ [] → Blank gap' → gap' ≠ [] →
      MarkerAt type.declares true (before ++ gap ++ behind) (before ++ gap).length word →
      registry.parse (sourceOf front (before ++ gap ++ behind)) data options =
        registry.parse (sourceOf front (before ++ gap' ++ behind)) data options) ∧
    (∀ front text : List Char, ':' ∉ front → text.head? ≠ some ' ' →
      registry.parse (sourceOf front (' ' :: text)) data options =
        registry.parse (sourceOf front text) data options) ∧
    (∀ (front : List Char) (type : TagType) (before word text : List Char),
      ':' ∉ front → registry.lookup (String.ofList (trim front)) = some type →
      MarkerAt type.declares true (before ++ (word ++ ':' :: text)) before.length word →
      text.head? ≠ some ' ' →
      ((∀ other, ¬ MarkerAt type.declares true text 0 other) →
        registry.parse (sourceOf front (before ++ (word ++ ':' :: ' ' :: text))) data options =
          registry.parse (sourceOf front (before ++ (word ++ ':' :: text))) data options) ∧
      (∀ other, MarkerAt type.declares true text 0 other →
        ∃ earlier later,
          (type.outline (before ++ (word ++ ':' :: text))).markers =
            earlier ++ ⟨before.length, word⟩ :: later ∧
          (type.outline (before ++ (word ++ ':' :: ' ' :: text))).markers =
            earlier ++ ⟨before.length, word⟩ :: ⟨before.length + word.length + 2, other⟩ ::
              later.map Marker.shift)) := by
  refine ⟨fun blank raw blank' => parse_surrounded, ?_, ?_, ?_, ?_⟩
  · intro front gap text hfront hgap
    have hmore : ':' ∉ front ++ gap := by simp [hfront, hgap.colon_not_mem]
    have htrim := trim_surrounded (List.forall_mem_nil _) front hgap
    rw [List.nil_append] at htrim
    refine parse_eq_of_contents (splits_sourceOf hmore text) ?_ fun type _ => rfl
    rw [htrim]
    exact splits_sourceOf hfront text
  · intro front type before gap gap' behind word hfront hlookup hgap hne hgap' hne' hmark
    obtain ⟨hword, hdeclared, -, after, rfl⟩ := hmark.behind_front.2
    exact parse_eq_of_lookup hfront hlookup
      (TagType.contents_gap hgap hne hgap' hne' hword hdeclared)
  · intro front text hfront hhead
    exact parse_eq_of_contents (splits_sourceOf hfront _) (splits_sourceOf hfront _) fun type _ =>
      type.contents_space hhead
  · intro front type before word text hfront hlookup hmark hhead
    obtain ⟨hstart, hword, hdeclared, -, -⟩ := hmark.behind_front
    constructor
    · intro hnone
      exact parse_eq_of_lookup hfront hlookup
        (TagType.contents_space_behind hstart hword hdeclared hhead hnone)
    · intro other hother
      obtain ⟨hother, hother', -, after, rfl⟩ := hother
      exact TagType.markers_space_behind hstart hword hdeclared hother hother'

/-- All white space of a source changed, one stretch after the other, and the space that makes a
marker of a glued word. -/
theorem parse_spacing_stretches :
    ∃ (registry : Registry) (type : TagType), registry.lookup "t" = some type ∧
      registry.parse "\tt : v\n a: x " NameMap.empty NameMap.empty =
        registry.parse "t:v a:x" NameMap.empty NameMap.empty ∧
      (type.outline " v a:b: x".toList).markers = [⟨3, ['a']⟩] ∧
      (type.outline " v a: b: x".toList).markers = [⟨3, ['a']⟩, ⟨6, ['b']⟩] := by
  let type := TagType.declare "t" ["a", "b"] none
  let registry := Registry.empty.register type
  have hlookup : registry.lookup "t" = some type := by rfl
  have hname : ':' ∉ ['t'] := by decide
  have ha : IsWord ['a'] := ⟨by decide, List.all_eq_true.mp rfl⟩
  have hb : IsWord ['b'] := ⟨by decide, List.all_eq_true.mp rfl⟩
  have hglued : MarkerAt type.declares true " v a:b: x".toList 3 ['a'] :=
    ⟨ha, by decide, ⟨' ', rfl, rfl⟩, "b: x".toList, rfl⟩
  have hbroken : MarkerAt type.declares true "v\n a: x".toList 3 ['a'] :=
    ⟨ha, by decide, ⟨' ', rfl, rfl⟩, " x".toList, rfl⟩
  have hspaced : MarkerAt type.declares true "v a:x".toList 2 ['a'] :=
    ⟨ha, by decide, ⟨' ', rfl, rfl⟩, ['x'], rfl⟩
  have hplain : ∀ other, ¬ MarkerAt type.declares true ['x'] 0 other :=
    (outlined_scan _ _ _).fragments_eq_nil_iff.mp (by cbv) 0
  have hfirst : MarkerAt type.declares true "b: x".toList 0 ['b'] :=
    ⟨hb, by decide, rfl, " x".toList, rfl⟩
  obtain ⟨hends, hcolon, hgap, hspace, hmarker⟩ := parse_spacing registry NameMap.empty NameMap.empty
  refine ⟨registry, type, hlookup, ?_, ?_⟩
  · calc registry.parse "\tt : v\n a: x " NameMap.empty NameMap.empty
        = registry.parse "t : v\n a: x" NameMap.empty NameMap.empty :=
          hends ['\t'] "t : v\n a: x".toList [' '] (allBlank_iff.mp rfl) (allBlank_iff.mp rfl)
      _ = registry.parse "t: v\n a: x" NameMap.empty NameMap.empty :=
          hcolon ['t'] [' '] " v\n a: x".toList hname (allBlank_iff.mp rfl)
      _ = registry.parse "t:v\n a: x" NameMap.empty NameMap.empty :=
          hspace ['t'] "v\n a: x".toList hname (by decide)
      _ = registry.parse "t:v a: x" NameMap.empty NameMap.empty :=
          hgap ['t'] type ['v'] ['\n', ' '] [' '] "a: x".toList ['a'] hname hlookup
            (allBlank_iff.mp rfl) (by decide) (allBlank_iff.mp rfl) (by decide) hbroken
      _ = registry.parse "t:v a:x" NameMap.empty NameMap.empty :=
          (hmarker ['t'] type "v ".toList ['a'] ['x'] hname hlookup hspaced (by decide)).1 hplain
  · obtain ⟨earlier, later, htight, hloose⟩ :=
      (hmarker ['t'] type " v ".toList ['a'] "b: x".toList hname hlookup hglued (by decide)).2
        ['b'] hfirst
    have hone : (type.outline " v a:b: x".toList).markers = [⟨3, ['a']⟩] := by cbv
    refine ⟨hone, ?_⟩
    rcases List.append_eq_singleton_iff.mp (htight.symm.trans hone) with ⟨rfl, hlater⟩ | ⟨-, hnil⟩
    · cases hlater
      exact hloose
    · cases hnil

end InlineTag
