import Mathlib
import InlineTag.Proofs.Pipelines
import InlineTag.Proofs.Vocabulary

/-!
# InlineTag.Proofs.Notices

What the log is given while a source is read and shown. The candidates of the text behind the first
colon are of two kinds: those that the type does not declare are reported one by one, as they stand,
and those that it declares are counted, each word once.

* `Candidates`: all candidates of a text, from left to right.
* `TagType.markers_outline`: the markers that a tag is read off are the declared candidates.
* `NameMap.size_ofList`: the map of a list has an entry for each different name.
* `Told`: the notices about a source, as a relation with one rule for each way that reading can go.
* `parseAndRenderEvents_told`: reading and showing report this and nothing else.
-/

namespace InlineTag

open Text Toml

/-- What the log is given about an event. -/
structure Notice where
  level : Level
  message : String
  fields : List Field

def Event.notice (event : Event) : Notice :=
  ⟨event.level, event.message, event.fields⟩

/-- All candidates of a text, each once and from left to right. -/
structure Candidates (text : List Char) (candidates : List Marker) : Prop where
  ordered : candidates.Pairwise fun first second => first.start < second.start
  mem_iff : ∀ i word, ⟨i, word⟩ ∈ candidates ↔ CandidateAt text i word

/-- The candidates whose words are not declared. -/
def undeclared (declared : List Char → Bool) (candidates : List Marker) : List Marker :=
  candidates.filter fun candidate => !declared candidate.word

/-- The different words among the declared candidates. -/
def declaredWords (declared : List Char → Bool) (candidates : List Marker) : List (List Char) :=
  ((candidates.filter fun candidate => declared candidate.word).map (·.word)).dedup

/-- The last notice about a source of a known type: whether its tag could be shown. -/
inductive Closes (name : String) : Except TagFault String → Notice → Prop where
  | rendering (shown : String) :
      Closes name (.ok shown) ⟨.debug, "rendering tag", [⟨"tag_type", name, true⟩]⟩
  | noHandler (fault : TagFault) :
      Closes name (.error fault) ⟨.debug, "no render handler available", [⟨"tag_type", name, true⟩]⟩

/-- The notices about reading a source and showing its tag. -/
inductive Told (registry : Registry) (raw : String) (data options : Bag) : List Notice → Prop where
  | unknown {name : String} {text : List Char} (hsplits : Splits raw name text)
      (hnone : registry.lookup name = none) : Told registry raw data options []
  | blank {name : String} {text : List Char} {type : TagType} {last : Notice}
      (hsplits : Splits raw name text) (hsome : registry.lookup name = some type)
      (hblank : Blank text)
      (hlast : Closes name (registry.parseAndRender raw data options) last) :
      Told registry raw data options
        [⟨.debug, "parsed tag with empty remainder", [⟨"tag_type", name, true⟩]⟩, last]
  | read {name : String} {text : List Char} {type : TagType} {tag : Tag}
      {candidates : List Marker} {last : Notice} (hsplits : Splits raw name text)
      (hsome : registry.lookup name = some type) (hsolid : ¬ Blank text)
      (hreads : Reads registry raw data options (.ok tag))
      (hcandidates : Candidates text candidates)
      (hlast : Closes name (registry.parseAndRender raw data options) last) :
      Told registry raw data options <|
        ((undeclared type.declares candidates).map fun candidate =>
          ⟨.trace, "absorbing undeclared attribute marker",
            [⟨"fragment", String.ofList candidate.word, true⟩]⟩) ++
        [⟨.debug, "parsed tag",
          [⟨"tag_type", name, true⟩, ⟨"value", tag.value, false⟩,
            ⟨"attributes", toString (declaredWords type.declares candidates).length, false⟩]⟩, last]

/-- The map of a list has an entry for each different name. -/
theorem NameMap.size_ofList {α : Type*} (pairs : List (String × α)) :
    (ofList pairs).size = (pairs.map (·.1)).dedup.length := by
  have hperm : (ofList pairs).names.Perm (pairs.map (·.1)).dedup := by
    refine (List.perm_ext_iff_of_nodup (names_nodup _) (List.nodup_dedup _)).mpr fun name => ?_
    rw [List.mem_dedup, mem_names_ofList_iff]
  rw [← hperm.length_eq, names, List.length_map, size]

/-! ## Candidates -/

theorem candidates_markers (text : List Char) : Candidates text (Outline.ofText text).markers :=
  ⟨Outline.markersFrom_ordered _ _, fun _ _ => candidateAt_iff.symm⟩

namespace Candidates

variable {text : List Char} {candidates : List Marker}

theorem eq_markers (h : Candidates text candidates) :
    candidates = (Outline.ofText text).markers := by
  refine eq_of_ordered h.ordered (Outline.markersFrom_ordered _ _) ?_
  rintro ⟨i, word⟩
  rw [h.mem_iff, candidateAt_iff]

/-- The words that are reported stand in the outline as they do in the text. -/
theorem words_undeclared (h : Candidates text candidates) (declared : List Char → Bool) :
    (Outline.ofText text).words.filter (fun word => !declared word) =
      (undeclared declared candidates).map (·.word) := by
  rw [h.eq_markers, undeclared, Outline.words, ← Outline.map_word_markersFrom, List.filter_map]
  rfl

end Candidates

namespace TagType

variable {type : TagType} {text : List Char} {candidates : List Marker}

/-- The markers that a tag is read off are the declared candidates. -/
theorem markers_outline (type : TagType) (h : Candidates text candidates) :
    (type.outline text).markers = candidates.filter fun candidate => type.declares candidate.word := by
  refine eq_of_ordered (Outline.markersFrom_ordered _ _) (h.ordered.filter _) ?_
  rintro ⟨i, word⟩
  rw [(type.outlined text).mem_markers_iff, List.mem_filter, h.mem_iff]
  constructor
  · rintro ⟨hword, hdeclared, hstarts, hstands⟩
    exact ⟨⟨hword, rfl, hstarts, hstands⟩, hdeclared⟩
  · rintro ⟨⟨hword, -, hstarts, hstands⟩, hdeclared⟩
    exact ⟨hword, hdeclared, hstarts, hstands⟩

/-- A tag has an attribute for each different word among the declared candidates. -/
theorem size_attrs_read (type : TagType) (h : Candidates text candidates) (name : String)
    (data options : Bag) :
    (type.read name text data options).attrs.size =
      (declaredWords type.declares candidates).length := by
  have hnames : ((type.outline text).fragments.map Fragment.entry).map (·.1) =
      ((type.outline text).markers.map (·.word)).map String.ofList := by
    rw [Outline.markers, Outline.map_word_markersFrom, List.map_map, List.map_map]
    rfl
  rw [read_eq, NameMap.size_ofList, hnames,
    List.dedup_map_of_injective fun _ _ => String.ofList_injective, List.length_map,
    type.markers_outline h, declaredWords]

end TagType

/-! ## What is reported -/

theorem Closes.unique {name : String} {result : Except TagFault String} {last last' : Notice}
    (h : Closes name result last) (h' : Closes name result last') : last = last' := by
  cases h with
  | rendering => cases h'; rfl
  | noHandler => cases h'; rfl

/-- Different lists of notices cannot be told of one source. -/
theorem Told.unique {registry : Registry} {raw : String} {data options : Bag}
    {notices notices' : List Notice} (h : Told registry raw data options notices)
    (h' : Told registry raw data options notices') : notices = notices' := by
  cases h with
  | unknown hsplits hnone =>
    obtain ⟨rfl, rfl⟩ := splits_iff.mp hsplits
    cases h' with
    | unknown => rfl
    | blank hsplits' hsome' | read hsplits' hsome' =>
      rw [(splits_iff.mp hsplits').1, hnone] at hsome'
      cases hsome'
  | blank hsplits hsome hblank hlast =>
    obtain ⟨rfl, rfl⟩ := splits_iff.mp hsplits
    cases h' with
    | unknown hsplits' hnone' =>
      rw [(splits_iff.mp hsplits').1, hsome] at hnone'
      cases hnone'
    | blank hsplits' _ _ hlast' =>
      obtain ⟨rfl, rfl⟩ := splits_iff.mp hsplits'
      rw [hlast.unique hlast']
    | read hsplits' _ hsolid' => exact absurd ((splits_iff.mp hsplits').2 ▸ hblank) hsolid'
  | read hsplits hsome hsolid hreads hcandidates hlast =>
    obtain ⟨rfl, rfl⟩ := splits_iff.mp hsplits
    cases h' with
    | unknown hsplits' hnone' =>
      rw [(splits_iff.mp hsplits').1, hsome] at hnone'
      cases hnone'
    | blank hsplits' _ hblank' => exact absurd ((splits_iff.mp hsplits').2 ▸ hblank') hsolid
    | read hsplits' hsome' _ hreads' hcandidates' hlast' =>
      obtain ⟨rfl, rfl⟩ := splits_iff.mp hsplits'
      have htags := hreads.eq_parse.symm.trans hreads'.eq_parse
      cases htags
      cases hsome.symm.trans hsome'
      rw [hcandidates.eq_markers, hcandidates'.eq_markers, hlast.unique hlast']

namespace Registry

variable {registry : Registry} {raw : String} {data options : Bag} {type : TagType} {tag : Tag}
  {candidates : List Marker}

theorem parseEvents_of_blank (hlookup : registry.lookup (sourceType raw) = some type)
    (hblank : Blank (sourceRest raw)) :
    registry.parseEvents raw = [.parsedBlank (sourceType raw)] := by
  simp only [parseEvents, hlookup, allBlank_iff.mpr hblank, if_true]

theorem parseEvents_of_solid (hlookup : registry.lookup (sourceType raw) = some type)
    (hsolid : ¬ Blank (sourceRest raw)) (hcandidates : Candidates (sourceRest raw) candidates)
    (hparse : registry.parse raw data options = .ok tag) :
    registry.parseEvents raw =
      ((undeclared type.declares candidates).map fun candidate =>
        .absorbed (String.ofList candidate.word)) ++
      [.parsed (sourceType raw) tag.value (declaredWords type.declares candidates).length] := by
  rw [parse_of_lookup_some hlookup] at hparse
  cases hparse
  simp only [parseEvents, hlookup, mt allBlank_iff.mp hsolid, hcandidates.words_undeclared,
    type.size_attrs_read hcandidates, TagType.type_read, List.map_map]
  rw [TagType.read_eq, TagType.read_eq]
  rfl

theorem exists_renderEvents (registry : Registry) (tag : Tag) :
    ∃ event, registry.renderEvents tag = [event] ∧
      Closes tag.type (registry.render tag) event.notice := by
  rw [renderEvents, render]
  cases registry.handler? tag.type with
  | none => exact ⟨_, rfl, .noHandler _⟩
  | some handler => exact ⟨_, rfl, .rendering _⟩

theorem told_events (registry : Registry) (raw : String) (data options : Bag) :
    Told registry raw data options
      ((registry.parseAndRenderEvents raw data options).map Event.notice) := by
  have hsplits : Splits raw (sourceType raw) (sourceRest raw) := splits_iff.mpr ⟨rfl, rfl⟩
  cases hlookup : registry.lookup (sourceType raw) with
  | none =>
    rw [parseAndRenderEvents, parseEvents, hlookup, parse_of_lookup_none hlookup]
    exact .unknown hsplits hlookup
  | some type =>
    have hparse := parse_of_lookup_some hlookup data options
    obtain ⟨last, hevents, hlast⟩ := registry.exists_renderEvents
      (type.read (sourceType raw) (sourceRest raw) data options)
    rw [TagType.type_read, ← parseAndRender_of_ok hparse] at hlast
    rw [parseAndRenderEvents, hparse]
    dsimp only
    rw [hevents]
    by_cases hblank : Blank (sourceRest raw)
    · rw [parseEvents_of_blank hlookup hblank]
      exact .blank hsplits hlookup hblank hlast
    · have hcandidates := candidates_markers (sourceRest raw)
      have hreads := reads_parse registry raw data options
      rw [hparse] at hreads
      rw [parseEvents_of_solid hlookup hblank hcandidates hparse, List.map_append, List.map_append,
        List.map_map, List.append_assoc]
      exact .read hsplits hlookup hblank hreads hcandidates hlast

end Registry

/-- Reading a source and showing its tag report, in this order: each undeclared candidate of the
text, as often as it stands there; the tag, with the number of different declared candidates; and
whether the tag could be shown. Of a blank text there is no candidate to report, and of an unknown
type nothing at all. So every candidate is either reported as absorbed or one of the markers that
the tag is read off. -/
theorem parseAndRenderEvents_told (registry : Registry) (raw : String) (data options : Bag)
    (notices : List Notice) :
    ((registry.parseAndRenderEvents raw data options).map Event.notice = notices ↔
      Told registry raw data options notices) ∧
    ∀ (type : TagType) (text : List Char), ∃ candidates, Candidates text candidates ∧
      candidates.Perm (undeclared type.declares candidates ++ (type.outline text).markers) := by
  refine ⟨⟨?_, ?_⟩, ?_⟩
  · rintro rfl
    exact registry.told_events raw data options
  · intro htold
    exact (registry.told_events raw data options).unique htold
  · intro type text
    have hcandidates := candidates_markers text
    refine ⟨_, hcandidates, ?_⟩
    rw [type.markers_outline hcandidates, undeclared]
    exact (List.perm_append_comm.trans (List.filter_append_perm _ _)).symm

/-- A word that is absorbed twice, one that is glued to a marker, and a marker that comes again. -/
example : (Registry.empty.register (.declare "t" ["a", "b"] none)).parseAndRenderEvents
    "t: x: a:b: a:1 x:\u3000b:2" NameMap.empty NameMap.empty =
      [.absorbed "x", .absorbed "x", .parsed "t" "x:" 2, .noHandler "t"] := by
  cbv

end InlineTag
