import InlineTag.Proofs.Configured
import InlineTag.Proofs.Placeholders
import InlineTag.Proofs.Reading

/-!
# InlineTag.Proofs.ConfigRendering

Rendering a source by a configuration, read off the entry of the source's type.

* `TypeConfig.TagShows`, `TypeConfig.SourceShows`: what stands in the place of a name, told by a tag
  and told by the markers of the text that the tag is read from.
* `Config.Renders`: the result of rendering, as a relation.
* `Config.render_determined`: rendering gives this result and no other, and it depends on nothing
  but the entry.
-/

namespace InlineTag

open Text Toml

namespace TypeConfig

/-- What a tag of the type shows in the place of a name. -/
inductive TagShows (type : TypeConfig) (tag : Tag) : String → String → Prop where
  | type : TagShows type tag "type" tag.type
  | value : TagShows type tag "value" tag.value
  | present {word shown : String} (htype : word ≠ "type") (hvalue : word ≠ "value")
      (hmem : word ∈ type.attributes) (hget : tag.get? word = some shown) :
      TagShows type tag word shown
  | fallback {word shown : String} (htype : word ≠ "type") (hvalue : word ≠ "value")
      (hmem : word ∈ type.attributes) (hget : tag.get? word = none)
      (hdefault : type.defaults.get? word = some shown) : TagShows type tag word shown
  | absent {word : String} (htype : word ≠ "type") (hvalue : word ≠ "value")
      (hmem : word ∈ type.attributes) (hget : tag.get? word = none)
      (hdefault : type.defaults.get? word = none) : TagShows type tag word ""

/-- What a source shows in the place of a name, when it asks for the type as `name` and goes on with
`text`. A marker without a text behind it shows the empty text, and not the default. -/
inductive SourceShows (type : TypeConfig) (name : String) (text : List Char) :
    String → String → Prop where
  | type : SourceShows type name text "type" name
  | value {shown : String} (hlead : LeadText type.declares text shown.toList) :
      SourceShows type name text "value" shown
  | present {word shown : String} (htype : word ≠ "type") (hvalue : word ≠ "value")
      (hmem : word ∈ type.attributes)
      (hlast : LastText type.declares text word.toList shown.toList) :
      SourceShows type name text word shown
  | fallback {word shown : String} (htype : word ≠ "type") (hvalue : word ≠ "value")
      (hmem : word ∈ type.attributes)
      (hnone : ∀ i, ¬ MarkerAt type.declares true text i word.toList)
      (hdefault : type.defaults.get? word = some shown) : SourceShows type name text word shown
  | absent {word : String} (htype : word ≠ "type") (hvalue : word ≠ "value")
      (hmem : word ∈ type.attributes)
      (hnone : ∀ i, ¬ MarkerAt type.declares true text i word.toList)
      (hdefault : type.defaults.get? word = none) : SourceShows type name text word ""

/-- Two entries that differ at most in how often and in which order they list their attributes. -/
structure Agrees (type other : TypeConfig) : Prop where
  template : type.template = other.template
  defaults : type.defaults = other.defaults
  attributes : ∀ word, word ∈ type.attributes ↔ word ∈ other.attributes

end TypeConfig

/-- The result of rendering a source. -/
inductive Config.Renders (config : Config) (raw : String) : Except TagFault String → Prop where
  | unknown {name : String} {text : List Char} (hsplits : Splits raw name text)
      (hnone : config.types.get? name = none) : Renders config raw (.error (.undefinedType name))
  | bare {name : String} {text : List Char} {type : TypeConfig} (hsplits : Splits raw name text)
      (hsome : config.types.get? name = some type) (htemplate : type.template = none) :
      Renders config raw (.error (.noHandler name))
  | filled {name template output : String} {text : List Char} {type : TypeConfig}
      (hsplits : Splits raw name text) (hsome : config.types.get? name = some type)
      (htemplate : type.template = some template)
      (hfilled : Filled (type.SourceShows name text) template.toList output.toList) :
      Renders config raw (.ok output)

namespace TypeConfig

variable {type other : TypeConfig} {tag : Tag} {name word shown template : String}
  {text : List Char}

/-! ## What stands in the place of a name -/

theorem shows_iff_tagShows :
    (type.templateOf template).Shows tag word shown ↔ type.TagShows tag word shown := by
  rw [Template.Shows, Template.resolve, templateOf]
  constructor
  · intro h
    split at h
    · rename_i htype
      cases h
      subst htype
      exact .type
    · rename_i htype
      split at h
      · rename_i hvalue
        cases h
        subst hvalue
        exact .value
      · rename_i hvalue
        split at h
        · rename_i hmem
          rw [Tag.attr, Option.some_inj] at h
          subst h
          cases hget : tag.get? word with
          | some shown => exact .present htype hvalue hmem hget
          | none =>
            cases hdefault : type.defaults.get? word with
            | some shown => exact .fallback htype hvalue hmem hget hdefault
            | none => exact .absent htype hvalue hmem hget hdefault
        · cases h
  · intro h
    cases h with
    | type => rfl
    | value => rfl
    | present htype hvalue hmem hget =>
      rw [if_neg htype, if_neg hvalue, if_pos hmem, Tag.attr, hget, Option.getD_some]
    | fallback htype hvalue hmem hget hdefault =>
      rw [if_neg htype, if_neg hvalue, if_pos hmem, Tag.attr, hget, hdefault, Option.getD_none,
        Option.getD_some]
    | absent htype hvalue hmem hget hdefault =>
      rw [if_neg htype, if_neg hvalue, if_pos hmem, Tag.attr, hget, hdefault, Option.getD_none,
        Option.getD_none]

theorem tagShows_iff_sourceShows (htype : tag.type = name)
    (hread : ReadOff type.declares text tag) :
    type.TagShows tag word shown ↔ type.SourceShows name text word shown := by
  constructor
  · intro h
    cases h with
    | type => exact htype ▸ .type
    | value => exact .value hread.value
    | present htype hvalue hmem hget =>
      exact .present htype hvalue hmem ((hread.contents _ _).mp hget)
    | fallback htype hvalue hmem hget hdefault =>
      exact .fallback htype hvalue hmem (hread.get?_eq_none_iff.mp hget) hdefault
    | absent htype hvalue hmem hget hdefault =>
      exact .absent htype hvalue hmem (hread.get?_eq_none_iff.mp hget) hdefault
  · intro h
    cases h with
    | type => exact htype ▸ .type
    | value hlead =>
      have hshown : shown = tag.value := String.toList_injective (hlead.unique hread.value)
      exact hshown ▸ .value
    | present htype hvalue hmem hlast =>
      exact .present htype hvalue hmem ((hread.contents _ _).mpr hlast)
    | fallback htype hvalue hmem hnone hdefault =>
      exact .fallback htype hvalue hmem (hread.get?_eq_none_iff.mpr hnone) hdefault
    | absent htype hvalue hmem hnone hdefault =>
      exact .absent htype hvalue hmem (hread.get?_eq_none_iff.mpr hnone) hdefault

/-! ## Entries that agree -/

theorem Agrees.symm (h : type.Agrees other) : other.Agrees type :=
  ⟨h.template.symm, h.defaults.symm, fun word => (h.attributes word).symm⟩

theorem Agrees.declares (h : type.Agrees other) : type.declares = other.declares := by
  funext word
  rw [Bool.eq_iff_iff, TypeConfig.declares, TypeConfig.declares, List.contains_iff_mem,
    List.contains_iff_mem]
  exact h.attributes _

theorem Agrees.sourceShows (hagrees : type.Agrees other)
    (h : type.SourceShows name text word shown) : other.SourceShows name text word shown := by
  have hmem := (hagrees.attributes word).mp
  cases h with
  | type => exact .type
  | value hlead => exact .value (hagrees.declares ▸ hlead)
  | present htype hvalue hword hlast =>
    exact .present htype hvalue (hmem hword) (hagrees.declares ▸ hlast)
  | fallback htype hvalue hword hnone hdefault =>
    exact .fallback htype hvalue (hmem hword) (hagrees.declares ▸ hnone)
      (hagrees.defaults ▸ hdefault)
  | absent htype hvalue hword hnone hdefault =>
    exact .absent htype hvalue (hmem hword) (hagrees.declares ▸ hnone) (hagrees.defaults ▸ hdefault)

theorem Agrees.sourceShows_eq (h : type.Agrees other) :
    type.SourceShows name text = other.SourceShows name text := by
  funext word shown
  exact propext ⟨h.sourceShows, h.symm.sourceShows⟩

end TypeConfig

namespace Config

variable {config other : Config} {raw name template : String} {text : List Char}
  {type : TypeConfig}

/-- Filling the template of a type from a tag is filling it from the source of the tag. -/
theorem render_eq_iff_filled {tag : Tag} (htype : tag.type = name)
    (hread : ReadOff type.declares text tag) (output : String) :
    (type.templateOf template).render tag = output ↔
      Filled (type.SourceShows name text) template.toList output.toList := by
  have hshows : (type.templateOf template).Shows tag = type.SourceShows name text := by
    funext word shown
    exact propext (TypeConfig.shows_iff_tagShows.trans
      (TypeConfig.tagShows_iff_sourceShows htype hread))
  rw [← Template.filled_iff, hshows]
  rfl

theorem exists_parse (hsplits : Splits raw name text) (hsome : config.types.get? name = some type)
    (data : Bag) : ∃ tag, config.parse raw data = .ok tag ∧ tag.type = name ∧
      ReadOff type.declares text tag := by
  obtain ⟨rfl, rfl⟩ := splits_iff.mp hsplits
  refine ⟨_, parse_of_some hsome, TagType.type_read _ _ _ _ _, ?_⟩
  rw [← type.declares_tagType (sourceType raw)]
  exact TagType.readOff_read _ _ _ _ _

theorem render_of_some (hsplits : Splits raw name text)
    (hsome : config.types.get? name = some type) (data : Bag) :
    ∃ tag, tag.type = name ∧ ReadOff type.declares text tag ∧
      config.render raw data = type.renderTag tag := by
  obtain ⟨tag, hparse, htype, hread⟩ := exists_parse hsplits hsome data
  refine ⟨tag, htype, hread, ?_⟩
  rw [render_of_parse hparse, render_tag (htype ▸ hsome)]

theorem renders_render (config : Config) (raw : String) (data : Bag) :
    config.Renders raw (config.render raw data) := by
  have hsplits : Splits raw (sourceType raw) (sourceRest raw) := splits_iff.mpr ⟨rfl, rfl⟩
  cases hget : config.types.get? (sourceType raw) with
  | none =>
    rw [render_of_none hget]
    exact .unknown hsplits hget
  | some type =>
    obtain ⟨tag, htype, hread, hrender⟩ := render_of_some hsplits hget data
    rw [hrender, TypeConfig.renderTag]
    cases htemplate : type.template with
    | none => exact htype ▸ .bare hsplits hget htemplate
    | some template =>
      exact .filled hsplits hget htemplate ((render_eq_iff_filled htype hread _).mp rfl)

theorem Renders.eq_render {result : Except TagFault String} (h : config.Renders raw result)
    (data : Bag) : config.render raw data = result := by
  cases h with
  | unknown hsplits hnone =>
    obtain ⟨rfl, -⟩ := splits_iff.mp hsplits
    exact render_of_none hnone
  | bare hsplits hsome htemplate =>
    obtain ⟨tag, htype, -, hrender⟩ := render_of_some hsplits hsome data
    rw [hrender, TypeConfig.renderTag, htemplate, htype]
  | filled hsplits hsome htemplate hfilled =>
    obtain ⟨tag, htype, hread, hrender⟩ := render_of_some hsplits hsome data
    rw [hrender, TypeConfig.renderTag, htemplate]
    exact congrArg Except.ok ((render_eq_iff_filled htype hread _).mpr hfilled)

/-- What a source renders to is told by the entry of its type alone. -/
theorem Renders.of_agrees {result : Except TagFault String}
    (hagrees : ∀ name text, Splits raw name text →
      Option.Rel TypeConfig.Agrees (config.types.get? name) (other.types.get? name))
    (h : config.Renders raw result) : other.Renders raw result := by
  cases h with
  | @unknown name text hsplits hnone =>
    have hrel := hagrees name text hsplits
    generalize hother : other.types.get? name = found at hrel
    rw [hnone] at hrel
    cases hrel with
    | none => exact .unknown hsplits hother
  | @bare name text type hsplits hsome htemplate =>
    have hrel := hagrees name text hsplits
    generalize hother : other.types.get? name = found at hrel
    rw [hsome] at hrel
    cases hrel with
    | some hagrees => exact .bare hsplits hother (hagrees.template ▸ htemplate)
  | @filled name template output text type hsplits hsome htemplate hfilled =>
    have hrel := hagrees name text hsplits
    generalize hother : other.types.get? name = found at hrel
    rw [hsome] at hrel
    cases hrel with
    | some hagrees =>
      refine .filled hsplits hother (hagrees.template ▸ htemplate) ?_
      rw [← hagrees.sourceShows_eq]
      exact hfilled

/-- Rendering a source gives the result that the entry of its type and its markers say, and no
other, whatever the data, the options and the other entries are. -/
theorem render_determined (config : Config) (raw : String) :
    (∀ data result, config.render raw data = result ↔ config.Renders raw result) ∧
    (∀ (other : Config) data data', (∀ name text, Splits raw name text →
        Option.Rel TypeConfig.Agrees (config.types.get? name) (other.types.get? name)) →
      config.render raw data = other.render raw data') := by
  refine ⟨?_, ?_⟩
  · intro data result
    constructor
    · rintro rfl
      exact renders_render config raw data
    · intro h
      exact h.eq_render data
  · intro other data data' hagrees
    have hrenders := (renders_render config raw data).of_agrees hagrees
    exact (hrenders.eq_render data').symm

end Config
end InlineTag
