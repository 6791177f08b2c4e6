import InlineTag.Config
import InlineTag.Proofs.Lookups

/-!
# InlineTag.Proofs.Configured

The table that a configuration stands for. A configured type becomes a tag type whose attributes
are the listed names without repetitions, and a handler that has the names as listed.

* `Config.lookup_registry`: the table has the configured types and no others.
* `TypeConfig.declares_tagType`: dropping repetitions drops no name.
* `Config.render_tag`: a tag of a configured type is shown by the template of the type.
-/

namespace InlineTag

open Toml

theorem mem_firstOccurrences {names : List String} {name : String} :
    name ∈ firstOccurrences names ↔ name ∈ names := by
  induction names with
  | nil => simp [firstOccurrences]
  | cons head rest ih =>
    rw [firstOccurrences, List.mem_cons, List.mem_filter, List.mem_cons, ih]
    by_cases h : name = head
    · simp [h]
    · simp [h]

namespace TypeConfig

/-- Whether a word is among the attributes as they are listed. -/
def declares (type : TypeConfig) (word : List Char) : Bool :=
  type.attributes.contains (String.ofList word)

/-- The template of a type, with its text. -/
def templateOf (type : TypeConfig) (text : String) : Template :=
  ⟨text, type.attributes, type.defaults⟩

/-- What showing a tag of the type comes to. -/
def renderTag (type : TypeConfig) (tag : Tag) : Except TagFault String :=
  match type.template with
  | none => .error (.noHandler tag.type)
  | some text => .ok ((type.templateOf text).render tag)

variable (type : TypeConfig) (name : String)

theorem declares_tagType : (type.tagType name).declares = type.declares := by
  funext word
  rw [Bool.eq_iff_iff, TagType.declares, TagType.hasAttribute, declares, List.contains_iff_mem,
    List.contains_iff_mem]
  exact mem_firstOccurrences

theorem handler_tagType :
    (type.tagType name).handler = type.template.map fun text => (type.templateOf text).render := rfl

end TypeConfig

theorem Registry.types_foldl_register (types : List TagType) (registry : Registry) :
    (types.foldl Registry.register registry).types =
      types.foldl (fun map type => map.insert type.name type) registry.types := by
  induction types generalizing registry with
  | nil => rfl
  | cons type types ih =>
    rw [List.foldl_cons, List.foldl_cons, ih]
    rfl

namespace Config

variable {config : Config} {raw name : String} {data : Bag} {type : TypeConfig}

/-- Registering the types in ascending order replaces none of them. -/
theorem entries_registry (config : Config) :
    config.registry.types.entries =
      config.types.entries.map fun entry => (entry.1, entry.2.tagType entry.1) := by
  have hascending : (config.types.entries.map fun entry =>
      (entry.1, entry.2.tagType entry.1)).Pairwise (fun a b => a.1 < b.1) :=
    List.pairwise_map.mpr config.types.ascending
  have hlist : config.registry.types = NameMap.ofList (config.types.entries.map fun entry =>
      (entry.1, entry.2.tagType entry.1)) := by
    rw [registry, Registry.types_foldl_register, tagTypes, List.foldl_map, NameMap.ofList,
      List.foldl_map]
    rfl
  rw [hlist, NameMap.ofList_eq hascending]

theorem lookup_registry (config : Config) (name : String) :
    config.registry.lookup name = (config.types.get? name).map fun type => type.tagType name := by
  refine Option.ext fun found => ?_
  rw [Registry.lookup, NameMap.get?_eq_some_iff, entries_registry, Option.map_eq_some_iff,
    List.mem_map]
  constructor
  · rintro ⟨⟨key, type⟩, hmem, heq⟩
    cases heq
    exact ⟨type, NameMap.get?_eq_some_iff.mpr hmem, rfl⟩
  · rintro ⟨type, hget, rfl⟩
    exact ⟨(name, type), NameMap.get?_eq_some_iff.mp hget, rfl⟩

theorem parse_of_none (h : config.types.get? (sourceType raw) = none) :
    config.parse raw data = .error (.undefinedType (sourceType raw)) := by
  have hlookup : config.registry.lookup (sourceType raw) = none := by
    rw [lookup_registry, h]
    rfl
  exact Registry.parse_of_lookup_none hlookup data config.options

theorem parse_of_some (h : config.types.get? (sourceType raw) = some type) :
    config.parse raw data = .ok ((type.tagType (sourceType raw)).read (sourceType raw)
      (sourceRest raw) data config.options) := by
  have hlookup : config.registry.lookup (sourceType raw) =
      some (type.tagType (sourceType raw)) := by
    rw [lookup_registry, h]
    rfl
  exact Registry.parse_of_lookup_some hlookup data config.options

theorem render_of_none (h : config.types.get? (sourceType raw) = none) :
    config.render raw data = .error (.undefinedType (sourceType raw)) := by
  have hparse : config.registry.parse raw data config.options =
      .error (.undefinedType (sourceType raw)) := parse_of_none h
  rw [render, Registry.parseAndRender, hparse]

theorem render_of_parse {tag : Tag} (h : config.parse raw data = .ok tag) :
    config.render raw data = config.registry.render tag := by
  have hparse : config.registry.parse raw data config.options = .ok tag := h
  rw [render, Registry.parseAndRender, hparse]

theorem render_tag {tag : Tag} (h : config.types.get? tag.type = some type) :
    config.registry.render tag = type.renderTag tag := by
  rw [Registry.render, Registry.handler?, lookup_registry, h, Option.map_some, Option.bind_some,
    TypeConfig.handler_tagType, TypeConfig.renderTag]
  cases type.template <;> rfl

end Config
end InlineTag
