import Mathlib
import InlineTag.Proofs.Configured
import InlineTag.Proofs.Spelling
import InlineTag.Proofs.Validity

/-!
# InlineTag.Proofs.UsableNames

The names that a configuration may use are those that a source can use. A type can be named when
some source is read as a tag of it, and an attribute can be set when some source gives it a text.

* `Registry.names_iff`, `Registry.sets_iff`: which names of a table sources can use.
* `acceptsType_iff`, `acceptsAttribute_iff`: which names no configuration is refused for.
* `accepted_names_usable`: the two agree.
-/

namespace InlineTag

open Text Toml

namespace Registry

/-- Some source is read as a tag of the type. -/
def Names (registry : Registry) (data options : Bag) (name : String) : Prop :=
  ∃ raw tag, registry.parse raw data options = .ok tag ∧ tag.type = name

/-- Some source is read as a tag of the type that has the attribute. -/
def Sets (registry : Registry) (data options : Bag) (name word : String) : Prop :=
  ∃ raw tag text, registry.parse raw data options = .ok tag ∧ tag.type = name ∧
    tag.get? word = some text

end Registry

/-- No configuration is refused for the name of a type. -/
def AcceptsType (name : String) : Prop :=
  ∀ config : Config, config.fault? ≠ some (.badType name)

/-- No configuration is refused for the name of an attribute of the type. -/
def AcceptsAttribute (name word : String) : Prop :=
  ∀ config : Config, config.fault? ≠ some (.badAttribute word name)

/-! ## What sources can use -/

/-- A tag with one attribute and no text at all. -/
def Tag.bare (name word : String) : Tag :=
  { type := name, value := "", attrs := NameMap.empty.insert word "" }

theorem Tag.get?_bare {name word key text : String}
    (h : (Tag.bare name word).get? key = some text) : key = word ∧ text = "" := by
  rw [Tag.get?, bare, NameMap.get?_insert] at h
  split at h
  · rename_i hkey
    exact ⟨hkey, (Option.some.inj h).symm⟩
  · cases h

theorem regular_bare {declared : List Char → Bool} {name word : String}
    (htrim : trim name.toList = name.toList) (hcolon : ':' ∉ name.toList)
    (hword : IsWord word.toList) (hdeclared : declared word.toList = true) :
    Regular declared (Tag.bare name word) where
  type_trimmed := htrim
  type_no_colon := hcolon
  value_solid := endsSolid_nil
  value_free := fun _ _ => not_markerAt_nil
  names := by
    intro key text hget
    obtain ⟨rfl, -⟩ := Tag.get?_bare hget
    exact ⟨hword, hdeclared⟩
  texts_solid := by
    intro key text hget
    obtain ⟨-, rfl⟩ := Tag.get?_bare hget
    exact endsSolid_nil
  texts_free := by
    intro key text hget i other
    obtain ⟨-, rfl⟩ := Tag.get?_bare hget
    exact not_markerAt_nil

namespace Registry

variable {registry : Registry} {data options : Bag} {name word : String} {type : TagType}

/-- A registered type can be named unless white space stands at an end of its name, or a colon in
it. -/
theorem names_iff (hlookup : registry.lookup name = some type) :
    registry.Names data options name ↔
      trim name.toList = name.toList ∧ ':' ∉ name.toList := by
  constructor
  · rintro ⟨raw, tag, hparse, rfl⟩
    have hregular := regular_of_parse hlookup hparse rfl
    exact ⟨hregular.type_trimmed, hregular.type_no_colon⟩
  · rintro ⟨htrim, hcolon⟩
    have hsplits : Splits name name [] :=
      ⟨name.toList, by rw [htrim, String.ofList_toList], .inr ⟨rfl, hcolon, rfl⟩⟩
    obtain ⟨hname, -⟩ := splits_iff.mp hsplits
    refine ⟨name, _, parse_of_lookup_some (hname ▸ hlookup) data options, ?_⟩
    rw [TagType.type_read, ← hname]

/-- A declared attribute of a type that can be named can be set when it is a word. -/
theorem sets_iff (hlookup : registry.lookup name = some type)
    (hdeclares : type.hasAttribute word = true) (htrim : trim name.toList = name.toList)
    (hcolon : ':' ∉ name.toList) :
    registry.Sets data options name word ↔ IsWord word.toList := by
  constructor
  · rintro ⟨raw, tag, text, hparse, htype, hget⟩
    exact ((regular_of_parse hlookup hparse htype).names word text hget).1
  · intro hword
    have hdeclared : type.declares word.toList = true := by
      rw [TagType.declares, String.ofList_toList]
      exact hdeclares
    have hregular := regular_bare htrim hcolon hword hdeclared
    refine ⟨_, _, "", parse_spelled hlookup rfl hregular data options, rfl, ?_⟩
    exact NameMap.get?_insert_self _ _ _

end Registry

/-! ## What a configuration is refused for -/

namespace TypeConfig

variable {type : TypeConfig} {key name word : String}

theorem fault?_eq_badType (h : type.fault? key = some (.badType name)) :
    key = name ∧ isTypeName key = false := by
  rw [fault?] at h
  split at h
  · rename_i hname
    cases h
    exact ⟨rfl, by simpa using hname⟩
  · split at h
    · cases h
    · split at h <;> cases h

theorem fault?_eq_badAttribute (h : type.fault? key = some (.badAttribute word name)) :
    key = name ∧ isAttributeName word = false := by
  rw [fault?] at h
  split at h
  · cases h
  · split at h
    · rename_i hfound
      cases h
      exact ⟨rfl, by simpa using List.find?_some hfound⟩
    · split at h <;> cases h

end TypeConfig

theorem Config.exists_fault? {config : Config} {fault : NameFault}
    (h : config.fault? = some fault) :
    ∃ (name : String) (type : TypeConfig), type.fault? name = some fault := by
  obtain ⟨⟨name, type⟩, -, hfault⟩ := List.exists_of_findSome?_eq_some h
  exact ⟨name, type, hfault⟩

/-- A configuration of one type. -/
def Config.single (name : String) (type : TypeConfig) : Config :=
  { types := NameMap.empty.insert name type }

theorem Config.fault?_single (name : String) (type : TypeConfig) :
    (Config.single name type).fault? = type.fault? name := by
  rw [fault?, single]
  show [(name, type)].findSome? _ = _
  rw [List.findSome?_singleton]

section Acceptance

variable {name word : String}

theorem acceptsType_iff : AcceptsType name ↔ isTypeName name = true := by
  constructor
  · intro h
    by_contra hname
    refine h (Config.single name {}) ?_
    rw [Config.fault?_single, TypeConfig.fault?, if_pos (by simpa using hname)]
  · intro hname config h
    obtain ⟨key, type, hfault⟩ := Config.exists_fault? h
    obtain ⟨rfl, hbad⟩ := TypeConfig.fault?_eq_badType hfault
    rw [hname] at hbad
    cases hbad

theorem acceptsAttribute_iff (hname : AcceptsType name) :
    AcceptsAttribute name word ↔ isAttributeName word = true := by
  have hname := acceptsType_iff.mp hname
  constructor
  · intro h
    by_contra hword
    refine h (Config.single name { attributes := [word] }) ?_
    have hfound : [word].find? (fun word => !isAttributeName word) = some word := by
      simp [hword]
    rw [Config.fault?_single, TypeConfig.fault?, hname, hfound]
    rfl
  · intro hword config h
    obtain ⟨key, type, hfault⟩ := Config.exists_fault? h
    obtain ⟨rfl, hbad⟩ := TypeConfig.fault?_eq_badAttribute hfault
    rw [hword] at hbad
    cases hbad

end Acceptance

/-! ## The two agree -/

namespace Config

variable {config : Config} {data : Bag} {name : String} {type : TypeConfig}

theorem names_iff (hget : config.types.get? name = some type) :
    config.registry.Names data config.options name ↔
      trim name.toList = name.toList ∧ ':' ∉ name.toList :=
  Registry.names_iff (by rw [lookup_registry, hget]; rfl)

theorem sets_iff (hget : config.types.get? name = some type) {word : String}
    (hmem : word ∈ type.attributes) (htrim : trim name.toList = name.toList)
    (hcolon : ':' ∉ name.toList) :
    config.registry.Sets data config.options name word ↔ IsWord word.toList := by
  have hlookup : config.registry.lookup name = some (type.tagType name) := by
    rw [lookup_registry, hget]
    rfl
  refine Registry.sets_iff hlookup ?_ htrim hcolon
  rw [TagType.hasAttribute, List.contains_iff_mem]
  exact mem_firstOccurrences.mpr hmem

/-- A type and its attributes can be used in sources, and its defaults belong to attributes. -/
structure Usable (config : Config) (data : Bag) (name : String) (type : TypeConfig) : Prop where
  name_ne : name ≠ ""
  named : config.registry.Names data config.options name
  set : ∀ word ∈ type.attributes, config.registry.Sets data config.options name word
  defaults : ∀ word text, type.defaults.get? word = some text → word ∈ type.attributes

theorem valid_iff_usable (hget : config.types.get? name = some type) :
    type.Valid name ↔ config.Usable data name type := by
  constructor
  · intro h
    refine ⟨h.name_ne, (names_iff hget).mpr ⟨h.name_trimmed, h.name_no_colon⟩, ?_, h.defaults⟩
    intro word hmem
    exact (sets_iff hget hmem h.name_trimmed h.name_no_colon).mpr (h.words word hmem)
  · intro h
    obtain ⟨htrim, hcolon⟩ := (names_iff hget).mp h.named
    refine ⟨h.name_ne, htrim, hcolon, ?_, h.defaults⟩
    intro word hmem
    exact (sets_iff hget hmem htrim hcolon).mp (h.set word hmem)

theorem fault?_eq_none_iff_usable (config : Config) (data : Bag) :
    config.fault? = none ↔
      ∀ name type, config.types.get? name = some type → config.Usable data name type := by
  rw [fault?_eq_none_iff]
  constructor
  · intro h name type hget
    exact (valid_iff_usable hget).mp (h name type hget)
  · intro h name type hget
    exact (valid_iff_usable hget).mpr (h name type hget)

end Config

/-- A name for a type is accepted when it is not empty and a source can name the type by it, and a
name for an attribute when a source can set the attribute. So a configuration is refused for its
names or its defaults only when one of them is of no use, and once it was read all are of use. -/
theorem accepted_names_usable :
    (∀ (registry : Registry) data options name, registry.contains name = true →
      (AcceptsType name ↔ name ≠ "" ∧ registry.Names data options name)) ∧
    (∀ (registry : Registry) data options name type word, AcceptsType name →
      registry.lookup name = some type → type.hasAttribute word = true →
      (AcceptsAttribute name word ↔ registry.Sets data options name word)) ∧
    (∀ (config : Config) data, config.fault? = none ↔
      ∀ name type, config.types.get? name = some type → config.Usable data name type) ∧
    (∀ source config data, Config.read source = .ok config →
      ∀ name type, config.types.get? name = some type → config.Usable data name type) := by
  refine ⟨?_, ?_, Config.fault?_eq_none_iff_usable, ?_⟩
  · intro registry data options name hcontains
    obtain ⟨type, hlookup⟩ := Option.isSome_iff_exists.mp hcontains
    rw [acceptsType_iff, isTypeName_iff, Registry.names_iff hlookup]
  · intro registry data options name type word hname hlookup hdeclares
    obtain ⟨-, htrim, hcolon⟩ := isTypeName_iff.mp (acceptsType_iff.mp hname)
    rw [acceptsAttribute_iff hname, isAttributeName_iff,
      Registry.sets_iff hlookup hdeclares htrim hcolon]
  · intro source config data hread
    exact (Config.fault?_eq_none_iff_usable config data).mp (Config.fault?_of_read hread)

/-- A name with a space inside and an attribute with an equals sign are accepted and of use. -/
theorem accepted_names_usable_odd :
    ∃ config : Config, Config.read "[types.'a b']\nattributes = ['x=y']" = .ok config ∧
      AcceptsType "a b" ∧ AcceptsAttribute "a b" "x=y" ∧
      config.registry.Sets NameMap.empty config.options "a b" "x=y" := by
  let type : TypeConfig := { attributes := ["x=y"] }
  let config : Config := { types := NameMap.ofList [("a b", type)] }
  have hread : Config.read "[types.'a b']\nattributes = ['x=y']" = .ok config := by cbv
  obtain ⟨hnames, hsets, -, huse⟩ := accepted_names_usable
  have husable := huse _ config NameMap.empty hread "a b" type (by rfl)
  have hset := husable.set "x=y" (by decide)
  have hname : AcceptsType "a b" :=
    (hnames config.registry NameMap.empty config.options "a b" (by rfl)).mpr
      ⟨husable.name_ne, husable.named⟩
  refine ⟨config, hread, hname, ?_, hset⟩
  exact (hsets config.registry NameMap.empty config.options "a b" (type.tagType "a b") "x=y" hname
    (by rfl) (by decide)).mpr hset

end InlineTag
