import InlineTag.Config.Reading
import InlineTag.Proofs.Lookups
import InlineTag.Proofs.Markers
import InlineTag.Proofs.Trimming

/-!
# InlineTag.Proofs.Validity

What a configuration can be sure of once it was read.

* `TypeConfig.Valid`: the names of a type and of its attributes are ones that reading a source can
  give, and every default belongs to an attribute.
* `Config.valid_of_read`: every type of a configuration that was read is valid.
-/

namespace InlineTag

open Text

/-- A type whose names are allowed, under the given name. -/
structure TypeConfig.Valid (type : TypeConfig) (name : String) : Prop where
  name_ne : name ≠ ""
  name_trimmed : trim name.toList = name.toList
  name_no_colon : ':' ∉ name.toList
  words : ∀ word ∈ type.attributes, IsWord word.toList
  defaults : ∀ word text, type.defaults.get? word = some text → word ∈ type.attributes

theorem isTypeName_iff {name : String} :
    isTypeName name = true ↔ name ≠ "" ∧ trim name.toList = name.toList ∧ ':' ∉ name.toList := by
  have hempty : name.isEmpty = false ↔ name ≠ "" := by
    rw [← Bool.not_eq_true, String.isEmpty_iff]
  simp only [isTypeName, Bool.and_eq_true, Bool.not_eq_true', beq_iff_eq, hempty,
    List.contains_eq_mem, decide_eq_false_iff_not]
  constructor
  · rintro ⟨⟨htrim, hne⟩, hcolon⟩
    exact ⟨hne, htrim, hcolon⟩
  · rintro ⟨hne, htrim, hcolon⟩
    exact ⟨⟨htrim, hne⟩, hcolon⟩

/-- The names allowed for attributes are the words that can stand before a colon. -/
theorem isAttributeName_iff {word : String} :
    isAttributeName word = true ↔ IsWord word.toList := by
  have hempty : word.isEmpty = false ↔ word.toList ≠ [] := by
    rw [← Bool.not_eq_true, String.isEmpty_iff, ne_eq, String.toList_eq_nil_iff]
  simp only [isAttributeName, Bool.and_eq_true, Bool.not_eq_true', hempty, List.contains_eq_mem,
    decide_eq_false_iff_not, List.any_eq_false]
  constructor
  · rintro ⟨⟨hne, hcolon⟩, hblank⟩
    refine ⟨hne, fun c hc => ?_⟩
    have hc' : c ≠ ':' := fun heq => hcolon (heq ▸ hc)
    simp [isWordChar, hblank c hc, hc']
  · intro hword
    exact ⟨⟨hword.ne_nil, hword.colon_not_mem⟩, fun c hc hblank => hword.blank_not_mem hblank hc⟩

namespace TypeConfig

variable {type : TypeConfig} {name : String}

theorem fault?_eq_none_iff : type.fault? name = none ↔ type.Valid name := by
  have hwords : (type.attributes.find? fun word => !isAttributeName word) = none ↔
      ∀ word ∈ type.attributes, IsWord word.toList := by
    simp [List.find?_eq_none, isAttributeName_iff]
  have hdefaults : (type.defaults.names.find? fun key => !type.attributes.contains key) = none ↔
      ∀ word text, type.defaults.get? word = some text → word ∈ type.attributes := by
    simp [List.find?_eq_none, NameMap.mem_names_iff]
  rw [fault?]
  constructor
  · intro h
    split at h
    · cases h
    · rename_i hname
      obtain ⟨hne, htrim, hcolon⟩ := isTypeName_iff.mp (by simpa using hname)
      split at h
      · cases h
      · rename_i hfound
        split at h
        · cases h
        · rename_i hstray
          exact ⟨hne, htrim, hcolon, hwords.mp hfound, hdefaults.mp hstray⟩
  · intro h
    have hname := isTypeName_iff.mpr ⟨h.name_ne, h.name_trimmed, h.name_no_colon⟩
    rw [hname, hwords.mpr h.words, hdefaults.mpr h.defaults]
    rfl

end TypeConfig

namespace Config

theorem fault?_eq_none_iff {config : Config} :
    config.fault? = none ↔
      ∀ name type, config.types.get? name = some type → type.Valid name := by
  rw [fault?, List.findSome?_eq_none_iff]
  constructor
  · intro h name type hget
    exact TypeConfig.fault?_eq_none_iff.mp (h (name, type) (NameMap.get?_eq_some_iff.mp hget))
  · rintro h ⟨name, type⟩ hmem
    exact TypeConfig.fault?_eq_none_iff.mpr (h name type (NameMap.get?_eq_some_iff.mpr hmem))

theorem fault?_of_read {text : String} {config : Config} (h : read text = .ok config) :
    config.fault? = none := by
  rw [read] at h
  split at h
  · cases h
  · split at h
    · cases h
    · split at h
      · cases h
      · rename_i hfault
        cases h
        exact hfault

theorem valid_of_read {text : String} {config : Config} (h : read text = .ok config)
    {name : String} {type : TypeConfig} (htype : config.types.get? name = some type) :
    type.Valid name :=
  fault?_eq_none_iff.mp (fault?_of_read h) name type htype

end Config
end InlineTag
