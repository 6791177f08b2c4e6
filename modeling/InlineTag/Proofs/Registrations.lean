import Mathlib
import InlineTag.Registry
import InlineTag.Proofs.ByteOrder
import InlineTag.Proofs.Lookups

/-!
# InlineTag.Proofs.Registrations

What registering types makes of a table. A table is what its look-ups say, so the types that a
table is filled with matter only by the last of each name, and their order does not matter where
no name comes twice.

* `Registry.lookup_foldl_register_of_ne`: a name is untouched by the types of other names.
* `Registry.foldl_register_perm`: types of different names can be registered in any order.
* `Registry.Listed`: the names, the size and the emptiness of a table as its look-ups tell them.
-/

namespace InlineTag

open Text

namespace Registry

variable {registry : Registry} {type other : TagType} {types others : List TagType}
  {name : String}

theorem ext_lookup {a b : Registry} (h : ∀ name, a.lookup name = b.lookup name) : a = b := by
  have htypes : a.types = b.types := NameMap.ext_get? h
  cases a
  cases b
  cases htypes
  rfl

theorem lookup_register (registry : Registry) (type : TagType) (name : String) :
    (registry.register type).lookup name =
      if name = type.name then some type else registry.lookup name :=
  NameMap.get?_insert _ _ _ _

theorem contains_iff : registry.contains name = true ↔ ∃ type, registry.lookup name = some type :=
  Option.isSome_iff_exists

/-! ## Several registrations -/

theorem lookup_foldl_register_of_ne (h : ∀ type ∈ types, type.name ≠ name) :
    (types.foldl register registry).lookup name = registry.lookup name := by
  induction types generalizing registry with
  | nil => rfl
  | cons type types ih =>
    obtain ⟨hne, hrest⟩ := List.forall_mem_cons.mp h
    rw [List.foldl_cons, ih hrest, lookup_register, if_neg (Ne.symm hne)]

theorem register_comm (registry : Registry) (h : type.name ≠ other.name) :
    (registry.register type).register other = (registry.register other).register type := by
  refine ext_lookup fun name => ?_
  rw [lookup_register, lookup_register, lookup_register, lookup_register]
  by_cases hname : name = type.name
  · subst hname
    rw [if_neg h, if_pos rfl, if_pos rfl]
  · rw [if_neg hname, if_neg hname]

theorem foldl_register_perm (registry : Registry) (hperm : types.Perm others)
    (hnames : (types.map TagType.name).Nodup) :
    types.foldl register registry = others.foldl register registry := by
  refine hperm.foldl_eq' ?_ registry
  intro type htype other hother table
  by_cases h : type.name = other.name
  · rw [List.inj_on_of_nodup_map hnames htype hother h]
  · exact register_comm table h

/-- Registering loses no name. -/
theorem contains_foldl_register
    (h : registry.contains name = true ∨ ∃ type ∈ types, type.name = name) :
    (types.foldl register registry).contains name = true := by
  induction types generalizing registry with
  | nil =>
    rcases h with h | ⟨type, hmem, -⟩
    · exact h
    · cases hmem
  | cons type types ih =>
    refine ih ?_
    rw [contains_iff, lookup_register]
    by_cases hname : name = type.name
    · exact .inl ⟨type, if_pos hname⟩
    · rcases h with h | ⟨other, hmem, hother⟩
      · rw [if_neg hname]
        exact .inl (contains_iff.mp h)
      · rcases List.mem_cons.mp hmem with rfl | hmem
        · exact absurd hother.symm hname
        · exact .inr ⟨other, hmem, hother⟩

/-! ## Names and sizes -/

/-- The names of a table stand in the order of their bytes, each once, and are those that can be
looked up. The size counts them. -/
structure Listed (registry : Registry) : Prop where
  ascending : registry.names.Pairwise fun a b => bytes a < bytes b
  mem_iff : ∀ name, name ∈ registry.names ↔ ∃ type, registry.lookup name = some type
  size_eq : registry.size = registry.names.length
  isEmpty_iff : registry.isEmpty = true ↔ registry.names = []

theorem listed (registry : Registry) : registry.Listed where
  ascending := by
    refine List.pairwise_map.mpr (registry.types.ascending.imp ?_)
    intro a b hlt
    exact bytes_lt_iff.mpr hlt
  mem_iff _ := NameMap.mem_names_iff
  size_eq := (List.length_map _).symm
  isEmpty_iff := by
    rw [isEmpty, NameMap.isEmpty, names, NameMap.names, List.map_eq_nil_iff, List.isEmpty_iff]

theorem not_contains_of_isEmpty (h : registry.isEmpty = true) : registry.contains name = false := by
  by_contra hcontains
  have hmem : name ∈ registry.names :=
    (registry.listed.mem_iff name).mpr (contains_iff.mp (by simpa using hcontains))
  rw [registry.listed.isEmpty_iff.mp h] at hmem
  cases hmem

theorem size_of_isEmpty (h : registry.isEmpty = true) : registry.size = 0 := by
  rw [registry.listed.size_eq, registry.listed.isEmpty_iff.mp h, List.length_nil]

theorem size_register (registry : Registry) (type : TagType) :
    (registry.register type).size =
      if registry.contains type.name then registry.size else registry.size + 1 :=
  NameMap.size_insert _ _ _

end Registry
end InlineTag
