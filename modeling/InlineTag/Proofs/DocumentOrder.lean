import Mathlib
import InlineTag.Proofs.DocumentShape

/-!
# InlineTag.Proofs.DocumentOrder

The order in which a document declares its types and their defaults is of no account.

* `Shuffled`: two tables with the same entries, up to their order.
* `Reordered`: two documents that differ in the order of tables, of types and of defaults.
* `Config.Describes.reordered`: such documents describe the same configuration.
-/

namespace InlineTag

open Toml

/-- The entries of the one table stand in the other too, in some order. The values of one key need
not be equal, but they stand in the given relation. -/
def Shuffled (Same : String → Value → Value → Prop) (entries others : List (String × Value)) :
    Prop :=
  ∃ order, order.Perm others ∧
    List.Forall₂ (fun entry other => entry.1 = other.1 ∧ Same entry.1 entry.2 other.2) entries order

/-! ## What may stand in another order -/

inductive SameDefaults : Value → Value → Prop where
  | same (value : Value) : SameDefaults value value
  | table {entries others : List (String × Value)} (h : entries.Perm others) :
      SameDefaults (.table entries) (.table others)

inductive SamePart : String → Value → Value → Prop where
  | same (key : String) (value : Value) : SamePart key value value
  | defaults {key : String} {value other : Value} (hkey : key = "defaults")
      (h : SameDefaults value other) : SamePart key value other

inductive SameType : Value → Value → Prop where
  | same (value : Value) : SameType value value
  | table {parts others : List (String × Value)} (h : Shuffled SamePart parts others) :
      SameType (.table parts) (.table others)
  | array {attributes template defaults defaults' : Value} {rest : List Value}
      (h : SameDefaults defaults defaults') :
      SameType (.array (attributes :: template :: defaults :: rest))
        (.array (attributes :: template :: defaults' :: rest))

inductive SameTable : String → Value → Value → Prop where
  | same (key : String) (value : Value) : SameTable key value value
  | types {key : String} {types others : List (String × Value)} (hkey : key = "types")
      (h : Shuffled (fun _ => SameType) types others) : SameTable key (.table types) (.table others)

/-- Documents that differ in the order of their tables, of their types, of the parts of types and
of defaults. -/
def Reordered (entries others : List (String × Value)) : Prop :=
  Shuffled SameTable entries others

/-! ## Shuffled tables -/

theorem lookup_eq_some_iff_mem {α : Type} {entries : List (String × α)}
    (hkeys : (entries.map (·.1)).Nodup) {key : String} {value : α} :
    entries.lookup key = some value ↔ (key, value) ∈ entries := by
  rw [List.lookup_eq_some_iff]
  constructor
  · rintro ⟨front, back, rfl, -⟩
    simp
  · intro hmem
    obtain ⟨front, back, rfl⟩ := List.append_of_mem hmem
    refine ⟨front, back, rfl, fun entry hentry => bne_iff_ne.mpr ?_⟩
    rintro rfl
    rw [List.map_append, List.nodup_append] at hkeys
    exact hkeys.2.2 entry.1 (List.mem_map_of_mem hentry) entry.1 (by simp) rfl

section Shuffled

variable {Same : String → Value → Value → Prop} {entries others : List (String × Value)}

theorem Shuffled.of_perm (h : entries.Perm others) : Shuffled (fun _ => Eq) entries others :=
  ⟨entries, h, List.forall₂_same.mpr fun _ _ => ⟨rfl, rfl⟩⟩

theorem Shuffled.keys (h : Shuffled Same entries others) :
    (entries.map (·.1)).Perm (others.map (·.1)) := by
  obtain ⟨order, hperm, horder⟩ := h
  have hkeys : entries.map (·.1) = order.map (·.1) := by
    clear hperm
    induction horder with
    | nil => rfl
    | cons hentry _ ih => rw [List.map_cons, List.map_cons, hentry.1, ih]
  rw [hkeys]
  exact hperm.map _

theorem Shuffled.exists_entry (h : Shuffled Same entries others) {other : String × Value}
    (hmem : other ∈ others) :
    ∃ entry ∈ entries, entry.1 = other.1 ∧ Same entry.1 entry.2 other.2 := by
  obtain ⟨order, hperm, horder⟩ := h
  replace hmem := hperm.mem_iff.mpr hmem
  clear hperm
  induction horder with
  | nil => cases hmem
  | @cons entry head entries order hentry _ ih =>
    rcases List.mem_cons.mp hmem with rfl | hmem
    · exact ⟨entry, List.mem_cons_self, hentry⟩
    · obtain ⟨found, hfound, hsame⟩ := ih hmem
      exact ⟨found, List.mem_cons_of_mem _ hfound, hsame⟩

/-- Under each key the two tables have related values, or both have none. -/
theorem Shuffled.lookup (h : Shuffled Same entries others) (hkeys : (others.map (·.1)).Nodup)
    (key : String) : Option.Rel (Same key) (entries.lookup key) (others.lookup key) := by
  have hkeys' := h.keys.nodup_iff.mpr hkeys
  cases hother : others.lookup key with
  | none =>
    have hnone : entries.lookup key = none := by
      rw [NameMap.lookup_eq_none_iff] at hother ⊢
      exact fun hmem => hother (h.keys.mem_iff.mp hmem)
    rw [hnone]
    exact .none
  | some value =>
    obtain ⟨entry, hentry, rfl, hsame⟩ :=
      h.exists_entry ((lookup_eq_some_iff_mem hkeys).mp hother)
    rw [(lookup_eq_some_iff_mem hkeys').mpr hentry]
    exact .some hsame

theorem MapOf.shuffled {α : Type} {R : Value → α → Prop} {map : NameMap α}
    (hmap : MapOf R entries map) (h : Shuffled Same entries others)
    (hsame : ∀ entry ∈ entries, ∀ other ∈ others, Same entry.1 entry.2 other.2 →
      ∀ found, R entry.2 found → R other.2 found) : MapOf R others map := by
  constructor
  · intro name
    rw [hmap.names, h.keys.mem_iff]
  · intro other hother found hfound
    obtain ⟨entry, hentry, hkey, hrelated⟩ := h.exists_entry hother
    rw [← hkey] at hfound
    exact hsame entry hentry other hother hrelated found (hmap.values entry hentry found hfound)

theorem PartOf.related {α : Type} {R : Value → α → Prop} {missing found : α}
    {related : Value → Value → Prop} {value other : Option Value}
    (hpart : PartOf R missing value found) (h : Option.Rel related value other)
    (hrelated : ∀ present given, other = some given → related present given →
      R present found → R given found) : PartOf R missing other found := by
  cases h with
  | none => exact hpart
  | some hsame =>
    rw [partOf_some_iff] at hpart ⊢
    exact hrelated _ _ rfl hsame hpart

end Shuffled

/-! ## What reordered documents describe -/

section Reordered

variable {value other : Value}

theorem SameDefaults.mapping (h : SameDefaults value other) {defaults : NameMap String}
    (hmapping : Mapping IsText value defaults) : Mapping IsText other defaults := by
  cases h with
  | same => exact hmapping
  | table hperm =>
    obtain ⟨_, ⟨⟩, hmap⟩ := hmapping
    refine ⟨_, .table _, hmap.shuffled (Shuffled.of_perm hperm) ?_⟩
    rintro entry - found - heq text htext
    exact heq ▸ htext

theorem SameType.isType (h : SameType value other) (hdistinct : other.Distinct)
    {type : TypeConfig} (htype : IsType value type) : IsType other type := by
  cases h with
  | same => exact htype
  | table hparts =>
    obtain ⟨hkeys, hvalues⟩ := Value.distinct_table_iff.mp hdistinct
    cases htype with
    | table hnames htype =>
      refine .table ?_ ⟨htype.attributes.related (hparts.lookup hkeys _) ?_,
        htype.template.related (hparts.lookup hkeys _) ?_,
        htype.defaults.related (hparts.lookup hkeys _) ?_⟩
      · intro entry hentry
        obtain ⟨part, hpart, hkey, -⟩ := hparts.exists_entry hentry
        exact hkey ▸ hnames part hpart
      · rintro value other - (_ | ⟨hkey, -⟩) hvalue
        · exact hvalue
        · exact absurd hkey (by decide)
      · rintro value other - (_ | ⟨hkey, -⟩) hvalue
        · exact hvalue
        · exact absurd hkey (by decide)
      · rintro value other - (_ | ⟨-, hdefaults⟩) hvalue
        · exact hvalue
        · exact hdefaults.mapping hvalue
  | array hdefaults =>
    cases htype with
    | array htype =>
      refine .array ⟨htype.attributes, htype.template, ?_⟩
      exact htype.defaults.related (.some hdefaults) fun _ _ _ hsame => hsame.mapping

/-- Documents that differ in order only describe the same configuration. -/
theorem Config.Describes.reordered {entries others : List (String × Value)} {config : Config}
    (hdescribes : Config.Describes entries config) (h : Reordered entries others)
    (hdistinct : (Value.table others).Distinct) : Config.Describes others config := by
  obtain ⟨hkeys, hvalues⟩ := Value.distinct_table_iff.mp hdistinct
  refine ⟨?_, hdescribes.types.related (h.lookup hkeys _) ?_,
    hdescribes.options.related (h.lookup hkeys _) ?_⟩
  · intro other hother
    obtain ⟨entry, hentry, hkey, -⟩ := h.exists_entry hother
    exact hkey ▸ hdescribes.keys entry hentry
  · rintro value other hother (_ | ⟨-, htypes⟩) hvalue
    · exact hvalue
    · obtain ⟨_, ⟨⟩, hmap⟩ := hvalue
      have htable := hvalues _ ((lookup_eq_some_iff_mem hkeys).mp hother)
      obtain ⟨-, hvalues⟩ := Value.distinct_table_iff.mp htable
      refine ⟨_, rfl, hmap.shuffled htypes ?_⟩
      intro entry _ other hother hsame type htype
      exact hsame.isType (hvalues other hother) htype
  · rintro value other - (_ | ⟨hkey, -⟩) hvalue
    · exact hvalue
    · exact absurd hkey (by decide)

end Reordered

namespace Config

/-- Where the configuration of a document does not show the order of its declarations, neither does
reading it. -/
theorem ofEntries_reordered {source source' : String} {entries others : List (String × Value)}
    {config : Config} (hread : Toml.read source = some entries)
    (hread' : Toml.read source' = some others) (h : Reordered entries others)
    (hconfig : ofEntries entries = .ok config) : ofEntries others = .ok config := by
  rw [ofEntries_eq_ok_iff (distinct_read hread)] at hconfig
  rw [ofEntries_eq_ok_iff (distinct_read hread')]
  exact hconfig.reordered h (distinct_read hread')

end Config
end InlineTag
