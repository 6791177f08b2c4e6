import Mathlib
import InlineTag.Config.Shape
import InlineTag.Proofs.DistinctKeys
import InlineTag.Proofs.Lookups

/-!
# InlineTag.Proofs.TableReading

Reading of a table that may have any keys, and whose values are all read in one way. The reader
stops at the first fault; the relation says what the values stand for.

* `MapOf`: the map that the entries of a table stand for.
* `Config.readMap`: the reader, of which the readers of defaults, types and options are cases.
* `Config.readMap_eq_ok_iff`: it reads what the relation says, if no key stands twice.
-/

namespace InlineTag

open Toml

/-- A map with the names of the entries, and under each name what the value stands for. -/
structure MapOf {α : Type} (R : Value → α → Prop) (entries : List (String × Value))
    (map : NameMap α) : Prop where
  names : ∀ name, name ∈ map.names ↔ name ∈ entries.map (·.1)
  values : ∀ entry ∈ entries, ∀ found, map.get? entry.1 = some found → R entry.2 found

/-- The entries of a table; a date or time stands for a table with one entry. -/
inductive Tabular : Value → List (String × Value) → Prop where
  | table (entries : List (String × Value)) : Tabular (.table entries) entries
  | moment (instant : Moment) : Tabular (.moment instant) [(momentKey, .string instant.text)]

/-- A table, or what stands for one, as a map. -/
def Mapping {α : Type} (R : Value → α → Prop) (value : Value) (map : NameMap α) : Prop :=
  ∃ entries, Tabular value entries ∧ MapOf R entries map

/-- At most one map stands for the entries, if at most one thing stands for each value. -/
theorem MapOf.unique {α : Type} {R : Value → α → Prop} {entries : List (String × Value)}
    {a b : NameMap α} (hR : ∀ entry ∈ entries, ∀ x y, R entry.2 x → R entry.2 y → x = y)
    (ha : MapOf R entries a) (hb : MapOf R entries b) : a = b := by
  refine NameMap.ext_get? fun name => ?_
  by_cases hname : name ∈ entries.map (·.1)
  · obtain ⟨x, hx⟩ := NameMap.mem_names_iff.mp ((ha.names name).mpr hname)
    obtain ⟨y, hy⟩ := NameMap.mem_names_iff.mp ((hb.names name).mpr hname)
    obtain ⟨entry, hentry, rfl⟩ := List.mem_map.mp hname
    rw [hx, hy, hR entry hentry x y (ha.values entry hentry x hx) (hb.values entry hentry y hy)]
  · rw [NameMap.get?_eq_none_iff.mpr (mt (ha.names name).mp hname),
      NameMap.get?_eq_none_iff.mpr (mt (hb.names name).mp hname)]

namespace Config

section Maps

variable {α β : Type} {R : Value → α → Prop} {read : Value → Except DocumentFault α}
  {entries : List (String × Value)} {pairs : List (String × α)} {value : Value} {map : NameMap α}

/-- Reads the value of every entry, up to the first fault. -/
def readAll (read : Value → Except DocumentFault α) :
    List (String × Value) → Except DocumentFault (List (String × α))
  | [] => .ok []
  | (key, value) :: rest =>
    match read value with
    | .error fault => .error fault
    | .ok found =>
      match readAll read rest with
      | .error fault => .error fault
      | .ok others => .ok ((key, found) :: others)

/-- Reads a table of which every value is read in the same way. -/
def readMap (read : Value → Except DocumentFault α) (value : Value) :
    Except DocumentFault (NameMap α) :=
  match readEntries value with
  | .error fault => .error fault
  | .ok entries =>
    match readAll read entries with
    | .error fault => .error fault
    | .ok pairs => .ok (NameMap.ofList pairs)

theorem keys_readAll (h : readAll read entries = .ok pairs) :
    pairs.map (·.1) = entries.map (·.1) := by
  fun_induction readAll read entries generalizing pairs with
  | case1 =>
    cases h
    rfl
  | case2 | case3 => cases h
  | case4 _ _ _ _ _ _ hothers ih =>
    cases h
    rw [List.map_cons, List.map_cons, ih hothers]

theorem mem_readAll (h : readAll read entries = .ok pairs) :
    ∀ pair ∈ pairs, ∃ entry ∈ entries, entry.1 = pair.1 ∧ read entry.2 = .ok pair.2 := by
  fun_induction readAll read entries generalizing pairs with
  | case1 =>
    cases h
    simp
  | case2 | case3 => cases h
  | case4 key value _ _ hfound _ hothers ih =>
    cases h
    refine List.forall_mem_cons.mpr ⟨⟨(key, value), List.mem_cons_self, rfl, hfound⟩, ?_⟩
    intro pair hpair
    obtain ⟨entry, hentry, hread⟩ := ih hothers pair hpair
    exact ⟨entry, List.mem_cons_of_mem _ hentry, hread⟩

theorem exists_readAll (h : ∀ entry ∈ entries, ∃ found, read entry.2 = .ok found) :
    ∃ pairs, readAll read entries = .ok pairs := by
  induction entries with
  | nil => exact ⟨[], rfl⟩
  | cons entry rest ih =>
    obtain ⟨key, value⟩ := entry
    obtain ⟨⟨found, hfound⟩, hrest⟩ := List.forall_mem_cons.mp h
    obtain ⟨others, hothers⟩ := ih hrest
    exact ⟨(key, found) :: others, by rw [readAll, hfound, hothers]⟩

theorem mapOf_of_readAll (hkeys : (entries.map (·.1)).Nodup)
    (hread : ∀ entry ∈ entries, ∀ found, read entry.2 = .ok found ↔ R entry.2 found)
    (h : readAll read entries = .ok pairs) : MapOf R entries (NameMap.ofList pairs) := by
  constructor
  · intro name
    rw [← keys_readAll h, ← not_iff_not, ← NameMap.get?_eq_none_iff,
      NameMap.get?_ofList_eq_none_iff]
    simp only [List.mem_map, not_exists, not_and, ne_eq]
  · intro entry hentry found hfound
    obtain ⟨front, back, hpairs, -⟩ := NameMap.get?_ofList_eq_some_iff.mp hfound
    obtain ⟨entry', hentry', hkey, hvalue⟩ := mem_readAll h (entry.1, found) (by simp [hpairs])
    -- there is but one entry of a key
    rw [List.inj_on_of_nodup_map hkeys hentry' hentry hkey] at hvalue
    exact (hread entry hentry found).mp hvalue

theorem exists_readAll_iff (hkeys : (entries.map (·.1)).Nodup)
    (hread : ∀ entry ∈ entries, ∀ found, read entry.2 = .ok found ↔ R entry.2 found) :
    (∃ pairs, readAll read entries = .ok pairs ∧ NameMap.ofList pairs = map) ↔
      MapOf R entries map := by
  constructor
  · rintro ⟨pairs, hpairs, rfl⟩
    exact mapOf_of_readAll hkeys hread hpairs
  · intro h
    obtain ⟨pairs, hpairs⟩ : ∃ pairs, readAll read entries = .ok pairs := by
      refine exists_readAll fun entry hentry => ?_
      obtain ⟨found, hfound⟩ := NameMap.mem_names_iff.mp
        ((h.names entry.1).mpr (List.mem_map_of_mem hentry))
      exact ⟨found, (hread entry hentry found).mpr (h.values entry hentry found hfound)⟩
    refine ⟨pairs, hpairs, (mapOf_of_readAll hkeys hread hpairs).unique ?_ h⟩
    intro entry hentry x y hx hy
    have hx := (hread entry hentry x).mpr hx
    have hy := (hread entry hentry y).mpr hy
    exact Except.ok.inj (hx.symm.trans hy)

theorem readEntries_eq_ok_iff : readEntries value = .ok entries ↔ Tabular value entries := by
  constructor
  · intro h
    cases value <;> cases h
    · exact .moment _
    · exact .table _
  · rintro (_ | _) <;> rfl

theorem distinct_of_tabular (h : Tabular value entries) (hdistinct : value.Distinct) :
    (Value.table entries).Distinct := by
  cases h with
  | table => exact hdistinct
  | moment =>
    refine Value.distinct_table_iff.mpr ⟨List.nodup_singleton _, ?_⟩
    simpa using .plain rfl

theorem readMap_eq_ok_iff
    (hread : ∀ value, value.Distinct → ∀ found, read value = .ok found ↔ R value found)
    (hdistinct : value.Distinct) : readMap read value = .ok map ↔ Mapping R value map := by
  have hentries : readMap read value = .ok map ↔ ∃ entries, Tabular value entries ∧
      ∃ pairs, readAll read entries = .ok pairs ∧ NameMap.ofList pairs = map := by
    simp only [readMap, ← readEntries_eq_ok_iff]
    cases readEntries value with
    | error fault => simp
    | ok entries => cases hall : readAll read entries <;> simp [hall]
  rw [hentries, Mapping]
  refine exists_congr fun entries => and_congr_right fun htabular => ?_
  obtain ⟨hkeys, hvalues⟩ :=
    Value.distinct_table_iff.mp (distinct_of_tabular htabular hdistinct)
  exact exists_readAll_iff hkeys fun entry hentry => hread entry.2 (hvalues entry hentry)

theorem readAll_map (f : α → β) (entries : List (String × Value)) :
    (readAll read entries).map (List.map fun pair => (pair.1, f pair.2)) =
      readAll (fun value => (read value).map f) entries := by
  induction entries with
  | nil => rfl
  | cons entry rest ih =>
    obtain ⟨key, value⟩ := entry
    rw [readAll, readAll, ← ih]
    cases read value with
    | error fault => rfl
    | ok found => cases readAll read rest <;> rfl

end Maps
end Config
end InlineTag
