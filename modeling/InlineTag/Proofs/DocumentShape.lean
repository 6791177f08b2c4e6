import Mathlib
import InlineTag.Proofs.TableReading
import InlineTag.Proofs.Validity

/-!
# InlineTag.Proofs.DocumentShape

Which documents are configurations, and what is taken over from them.

* `IsType`, `TakenAs`: what the values of types and of options stand for.
* `Config.Describes`: the whole document.
* `Config.read_eq_ok_iff_describes`: a document is read as the configuration it describes, if the
  names in it are allowed, and is refused for its shape if it describes none.
-/

namespace InlineTag

open Toml

/-! ## The shape of a configuration -/

/-- What a part stands for that may be missing. -/
inductive PartOf {α : Type} (R : Value → α → Prop) (missing : α) : Option Value → α → Prop where
  | missing : PartOf R missing none missing
  | present {value : Value} {found : α} (hvalue : R value found) :
      PartOf R missing (some value) found

def IsText (value : Value) (text : String) : Prop :=
  value = .string text

def IsTexts (value : Value) (texts : List String) : Prop :=
  value = .array (texts.map .string)

def IsTemplate (value : Value) (template : Option String) : Prop :=
  ∃ text, IsText value text ∧ template = some text

/-- A type of which three parts are given, and what it has where they are missing. -/
@[mk_iff]
structure Parts (base : TypeConfig) (attributes template defaults : Option Value)
    (type : TypeConfig) : Prop where
  attributes : PartOf IsTexts base.attributes attributes type.attributes
  template : PartOf IsTemplate base.template template type.template
  defaults : PartOf (Mapping IsText) base.defaults defaults type.defaults

/-- A type: a table with no other keys than those of the parts, or an array that begins with the
parts. -/
inductive IsType : Value → TypeConfig → Prop where
  | table {entries : List (String × Value)} {type : TypeConfig}
      (hkeys : ∀ entry ∈ entries, entry.1 ∈ Config.partKeys)
      (hparts : Parts {} (entries.lookup "attributes") (entries.lookup "template")
        (entries.lookup "defaults") type) :
      IsType (.table entries) type
  | array {items : List Value} {type : TypeConfig}
      (hparts : Parts {} items[0]? items[1]? items[2]? type) : IsType (.array items) type

def IsTypes (value : Value) (types : NameMap TypeConfig) : Prop :=
  ∃ entries, value = .table entries ∧ MapOf IsType entries types

/-- What a value among the options is taken for: itself, with its tables in the order of their
keys, except for tables that begin with the key of a date or time. -/
inductive TakenAs : Value → Value → Prop where
  | plain {value : Value} (hplain : value.isPlain = true) : TakenAs value value
  | array {items taken : List Value} (hlength : items.length = taken.length)
      (hitems : ∀ pair ∈ items.zip taken, TakenAs pair.1 pair.2) :
      TakenAs (.array items) (.array taken)
  | table {entries : List (String × Value)} {taken : Bag}
      (hfirst : ∀ entry ∈ entries.head?, entry.1 ≠ momentKey)
      (hnames : ∀ name, name ∈ taken.names ↔ name ∈ entries.map (·.1))
      (hvalues : ∀ entry ∈ entries, ∀ found, taken.get? entry.1 = some found →
        TakenAs entry.2 found) :
      TakenAs (.table entries) (.table taken.entries)
  | moment {text : String} {instant : Moment} {rest : List (String × Value)}
      (htext : Moment.ofText? text = some instant) :
      TakenAs (.table ((momentKey, .string text) :: rest)) (.moment instant)

/-- A document with nothing but types and options, and the configuration of these. -/
structure Config.Describes (entries : List (String × Value)) (config : Config) : Prop where
  keys : ∀ entry ∈ entries, entry.1 ∈ ["types", "options"]
  types : PartOf IsTypes NameMap.empty (entries.lookup "types") config.types
  options : PartOf (Mapping TakenAs) NameMap.empty (entries.lookup "options") config.options

section Parts

variable {α : Type} {R : Value → α → Prop} {missing found : α} {value : Value}

@[simp] theorem partOf_none_iff : PartOf R missing none found ↔ found = missing := by
  constructor
  · rintro ⟨⟩
    rfl
  · rintro rfl
    exact .missing

@[simp] theorem partOf_some_iff : PartOf R missing (some value) found ↔ R value found := by
  constructor
  · rintro (_ | h)
    exact h
  · exact .present

end Parts

namespace Config

/-! ## Types -/

section Types

variable {value : Value} {entries : List (String × Value)} {type next found : TypeConfig}

theorem readText_eq_ok_iff {text : String} : readText value = .ok text ↔ IsText value text := by
  constructor
  · intro h
    cases value <;> cases h
    rfl
  · rintro rfl
    rfl

theorem readTexts_eq_ok_iff {items : List Value} {texts : List String} :
    readTexts items = .ok texts ↔ items = texts.map .string := by
  induction items generalizing texts with
  | nil =>
    rw [readTexts, Except.ok.injEq]
    cases texts <;> simp
  | cons item rest ih =>
    rw [readTexts]
    cases texts with
    | nil =>
      cases readText item <;> cases readTexts rest <;> simp
    | cons text texts =>
      rw [List.map_cons, List.cons.injEq, ← ih, ← IsText, ← readText_eq_ok_iff]
      cases readText item <;> cases readTexts rest <;> simp

theorem readAttributes_eq_ok_iff {attributes : List String} :
    readAttributes value = .ok attributes ↔ IsTexts value attributes := by
  cases value with
  | array items => rw [readAttributes, readTexts_eq_ok_iff, IsTexts, Value.array.injEq]
  | _ => simp [readAttributes, misplaced, IsTexts]

theorem readDefaults_eq (value : Value) : readDefaults value = readMap readText value := by
  have hentries (entries : List (String × Value)) :
      readDefaultEntries entries = readAll readText entries := by
    induction entries with
    | nil => rfl
    | cons entry rest ih =>
      obtain ⟨key, value⟩ := entry
      rw [readDefaultEntries, readAll, ih]
      cases readText value with
      | error fault => rfl
      | ok text => cases readAll readText rest <;> rfl
  rw [readDefaults, readMap]
  cases readEntries value with
  | error fault => rfl
  | ok entries =>
    dsimp only
    rw [hentries]
    cases readAll readText entries <;> rfl

theorem readDefaults_eq_ok_iff (hdistinct : value.Distinct) {defaults : NameMap String} :
    readDefaults value = .ok defaults ↔ Mapping IsText value defaults := by
  rw [readDefaults_eq]
  exact readMap_eq_ok_iff (fun _ _ _ => readText_eq_ok_iff) hdistinct

theorem readParts_cons_eq_ok_iff {key : String} {rest : List (String × Value)} :
    readParts type ((key, value) :: rest) = .ok found ↔
      ∃ next, readPart type key value = .ok next ∧ readParts next rest = .ok found := by
  rw [readParts]
  cases readPart type key value <;> simp

theorem readPart_attributes_iff : readPart type "attributes" value = .ok next ↔
    ∃ attributes, IsTexts value attributes ∧ next = { type with attributes } := by
  simp only [readPart, ← readAttributes_eq_ok_iff, if_pos]
  cases readAttributes value <;> simp [eq_comm]

theorem readPart_template_iff : readPart type "template" value = .ok next ↔
    ∃ template, IsTemplate value template ∧ next = { type with template } := by
  have hkey : "template" ≠ "attributes" := by decide
  simp only [readPart, IsTemplate, ← readText_eq_ok_iff, if_neg hkey, if_pos]
  cases readText value <;> simp [eq_comm]

theorem readPart_defaults_iff (hdistinct : value.Distinct) :
    readPart type "defaults" value = .ok next ↔
      ∃ defaults, Mapping IsText value defaults ∧ next = { type with defaults } := by
  have hkey : "defaults" ≠ "attributes" := by decide
  have hkey' : "defaults" ≠ "template" := by decide
  simp only [readPart, ← readDefaults_eq_ok_iff hdistinct, if_neg hkey, if_neg hkey', if_pos]
  cases readDefaults value <;> simp [eq_comm]

theorem mem_partKeys_of_readPart {key : String} (h : readPart type key value = .ok next) :
    key ∈ partKeys := by
  rw [readPart] at h
  split at h
  · rename_i hkey
    simp [partKeys, hkey]
  · split at h
    · rename_i hkey
      simp [partKeys, hkey]
    · split at h
      · rename_i hkey
        simp [partKeys, hkey]
      · cases h

/-- Reading the parts in their order is reading each by its key. The type that was read so far
gives what is there if no further entry does. -/
theorem readParts_eq_ok_iff (hdistinct : (Value.table entries).Distinct) :
    readParts type entries = .ok found ↔
      (∀ entry ∈ entries, entry.1 ∈ partKeys) ∧
        Parts type (entries.lookup "attributes") (entries.lookup "template")
          (entries.lookup "defaults") found := by
  induction entries generalizing type with
  | nil =>
    cases type
    cases found
    simp [readParts, parts_iff, eq_comm]
  | cons entry rest ih =>
    obtain ⟨key, value⟩ := entry
    obtain ⟨hkeys, hvalues⟩ := Value.distinct_table_iff.mp hdistinct
    obtain ⟨hkey, hkeys⟩ := List.nodup_cons.mp hkeys
    obtain ⟨hvalue, hvalues⟩ := List.forall_mem_cons.mp hvalues
    -- what the first entry gives is not read again from the others
    have hnone : rest.lookup key = none := NameMap.lookup_eq_none_iff.mpr hkey
    simp only [readParts_cons_eq_ok_iff, ih (.table hkeys hvalues), List.forall_mem_cons]
    by_cases hpart : key ∈ partKeys
    · simp only [partKeys, List.mem_cons, List.not_mem_nil, or_false] at hpart
      rcases hpart with rfl | rfl | rfl
      · simp [readPart_attributes_iff, partKeys, parts_iff, List.lookup_cons, hnone, and_left_comm]
      · simp [readPart_template_iff, partKeys, parts_iff, List.lookup_cons, hnone, and_left_comm]
      · simp [readPart_defaults_iff hvalue, partKeys, parts_iff, List.lookup_cons, hnone,
          and_assoc, and_left_comm, and_comm]
    · refine iff_of_false ?_ fun h => hpart h.1.1
      rintro ⟨next, hnext, -⟩
      exact hpart (mem_partKeys_of_readPart hnext)

theorem readType_eq_ok_iff (hdistinct : value.Distinct) :
    readType value = .ok type ↔ IsType value type := by
  cases value with
  | table entries =>
    rw [readType, readParts_eq_ok_iff hdistinct]
    constructor
    · rintro ⟨hkeys, hparts⟩
      exact .table hkeys hparts
    · rintro (⟨hkeys, hparts⟩ | _)
      exact ⟨hkeys, hparts⟩
  | array items =>
    have hzip : (Value.table (partKeys.zip items)).Distinct := by
      refine Value.distinct_table_iff.mpr ⟨?_, ?_⟩
      · rcases items with _ | ⟨a, _ | ⟨b, _ | ⟨c, rest⟩⟩⟩ <;> simp [partKeys]
      · intro entry hentry
        exact Value.distinct_array_iff.mp hdistinct entry.2 (List.of_mem_zip hentry).2
    have hkeys : ∀ entry ∈ partKeys.zip items, entry.1 ∈ partKeys :=
      fun entry hentry => (List.of_mem_zip hentry).1
    -- an item has the key of its place, and items beyond the keys are dropped
    have hlookup : (partKeys.zip items).lookup "attributes" = items[0]? ∧
        (partKeys.zip items).lookup "template" = items[1]? ∧
        (partKeys.zip items).lookup "defaults" = items[2]? := by
      rcases items with _ | ⟨a, _ | ⟨b, _ | ⟨c, rest⟩⟩⟩ <;> simp [partKeys, List.lookup_cons]
    rw [readType, readParts_eq_ok_iff hzip, hlookup.1, hlookup.2.1, hlookup.2.2]
    constructor
    · rintro ⟨-, hparts⟩
      exact .array hparts
    · rintro (_ | ⟨hparts⟩)
      exact ⟨hkeys, hparts⟩
  | moment instant =>
    have hkey : momentKey ∉ partKeys := by decide
    refine iff_of_false ?_ (by rintro ⟨⟩)
    intro h
    rw [readType, readParts_cons_eq_ok_iff] at h
    obtain ⟨next, hnext, -⟩ := h
    exact hkey (mem_partKeys_of_readPart hnext)
  | string | integer | float | boolean =>
    refine iff_of_false ?_ (by rintro ⟨⟩)
    rintro ⟨⟩

theorem readTypes_eq (value : Value) : readTypes value = readMap readType value := by
  have hentries (entries : List (String × Value)) :
      readTypeEntries entries = readAll readType entries := by
    induction entries with
    | nil => rfl
    | cons entry rest ih =>
      obtain ⟨key, value⟩ := entry
      rw [readTypeEntries, readAll, ih]
      cases readType value with
      | error fault => rfl
      | ok type => cases readAll readType rest <;> rfl
  rw [readTypes, readMap]
  cases readEntries value with
  | error fault => rfl
  | ok entries =>
    dsimp only
    rw [hentries]
    cases readAll readType entries <;> rfl

theorem readTypes_eq_ok_iff (hdistinct : value.Distinct) {types : NameMap TypeConfig} :
    readTypes value = .ok types ↔ IsTypes value types := by
  rw [readTypes_eq, readMap_eq_ok_iff (fun _ h _ => readType_eq_ok_iff h) hdistinct]
  constructor
  · rintro ⟨entries, htabular, hmap⟩
    cases htabular with
    | table => exact ⟨entries, rfl, hmap⟩
    | moment instant =>
      -- the one entry would be a type, and it is a string
      obtain ⟨type, htype⟩ := NameMap.mem_names_iff.mp
        ((hmap.names momentKey).mpr (List.mem_singleton_self _))
      cases hmap.values _ (List.mem_singleton_self _) type htype
  · rintro ⟨entries, rfl, hmap⟩
    exact ⟨entries, .table entries, hmap⟩

end Types

/-! ## Options -/

section Options

variable {value taken : Value} {entries : List (String × Value)} {items : List Value}

/-- Reads an option and puts its tables in order. -/
def takeOption (value : Value) : Except DocumentFault Value :=
  (readOption value).map Value.ordered

theorem orderedEntries_eq (entries : List (String × Value)) :
    Value.orderedEntries entries = entries.map fun entry => (entry.1, entry.2.ordered) := by
  induction entries with
  | nil => rw [Value.orderedEntries, List.map_nil]
  | cons entry rest ih =>
    obtain ⟨key, value⟩ := entry
    rw [Value.orderedEntries, ih, List.map_cons]

theorem readOptionEntries_eq (entries : List (String × Value)) :
    readOptionEntries entries = readAll readOption entries := by
  induction entries with
  | nil => rw [readOptionEntries, readAll]
  | cons entry rest ih =>
    obtain ⟨key, value⟩ := entry
    rw [readOptionEntries, readAll, ih]
    cases readOption value with
    | error fault => rfl
    | ok found => cases readAll readOption rest <;> rfl

theorem readOptionEntries_map (entries : List (String × Value)) :
    (readOptionEntries entries).map Value.orderedEntries = readAll takeOption entries := by
  rw [readOptionEntries_eq, funext orderedEntries_eq]
  exact readAll_map Value.ordered entries

theorem readOptions_eq (value : Value) : readOptions value = readMap takeOption value := by
  rw [readOptions, readMap]
  cases readEntries value with
  | error fault => rfl
  | ok entries =>
    dsimp only
    rw [← readOptionEntries_map]
    cases readOptionEntries entries <;> rfl

theorem takeOption_plain (h : value.isPlain = true) : takeOption value = .ok value := by
  cases value <;> first | rfl | cases h

theorem takeOption_table (h : ∀ entry ∈ entries.head?, entry.1 ≠ momentKey) :
    takeOption (.table entries) =
      (readAll takeOption entries).map fun pairs => .table (NameMap.ofList pairs).entries := by
  rw [← readOptionEntries_map, takeOption]
  cases entries with
  | nil => rfl
  | cons entry rest =>
    obtain ⟨key, value⟩ := entry
    have hkey : key ≠ momentKey := h (key, value) rfl
    rw [readOption, if_neg hkey]
    cases readOptionEntries ((key, value) :: rest) <;> rfl

theorem takeOption_moment (value : Value) (rest : List (String × Value)) :
    takeOption (.table ((momentKey, value) :: rest)) = readMoment value := by
  rw [takeOption, readOption, if_pos rfl]
  cases value with
  | string text =>
    rw [readMoment]
    cases Moment.ofText? text <;> rfl
  | _ => rfl

theorem readMoment_eq_ok_iff : readMoment value = .ok taken ↔
    ∃ text instant, value = .string text ∧ Moment.ofText? text = some instant ∧
      taken = .moment instant := by
  cases value with
  | string text =>
    rw [readMoment]
    cases hinstant : Moment.ofText? text with
    | none => simp [hinstant]
    | some instant => simp [hinstant, eq_comm]
  | _ => simp [readMoment, misplaced]

theorem readOptionItems_map_eq_ok_iff {found : List Value} :
    (readOptionItems items).map Value.orderedItems = .ok found ↔
      List.Forall₂ (fun item result => takeOption item = .ok result) items found := by
  induction items generalizing found with
  | nil => simp [readOptionItems, Except.map, Value.orderedItems, eq_comm]
  | cons item rest ih =>
    rw [readOptionItems, List.forall₂_cons_left_iff]
    simp only [← ih]
    rw [takeOption]
    cases readOption item with
    | error fault => simp [Except.map]
    | ok first =>
      cases readOptionItems rest with
      | error fault => simp [Except.map]
      | ok others => simp [Except.map, Value.orderedItems, @eq_comm _ found]

theorem takeOption_array_eq_ok_iff : takeOption (.array items) = .ok taken ↔
    ∃ found, List.Forall₂ (fun item result => takeOption item = .ok result) items found ∧
      taken = .array found := by
  simp only [← readOptionItems_map_eq_ok_iff]
  rw [takeOption, readOption]
  cases readOptionItems items with
  | error fault => simp [Except.map]
  | ok found => simp [Except.map, Value.ordered, @eq_comm _ taken]

/-- An option is taken over as the relation says. The induction is on the depth of the value, by
the derivation that its keys are distinct. -/
theorem takeOption_eq_ok_iff (hdistinct : value.Distinct) :
    takeOption value = .ok taken ↔ TakenAs value taken := by
  induction hdistinct generalizing taken with
  | plain hplain =>
    rw [takeOption_plain hplain, Except.ok.injEq]
    constructor
    · rintro rfl
      exact .plain hplain
    · intro h
      cases h with
      | plain => rfl
      | _ => cases hplain
  | @array items hitems ih =>
    rw [takeOption_array_eq_ok_iff]
    constructor
    · rintro ⟨found, hfound, rfl⟩
      refine .array hfound.length_eq fun pair hpair => ?_
      exact (ih _ (List.of_mem_zip hpair).1).mp (List.forall₂_zip hfound hpair)
    · intro h
      cases h with
      | plain hplain => cases hplain
      | @array _ found hlength hfound =>
        refine ⟨found, List.forall₂_iff_zip.mpr ⟨hlength, fun {item result} hpair => ?_⟩, rfl⟩
        exact (ih _ (List.of_mem_zip hpair).1).mpr (hfound _ hpair)
  | @table entries hkeys hvalues ih =>
    by_cases hfirst : ∀ entry ∈ entries.head?, entry.1 ≠ momentKey
    · have hmap : takeOption (.table entries) = .ok taken ↔
          ∃ found : Bag, MapOf TakenAs entries found ∧ taken = .table found.entries := by
        rw [takeOption_table hfirst]
        simp only [← exists_readAll_iff hkeys fun entry hentry _ => ih entry hentry]
        cases readAll takeOption entries <;> simp [Except.map, eq_comm]
      rw [hmap]
      constructor
      · rintro ⟨found, ⟨hnames, hfound⟩, rfl⟩
        exact .table hfirst hnames hfound
      · intro h
        cases h with
        | plain hplain => cases hplain
        | table _ hnames hfound => exact ⟨_, ⟨hnames, hfound⟩, rfl⟩
        | moment => exact absurd rfl (hfirst _ rfl)
    · obtain ⟨value, rest, rfl⟩ : ∃ value rest, entries = (momentKey, value) :: rest := by
        cases entries with
        | nil => simp at hfirst
        | cons entry rest =>
          refine ⟨entry.2, rest, ?_⟩
          have hkey : entry.1 = momentKey := by simpa using hfirst
          rw [← hkey]
      rw [takeOption_moment, readMoment_eq_ok_iff]
      constructor
      · rintro ⟨text, instant, rfl, htext, rfl⟩
        exact .moment htext
      · intro h
        cases h with
        | plain hplain => cases hplain
        | table hfirst' => exact absurd hfirst' hfirst
        | moment htext => exact ⟨_, _, rfl, htext, rfl⟩

theorem readOptions_eq_ok_iff (hdistinct : value.Distinct) {options : Bag} :
    readOptions value = .ok options ↔ Mapping TakenAs value options := by
  rw [readOptions_eq]
  exact readMap_eq_ok_iff (fun _ h _ => takeOption_eq_ok_iff h) hdistinct

end Options

/-! ## Documents -/

section Documents

variable {source key : String} {value : Value} {entries : List (String × Value)}
  {config found : Config}

theorem readTables_types_iff : readTables config (("types", value) :: entries) = .ok found ↔
    ∃ types, readTypes value = .ok types ∧
      readTables { config with types } entries = .ok found := by
  rw [readTables, if_pos rfl]
  cases readTypes value <;> simp

theorem readTables_options_iff : readTables config (("options", value) :: entries) = .ok found ↔
    ∃ options, readOptions value = .ok options ∧
      readTables { config with options } entries = .ok found := by
  have hkey : "options" ≠ "types" := by decide
  rw [readTables, if_neg hkey, if_pos rfl]
  cases readOptions value <;> simp

theorem readTables_eq_ok_iff (hdistinct : (Value.table entries).Distinct) :
    readTables config entries = .ok found ↔
      (∀ entry ∈ entries, entry.1 ∈ ["types", "options"]) ∧
        PartOf IsTypes config.types (entries.lookup "types") found.types ∧
        PartOf (Mapping TakenAs) config.options (entries.lookup "options") found.options := by
  induction entries generalizing config with
  | nil =>
    cases config
    cases found
    simp [readTables, eq_comm]
  | cons entry rest ih =>
    obtain ⟨key, value⟩ := entry
    obtain ⟨hkeys, hvalues⟩ := Value.distinct_table_iff.mp hdistinct
    obtain ⟨hkey, hkeys⟩ := List.nodup_cons.mp hkeys
    obtain ⟨hvalue, hvalues⟩ := List.forall_mem_cons.mp hvalues
    have hnone : rest.lookup key = none := NameMap.lookup_eq_none_iff.mpr hkey
    replace ih {config : Config} := @ih config (.table hkeys hvalues)
    by_cases htypes : key = "types"
    · subst htypes
      simp [readTables_types_iff, readTypes_eq_ok_iff hvalue, ih, List.lookup_cons, hnone,
        and_left_comm]
    · by_cases hoptions : key = "options"
      · subst hoptions
        simp [readTables_options_iff, readOptions_eq_ok_iff hvalue, ih, List.lookup_cons, hnone,
          and_assoc, and_comm]
      · rw [readTables, if_neg htypes, if_neg hoptions]
        refine iff_of_false (by rintro ⟨⟩) fun h => ?_
        simpa [htypes, hoptions] using h.1 (key, value) List.mem_cons_self

theorem ofEntries_eq_ok_iff (hdistinct : (Value.table entries).Distinct) :
    ofEntries entries = .ok config ↔ Describes entries config := by
  rw [ofEntries, readTables_eq_ok_iff hdistinct]
  constructor
  · rintro ⟨hkeys, htypes, hoptions⟩
    exact ⟨hkeys, htypes, hoptions⟩
  · rintro ⟨hkeys, htypes, hoptions⟩
    exact ⟨hkeys, htypes, hoptions⟩

/-- A document is read as the configuration that it describes, if that uses allowed names only.
It is refused as a document if it describes none. -/
theorem read_eq_ok_iff_describes (hread : Toml.read source = some entries) :
    (∀ config, Config.read source = .ok config ↔ Describes entries config ∧
      ∀ name type, config.types.get? name = some type → type.Valid name) ∧
    ((∃ fault, Config.read source = .error (.document fault)) ↔
      ∀ config, ¬ Describes entries config) := by
  simp only [← ofEntries_eq_ok_iff (distinct_read hread), ← fault?_eq_none_iff, Config.read, hread]
  cases ofEntries entries with
  | error fault => simp
  | ok found =>
    cases hfault : found.fault? with
    | none => simp [hfault]
    | some fault => simp [hfault, NameFault.toFault]

theorem read_eq_ok_iff_describes_dotted :
    (∃ entries,
      Toml.read "types.a.attributes = ['b', 'b']\ntypes.a.defaults.b = 'c'\noptions.d = [1]\n" =
        some entries ∧
      Describes entries
        { types := NameMap.ofList [("a", ⟨["b", "b"], none, NameMap.ofList [("b", "c")]⟩)]
          options := NameMap.ofList [("d", .array [.integer 1])] }) ∧
    (∃ entries, Toml.read "types.a.attribtes = ['b']\n" = some entries ∧
      ∀ config, ¬ Describes entries config) := by
  have hread : Toml.read
      "types.a.attributes = ['b', 'b']\ntypes.a.defaults.b = 'c'\noptions.d = [1]\n" =
      some [("types", .table [("a", .table [("attributes", .array [.string "b", .string "b"]),
          ("defaults", .table [("b", .string "c")])])]),
        ("options", .table [("d", .array [.integer 1])])] := by
    cbv
  have hmisspelt : Toml.read "types.a.attribtes = ['b']\n" =
      some [("types", .table [("a", .table [("attribtes", .array [.string "b"])])])] := by
    cbv
  refine ⟨⟨_, hread, (((read_eq_ok_iff_describes hread).1 _).mp ?_).1⟩,
    ⟨_, hmisspelt, (read_eq_ok_iff_describes hmisspelt).2.mp ⟨?_, ?_⟩⟩⟩
  · cbv
  · exact .unknownField "attribtes" "one of `attributes`, `template`, `defaults`"
  · cbv

/-- Documents of other shapes that are read all the same: a type that is an array, options that are
a date, and an option that begins with the key of a date. -/
theorem read_other_shapes :
    (Toml.read "types.a = [['x'], 't', \x7b\x7d, 'rest']\n" =
        some [("types", .table [("a",
          .array [.array [.string "x"], .string "t", .table [], .string "rest"])])] ∧
      Config.read "types.a = [['x'], 't', \x7b\x7d, 'rest']\n" =
        .ok { types := NameMap.ofList [("a", ⟨["x"], some "t", NameMap.empty⟩)] }) ∧
    (Toml.read "options = 2020-01-02\n" =
        some [("options", .moment (.date ⟨2020, 1, 2⟩))] ∧
      Config.read "options = 2020-01-02\n" =
        .ok { options := NameMap.ofList [(momentKey, .string "2020-01-02")] }) ∧
    (Toml.read "options.x = \x7b'$__toml_private_datetime' = '2020-01-02', y = 1\x7d\n" =
        some [("options", .table [("x",
          .table [(momentKey, .string "2020-01-02"), ("y", .integer 1)])])] ∧
      Config.read "options.x = \x7b'$__toml_private_datetime' = '2020-01-02', y = 1\x7d\n" =
        .ok { options := NameMap.ofList [("x", .moment (.date ⟨2020, 1, 2⟩))] }) := by
  refine ⟨⟨?_, ?_⟩, ⟨?_, ?_⟩, ⟨?_, ?_⟩⟩ <;> cbv

end Documents

end Config
end InlineTag
