import Mathlib
import InlineTag.Proofs.ByteOrder
import InlineTag.Proofs.DocumentOrder

/-!
# InlineTag.Proofs.FirstFault

Which of several faults in the names of a configuration is reported.

* `Place`, `Place.Before`: where a name is looked at, and in which order.
* `Config.FaultAt`: what is wrong at a place, told of that place alone.
* `Config.fault?_eq_some_iff`: the first fault in this order is the one reported.
* `Config.fault_reported`: the order of a document makes no difference to it, nor do types without
  a fault.
-/

namespace InlineTag

open Text Toml

/-! ## Places -/

/-- A name in the declaration of a type. -/
inductive Spot where
  | name
  | word (index : Nat)
  | default (key : String)

/-- A name in a configuration: in the declaration of which type, and where there. -/
structure Place where
  type : String
  spot : Spot

/-- First the name of the type, then its attributes as they are listed, then its defaults by the
bytes of their keys. -/
inductive Spot.Before : Spot → Spot → Prop where
  | name_word (index : Nat) : Before .name (.word index)
  | name_default (key : String) : Before .name (.default key)
  | word_default (index : Nat) (key : String) : Before (.word index) (.default key)
  | words {i j : Nat} (h : i < j) : Before (.word i) (.word j)
  | defaults {key other : String} (h : bytes key < bytes other) :
      Before (.default key) (.default other)

/-- Types come by the bytes of their names. -/
def Place.Before (place other : Place) : Prop :=
  bytes place.type < bytes other.type ∨ place.type = other.type ∧ place.spot.Before other.spot

theorem not_bytes_lt_self (text : String) : ¬ bytes text < bytes text := by
  rw [bytes_lt_iff]
  exact String.lt_irrefl text

theorem Spot.Before.asymm {spot other : Spot} (h : spot.Before other) : ¬ other.Before spot := by
  intro h'
  cases h with
  | words h =>
    cases h' with
    | words h' => omega
  | defaults h =>
    cases h' with
    | defaults h' => exact List.lt_asymm h h'
  | _ => cases h'

theorem Place.Before.asymm {place other : Place} (h : place.Before other) :
    ¬ other.Before place := by
  rintro (hlt' | ⟨heq', hspot'⟩)
  · rcases h with hlt | ⟨heq, -⟩
    · exact List.lt_asymm hlt hlt'
    · exact not_bytes_lt_self _ (heq ▸ hlt')
  · rcases h with hlt | ⟨-, hspot⟩
    · exact not_bytes_lt_self _ (heq' ▸ hlt)
    · exact hspot.asymm hspot'

/-! ## Faults -/

/-- A name that a type may have. -/
structure IsTypeName (name : String) : Prop where
  ne : name ≠ ""
  trimmed : trim name.toList = name.toList
  no_colon : ':' ∉ name.toList

/-- What is wrong at a spot of a type. -/
inductive TypeConfig.FaultAt (type : TypeConfig) (name : String) : Spot → NameFault → Prop where
  | name (hname : ¬ IsTypeName name) : FaultAt type name .name (.badType name)
  | word {index : Nat} {word : String} (hword : type.attributes[index]? = some word)
      (hbad : ¬ IsWord word.toList) :
      FaultAt type name (.word index) (.badAttribute word name)
  | default {key text : String} (hkey : type.defaults.get? key = some text)
      (hstray : key ∉ type.attributes) : FaultAt type name (.default key) (.strayDefault key name)

/-- What is wrong at a place of a configuration. -/
def Config.FaultAt (config : Config) (place : Place) (fault : NameFault) : Prop :=
  ∃ type, config.types.get? place.type = some type ∧ type.FaultAt place.type place.spot fault

/-- The fault at a spot, with none at any spot before. -/
def TypeConfig.FirstFault (type : TypeConfig) (name : String) (fault : NameFault) : Prop :=
  ∃ spot, type.FaultAt name spot fault ∧
    ∀ other found, type.FaultAt name other found → other = spot ∨ spot.Before other

/-- The fault at a place, with none at any place before. -/
def Config.FirstFault (config : Config) (fault : NameFault) : Prop :=
  ∃ place, config.FaultAt place fault ∧
    ∀ other found, config.FaultAt other found → other = place ∨ place.Before other

namespace TypeConfig

variable {type : TypeConfig} {name : String} {spot : Spot} {fault found : NameFault}

theorem FaultAt.unique (h : type.FaultAt name spot fault) (h' : type.FaultAt name spot found) :
    fault = found := by
  cases h with
  | name =>
    cases h'
    rfl
  | word hword =>
    cases h' with
    | word hword' =>
      rw [hword] at hword'
      cases hword'
      rfl
  | default =>
    cases h'
    rfl

theorem not_isTypeName_iff : (!isTypeName name) = true ↔ ¬ IsTypeName name := by
  rw [Bool.not_eq_true', ← Bool.not_eq_true, isTypeName_iff]
  exact not_congr ⟨fun ⟨hne, htrimmed, hcolon⟩ => ⟨hne, htrimmed, hcolon⟩,
    fun ⟨hne, htrimmed, hcolon⟩ => ⟨hne, htrimmed, hcolon⟩⟩

theorem not_isAttributeName_iff {word : String} :
    (!isAttributeName word) = true ↔ ¬ IsWord word.toList := by
  rw [Bool.not_eq_true', ← Bool.not_eq_true, isAttributeName_iff]

theorem isAttributeName_of_not {word : String} (h : (!(!isAttributeName word)) = true) :
    IsWord word.toList := by
  rw [Bool.not_not] at h
  exact isAttributeName_iff.mp h

theorem firstFault_badType (h : ¬ IsTypeName name) : type.FirstFault name (.badType name) := by
  refine ⟨.name, .name h, ?_⟩
  rintro other found (_ | _ | _)
  · exact .inl rfl
  · exact .inr (.name_word _)
  · exact .inr (.name_default _)

theorem firstFault_badAttribute {word : String} (hname : IsTypeName name)
    (hfind : (type.attributes.find? fun word => !isAttributeName word) = some word) :
    type.FirstFault name (.badAttribute word name) := by
  obtain ⟨hbad, i, hi, hword, hbefore⟩ := List.find?_eq_some_iff_getElem.mp hfind
  refine ⟨.word i, .word (List.getElem?_eq_some_iff.mpr ⟨hi, hword⟩)
    (not_isAttributeName_iff.mp hbad), ?_⟩
  rintro other found (hbad' | ⟨hword', hbad'⟩ | _)
  · exact absurd hname hbad'
  · rename_i j word'
    rcases Nat.lt_trichotomy i j with hlt | rfl | hlt
    · exact .inr (.words hlt)
    · exact .inl rfl
    · obtain ⟨hj, rfl⟩ := List.getElem?_eq_some_iff.mp hword'
      exact absurd (isAttributeName_of_not (hbefore j hlt)) hbad'
  · exact .inr (.word_default _ _)

theorem firstFault_strayDefault {key : String} (hname : IsTypeName name)
    (hwords : (type.attributes.find? fun word => !isAttributeName word) = none)
    (hfind : (type.defaults.names.find? fun key => !type.attributes.contains key) = some key) :
    type.FirstFault name (.strayDefault key name) := by
  obtain ⟨hstray, front, back, hnames, hbefore⟩ := List.find?_eq_some_iff_append.mp hfind
  have hascending : type.defaults.names.Pairwise (· < ·) :=
    List.pairwise_map.mpr type.defaults.ascending
  obtain ⟨text, hkey⟩ :=
    NameMap.mem_names_iff.mp (show key ∈ type.defaults.names by simp [hnames])
  refine ⟨.default key, .default hkey (by simpa using hstray), ?_⟩
  rintro other found (hbad' | ⟨hword', hbad'⟩ | ⟨hkey', hstray'⟩)
  · exact absurd hname hbad'
  · have hgood := List.find?_eq_none.mp hwords _ (List.mem_of_getElem? hword')
    exact absurd (isAttributeName_of_not (by simpa using hgood)) hbad'
  · rename_i key' text'
    have hmem : key' ∈ type.defaults.names := NameMap.mem_names_iff.mpr ⟨_, hkey'⟩
    rw [hnames] at hascending hmem
    rcases List.mem_append.mp hmem with hmem | hmem
    · exact absurd (by simpa using hbefore key' hmem) hstray'
    · rcases List.mem_cons.mp hmem with rfl | hmem
      · exact .inl rfl
      · refine .inr (.defaults (bytes_lt_iff.mpr ?_))
        exact (List.pairwise_cons.mp (List.pairwise_append.mp hascending).2.1).1 key' hmem

/-- The fault of a type is the first one. -/
theorem firstFault_of_fault? (h : type.fault? name = some fault) : type.FirstFault name fault := by
  rw [fault?] at h
  split at h
  · rename_i hname
    cases h
    exact firstFault_badType (not_isTypeName_iff.mp hname)
  · rename_i hname
    rw [not_isTypeName_iff, not_not] at hname
    split at h
    · rename_i word hfind
      cases h
      exact firstFault_badAttribute hname hfind
    · rename_i hwords
      split at h
      · rename_i key hfind
        cases h
        exact firstFault_strayDefault hname hwords hfind
      · cases h

theorem fault?_eq_none_iff_faultAt :
    type.fault? name = none ↔ ∀ spot fault, ¬ type.FaultAt name spot fault := by
  constructor
  · intro h spot fault hfault
    have hvalid := fault?_eq_none_iff.mp h
    cases hfault with
    | name hname => exact hname ⟨hvalid.name_ne, hvalid.name_trimmed, hvalid.name_no_colon⟩
    | word hword hbad => exact hbad (hvalid.words _ (List.mem_of_getElem? hword))
    | default hkey hstray => exact hstray (hvalid.defaults _ _ hkey)
  · intro h
    refine Option.eq_none_iff_forall_ne_some.mpr fun fault hfault => ?_
    obtain ⟨spot, hspot, -⟩ := firstFault_of_fault? hfault
    exact h spot fault hspot

end TypeConfig

namespace Config

variable {config : Config} {place : Place} {fault found : NameFault}

theorem FaultAt.unique (h : config.FaultAt place fault) (h' : config.FaultAt place found) :
    fault = found := by
  obtain ⟨type, htype, hfault⟩ := h
  obtain ⟨type', htype', hfault'⟩ := h'
  rw [htype] at htype'
  cases htype'
  exact hfault.unique hfault'

theorem FirstFault.unique (h : config.FirstFault fault) (h' : config.FirstFault found) :
    fault = found := by
  obtain ⟨place, hplace, hfirst⟩ := h
  obtain ⟨place', hplace', hfirst'⟩ := h'
  rcases hfirst place' found hplace' with rfl | hbefore
  · exact hplace.unique hplace'
  · rcases hfirst' place fault hplace with rfl | hbefore'
    · exact hplace.unique hplace'
    · exact absurd hbefore' hbefore.asymm

/-- The fault of a configuration is the first one: the types before its type have none, and it is
the first of its type. -/
theorem firstFault_of_fault? (h : config.fault? = some fault) : config.FirstFault fault := by
  rw [fault?] at h
  obtain ⟨front, ⟨name, type⟩, back, hentries, hfault, hfront⟩ := List.findSome?_eq_some_iff.mp h
  obtain ⟨spot, hspot, hfirst⟩ := TypeConfig.firstFault_of_fault? hfault
  have hascending := config.types.ascending
  have hget : config.types.get? name = some type :=
    NameMap.get?_eq_some_iff.mpr (by simp [hentries])
  refine ⟨⟨name, spot⟩, ⟨type, hget, hspot⟩, ?_⟩
  rintro ⟨name', spot'⟩ found ⟨type', hget', hspot'⟩
  have hmem := NameMap.get?_eq_some_iff.mp hget'
  rw [hentries] at hmem hascending
  rcases List.mem_append.mp hmem with hmem | hmem
  · exact absurd hspot' (TypeConfig.fault?_eq_none_iff_faultAt.mp (hfront _ hmem) _ _)
  · rcases List.mem_cons.mp hmem with heq | hmem
    · cases heq
      rcases hfirst spot' found hspot' with rfl | hbefore
      · exact .inl rfl
      · exact .inr (.inr ⟨rfl, hbefore⟩)
    · refine .inr (.inl (bytes_lt_iff.mpr ?_))
      exact (List.pairwise_cons.mp (List.pairwise_append.mp hascending).2.1).1 _ hmem

theorem fault?_eq_none_iff_faultAt :
    config.fault? = none ↔ ∀ place fault, ¬ config.FaultAt place fault := by
  rw [fault?_eq_none_iff]
  constructor
  · rintro h place fault ⟨type, htype, hfault⟩
    have hnone := TypeConfig.fault?_eq_none_iff.mpr (h place.type type htype)
    exact TypeConfig.fault?_eq_none_iff_faultAt.mp hnone _ _ hfault
  · intro h name type htype
    refine TypeConfig.fault?_eq_none_iff.mp (TypeConfig.fault?_eq_none_iff_faultAt.mpr ?_)
    intro spot fault hfault
    exact h ⟨name, spot⟩ fault ⟨type, htype, hfault⟩

/-- The first fault is reported, and no other. -/
theorem fault?_eq_some_iff : config.fault? = some fault ↔ config.FirstFault fault := by
  refine ⟨firstFault_of_fault?, fun h => ?_⟩
  cases hfound : config.fault? with
  | none =>
    obtain ⟨place, hplace, -⟩ := h
    exact absurd hplace (fault?_eq_none_iff_faultAt.mp hfound place fault)
  | some found => rw [(firstFault_of_fault? hfound).unique h]

/-- Configurations with the same faults at the same places report the same. -/
theorem fault?_congr {other : Config}
    (h : ∀ place fault, config.FaultAt place fault ↔ other.FaultAt place fault) :
    config.fault? = other.fault? := by
  refine Option.ext fun fault => ?_
  simp only [fault?_eq_some_iff, FirstFault, h]

/-- The configuration with one type more. -/
def withType (config : Config) (name : String) (type : TypeConfig) : Config :=
  { config with types := config.types.insert name type }

theorem faultAt_withType_iff {name : String} {type : TypeConfig}
    (hnew : config.types.get? name = none) (hfree : ∀ spot fault, ¬ type.FaultAt name spot fault) :
    (config.withType name type).FaultAt place fault ↔ config.FaultAt place fault := by
  rw [FaultAt, FaultAt, withType]
  by_cases hname : place.type = name
  · rw [hname, hnew, NameMap.get?_insert_self]
    constructor
    · rintro ⟨_, ⟨⟩, hfault⟩
      exact absurd hfault (hfree _ _)
    · rintro ⟨_, ⟨⟩, -⟩
  · rw [NameMap.get?_insert_ne _ hname]

theorem read_eq_of_fault? {source : String} {entries : List (String × Value)}
    (hread : Toml.read source = some entries) (hconfig : ofEntries entries = .ok config) :
    (∀ fault, config.fault? = some fault → read source = .error (.config fault.message)) ∧
      (config.fault? = none → read source = .ok config) := by
  constructor
  · intro fault hfault
    rw [read, hread]
    simp only [hconfig, hfault, NameFault.toFault]
  · intro hfault
    rw [read, hread]
    simp only [hconfig, hfault]

/-- A configuration is refused exactly when there is a fault in it: a type with a name that is not
allowed, an attribute with such a name, or a default that belongs to no attribute. The first fault
is the one reported, where types come by the bytes of their names, and in each type first its name,
then its attributes as they are listed, then its defaults by the bytes of their keys. A type more,
without a fault, changes nothing; and neither does another order of the types, or of the defaults of
a type, in the document. -/
theorem fault_reported (config : Config) :
    ((∃ fault, config.fault? = some fault) ↔ ∃ place fault, config.FaultAt place fault) ∧
    (∀ fault, config.fault? = some fault ↔ config.FirstFault fault) ∧
    (∀ name type, config.types.get? name = none →
      (∀ spot fault, ¬ type.FaultAt name spot fault) →
      (config.withType name type).fault? = config.fault?) ∧
    ∀ source source' entries others, Toml.read source = some entries →
      Toml.read source' = some others → Reordered entries others →
      ofEntries entries = .ok config →
      ofEntries others = .ok config ∧
      (∀ fault, config.fault? = some fault →
        read source = .error (.config fault.message) ∧
        read source' = .error (.config fault.message)) ∧
      (config.fault? = none → read source = .ok config ∧ read source' = .ok config) := by
  refine ⟨?_, fun fault => fault?_eq_some_iff, ?_, ?_⟩
  · rw [← not_iff_not]
    push Not
    rw [← Option.eq_none_iff_forall_ne_some]
    exact fault?_eq_none_iff_faultAt
  · intro name type hnew hfree
    exact fault?_congr fun place fault => faultAt_withType_iff hnew hfree
  · intro source source' entries others hread hread' hreordered hconfig
    have hconfig' := ofEntries_reordered hread hread' hreordered hconfig
    obtain ⟨hrefused, htaken⟩ := read_eq_of_fault? hread hconfig
    obtain ⟨hrefused', htaken'⟩ := read_eq_of_fault? hread' hconfig'
    exact ⟨hconfig', fun fault hfault => ⟨hrefused fault hfault, hrefused' fault hfault⟩,
      fun hfault => ⟨htaken hfault, htaken' hfault⟩⟩

/-- Several faults in two types, declared in two orders; and a type more, which comes first. -/
theorem fault_reported_reordered :
    ∃ config entries others,
      Toml.read ("types.b.attributes = ['x y']\ntypes.a.attributes = ['u', 'v:', '']\n" ++
        "types.a.defaults = \x7bq = '', p = ''\x7d\n") = some entries ∧
      Toml.read ("types.a.defaults = \x7bp = '', q = ''\x7d\n" ++
        "types.a.attributes = ['u', 'v:', '']\ntypes.b.attributes = ['x y']\n") = some others ∧
      Reordered entries others ∧ ofEntries entries = .ok config ∧
      Config.read ("types.b.attributes = ['x y']\ntypes.a.attributes = ['u', 'v:', '']\n" ++
        "types.a.defaults = \x7bq = '', p = ''\x7d\n") =
          .error (.config "Invalid attribute name 'v:' for tag type 'a'") ∧
      Config.read ("types.a.defaults = \x7bp = '', q = ''\x7d\n" ++
        "types.a.attributes = ['u', 'v:', '']\ntypes.b.attributes = ['x y']\n") =
          .error (.config "Invalid attribute name 'v:' for tag type 'a'") ∧
      (config.withType "A" { attributes := ["w"] }).fault? = some (.badAttribute "v:" "a") := by
  let defaults := [("q", Value.string ""), ("p", .string "")]
  let typeA := [("attributes", Value.array [.string "u", .string "v:", .string ""]),
    ("defaults", .table defaults)]
  let typeB := Value.table [("attributes", .array [.string "x y"])]
  let entries := [("types", Value.table [("b", typeB), ("a", .table typeA)])]
  let others := [("types", Value.table [("a", .table [("defaults", .table defaults.reverse),
    ("attributes", .array [.string "u", .string "v:", .string ""])]), ("b", typeB)])]
  let config : Config :=
    { types := NameMap.ofList [
        ("a", { attributes := ["u", "v:", ""], defaults := NameMap.ofList [("p", ""), ("q", "")] }),
        ("b", { attributes := ["x y"] })] }
  have hread : Toml.read ("types.b.attributes = ['x y']\ntypes.a.attributes = ['u', 'v:', '']\n" ++
      "types.a.defaults = \x7bq = '', p = ''\x7d\n") = some entries := by cbv
  have hread' : Toml.read ("types.a.defaults = \x7bp = '', q = ''\x7d\n" ++
      "types.a.attributes = ['u', 'v:', '']\ntypes.b.attributes = ['x y']\n") = some others := by
    cbv
  have hparts : Shuffled SamePart typeA [("defaults", .table defaults.reverse),
      ("attributes", .array [.string "u", .string "v:", .string ""])] :=
    ⟨_, .swap _ _ _, .cons ⟨rfl, .same _ _⟩
      (.cons ⟨rfl, .defaults rfl (.table (.swap _ _ _))⟩ .nil)⟩
  have hreordered : Reordered entries others :=
    ⟨_, .refl _, .cons ⟨rfl, .types rfl ⟨_, .swap _ _ _, .cons ⟨rfl, .same _⟩
      (.cons ⟨rfl, .table hparts⟩ .nil)⟩⟩ .nil⟩
  have hconfig : ofEntries entries = .ok config := by cbv
  have hfault : config.fault? = some (.badAttribute "v:" "a") := by cbv
  obtain ⟨-, -, hadded, hsources⟩ := fault_reported config
  obtain ⟨-, hrefused, -⟩ := hsources _ _ entries others hread hread' hreordered hconfig
  obtain ⟨hfirst, hsecond⟩ := hrefused _ hfault
  have hfree : ∀ spot fault, ¬ TypeConfig.FaultAt { attributes := ["w"] } "A" spot fault :=
    TypeConfig.fault?_eq_none_iff_faultAt.mp (by cbv)
  exact ⟨config, entries, others, hread, hread', hreordered, hconfig, hfirst, hsecond,
    (hadded "A" _ (by cbv) hfree).trans hfault⟩

end Config
end InlineTag
