import Mathlib
import InlineTag.Proofs.Lookups
import InlineTag.Toml.Document

/-!
# InlineTag.Proofs.DistinctKeys

No table of a document has two entries under one key, at any depth.

* `Value.Distinct`: the values of which this is so.
* `Draft.Keeps`: the changes of a table under construction that keep it so. Headers and dotted keys
  change a table deep inside by one such change (`keeps_within`, `keeps_assign`).
* `distinct_read`: the entries of a document that was read.
-/

namespace InlineTag
namespace Toml

namespace Value

/-- A value that is not made of values. -/
def isPlain : Value → Bool
  | .array _ => false
  | .table _ => false
  | _ => true

/-- The keys of every table within the value are distinct. -/
inductive Distinct : Value → Prop where
  | plain {value : Value} (hplain : value.isPlain = true) : Distinct value
  | array {items : List Value} (hitems : ∀ item ∈ items, Distinct item) : Distinct (.array items)
  | table {entries : List (String × Value)} (hkeys : (entries.map (·.1)).Nodup)
      (hvalues : ∀ entry ∈ entries, Distinct entry.2) : Distinct (.table entries)

theorem distinct_array_iff {items : List Value} :
    (Value.array items).Distinct ↔ ∀ item ∈ items, item.Distinct := by
  constructor
  · intro h
    cases h with
    | plain hplain => cases hplain
    | array hitems => exact hitems
  · exact .array

theorem distinct_table_iff {entries : List (String × Value)} :
    (Value.table entries).Distinct ↔
      (entries.map (·.1)).Nodup ∧ ∀ entry ∈ entries, entry.2.Distinct := by
  constructor
  · intro h
    cases h with
    | plain hplain => cases hplain
    | table hkeys hvalues => exact ⟨hkeys, hvalues⟩
  · rintro ⟨hkeys, hvalues⟩
    exact .table hkeys hvalues

end Value

/-! ## Tables under construction -/

namespace Draft

/-- A table under construction whose keys, and those of every table in it, are distinct. -/
def Sound (entries : Entries) : Prop :=
  (entries.map (·.1)).Nodup ∧ ∀ entry ∈ entries, entry.2.value.Distinct

/-- A change after which a sound table is still sound. -/
def Keeps (change : Entries → Option Entries) : Prop :=
  ∀ entries changed, Sound entries → change entries = some changed → Sound changed

theorem valueEntries_eq (entries : Entries) :
    valueEntries entries = entries.map fun entry => (entry.1, entry.2.value) := by
  induction entries with
  | nil => rw [valueEntries, List.map_nil]
  | cons entry rest ih =>
    obtain ⟨key, draft⟩ := entry
    rw [valueEntries, ih, List.map_cons]

theorem distinct_valueEntries_iff {entries : Entries} :
    (Value.table (valueEntries entries)).Distinct ↔ Sound entries := by
  rw [Value.distinct_table_iff, valueEntries_eq, List.map_map, List.forall_mem_map, Sound]
  rfl

theorem distinct_table_iff {origin : Origin} {entries : Entries} :
    (Draft.table origin entries).value.Distinct ↔ Sound entries := by
  rw [value, distinct_valueEntries_iff]

theorem distinct_tables_iff {items : List Entries} :
    (Draft.tables items).value.Distinct ↔ ∀ entries ∈ items, Sound entries := by
  rw [value, Value.distinct_array_iff]
  induction items with
  | nil => simp [valueItems]
  | cons entries rest ih =>
    rw [valueItems, List.forall_mem_cons, List.forall_mem_cons, ih]
    exact and_congr_left fun _ => distinct_valueEntries_iff

theorem sound_nil : Sound [] := by
  simp [Sound]

section Entries

variable {entries : Entries} {key : String} {draft : Draft}

theorem Sound.lookup (h : Sound entries) (hlookup : entries.lookup key = some draft) :
    draft.value.Distinct := by
  obtain ⟨front, back, hentries, -⟩ := List.lookup_eq_some_iff.mp hlookup
  exact h.2 (key, draft) (by rw [hentries]; simp)

theorem Sound.concat (h : Sound entries) (hkey : key ∉ entries.map (·.1))
    (hdraft : draft.value.Distinct) : Sound (entries ++ [(key, draft)]) := by
  constructor
  · rw [List.map_append, List.map_singleton]
    refine List.nodup_append.mpr ⟨h.1, List.nodup_singleton _, ?_⟩
    intro a ha b hb heq
    rw [List.mem_singleton] at hb
    rw [heq, hb] at ha
    exact hkey ha
  · intro entry hentry
    rcases List.mem_append.mp hentry with hentry | hentry
    · exact h.2 entry hentry
    · rw [List.mem_singleton.mp hentry]
      exact hdraft

theorem keys_replace (key : String) (draft : Draft) (entries : Entries) :
    (replace key draft entries).map (·.1) = entries.map (·.1) := by
  induction entries with
  | nil => rfl
  | cons entry rest ih =>
    obtain ⟨other, kept⟩ := entry
    rw [replace]
    split
    · rename_i hother
      rw [List.map_cons, List.map_cons, hother]
    · rw [List.map_cons, List.map_cons, ih]

theorem mem_replace {entry : String × Draft} (h : entry ∈ replace key draft entries) :
    entry = (key, draft) ∨ entry ∈ entries := by
  induction entries with
  | nil => cases h
  | cons head rest ih =>
    obtain ⟨other, kept⟩ := head
    rw [replace] at h
    split at h
    · rcases List.mem_cons.mp h with rfl | h
      · exact .inl rfl
      · exact .inr (List.mem_cons_of_mem _ h)
    · rcases List.mem_cons.mp h with rfl | h
      · exact .inr List.mem_cons_self
      · exact (ih h).imp_right (List.mem_cons_of_mem _)

theorem Sound.replace (h : Sound entries) (hdraft : draft.value.Distinct) :
    Sound (replace key draft entries) := by
  constructor
  · rw [keys_replace]
    exact h.1
  · intro entry hentry
    rcases mem_replace hentry with rfl | hentry
    · exact hdraft
    · exact h.2 entry hentry

theorem Sound.remove (h : Sound entries) : Sound (remove key entries) := by
  refine ⟨h.1.sublist (List.filter_sublist.map _), ?_⟩
  intro entry hentry
  exact h.2 entry (List.mem_of_mem_filter hentry)

theorem not_mem_keys_remove : key ∉ (remove key entries).map (·.1) := by
  simp [remove]

theorem changeLast_sound {change : Entries → Option Entries} (hchange : Keeps change)
    {items changed : List Entries} (hitems : ∀ entries ∈ items, Sound entries)
    (h : changeLast change items = some changed) : ∀ entries ∈ changed, Sound entries := by
  fun_induction changeLast change items generalizing changed with
  | case1 => cases h
  | case2 last =>
    obtain ⟨inner, hinner, rfl⟩ := Option.map_eq_some_iff.mp h
    intro entries hentries
    rw [List.mem_singleton.mp hentries]
    exact hchange last inner (hitems last List.mem_cons_self) hinner
  | case3 item rest hrest ih =>
    obtain ⟨others, hothers, rfl⟩ := Option.map_eq_some_iff.mp h
    have hrest := ih (fun entries hmem => hitems entries (List.mem_cons_of_mem _ hmem)) hothers
    exact List.forall_mem_cons.mpr ⟨hitems item List.mem_cons_self, hrest⟩

end Entries

/-! ## Changes that keep the keys distinct -/

theorem keeps_within {change : Entries → Option Entries} (hchange : Keeps change)
    (path : List String) : Keeps (within change path) := by
  induction path with
  | nil => exact hchange
  | cons key path ih =>
    intro entries changed hsound h
    rw [within] at h
    split at h
    · rename_i hlookup
      obtain ⟨inner, hinner, rfl⟩ := Option.map_eq_some_iff.mp h
      exact hsound.concat (NameMap.lookup_eq_none_iff.mp hlookup)
        (distinct_table_iff.mpr (ih [] inner sound_nil hinner))
    · cases h
    · rename_i origin inner hlookup
      obtain ⟨inner', hinner, rfl⟩ := Option.map_eq_some_iff.mp h
      have hold := distinct_table_iff.mp (hsound.lookup hlookup)
      exact hsound.replace (distinct_table_iff.mpr (ih inner inner' hold hinner))
    · rename_i items hlookup
      obtain ⟨items', hitems, rfl⟩ := Option.map_eq_some_iff.mp h
      have hold := distinct_tables_iff.mp (hsound.lookup hlookup)
      exact hsound.replace (distinct_tables_iff.mpr (changeLast_sound ih hold hitems))

theorem keeps_openTable (key : String) : Keeps (openTable key) := by
  intro entries changed hsound h
  rw [openTable] at h
  split at h
  · rename_i hlookup
    cases h
    exact hsound.concat (NameMap.lookup_eq_none_iff.mp hlookup) (distinct_table_iff.mpr sound_nil)
  · rename_i inner hlookup
    cases h
    have hold := distinct_table_iff.mp (hsound.lookup hlookup)
    exact hsound.remove.concat not_mem_keys_remove (distinct_table_iff.mpr hold)
  · cases h

theorem keeps_openItem (key : String) : Keeps (openItem key) := by
  intro entries changed hsound h
  rw [openItem] at h
  split at h
  · rename_i hlookup
    cases h
    refine hsound.concat (NameMap.lookup_eq_none_iff.mp hlookup) (distinct_tables_iff.mpr ?_)
    simpa using sound_nil
  · rename_i items hlookup
    cases h
    have hold := distinct_tables_iff.mp (hsound.lookup hlookup)
    refine hsound.replace (distinct_tables_iff.mpr ?_)
    intro inner hinner
    rcases List.mem_append.mp hinner with hinner | hinner
    · exact hold inner hinner
    · rw [List.mem_singleton.mp hinner]
      exact sound_nil
  · cases h

section Values

variable {key : String} {found : Value}

theorem keeps_add (hfound : found.Distinct) : Keeps (add key found) := by
  intro entries changed hsound h
  rw [add] at h
  split at h
  · rename_i hlookup
    cases h
    exact hsound.concat (NameMap.lookup_eq_none_iff.mp hlookup) (by rw [value]; exact hfound)
  · cases h

theorem keeps_assignIn (hfound : found.Distinct) (path : List String) (origin : Origin) :
    Keeps (assignIn key found path origin) := by
  induction path generalizing origin with
  | nil =>
    intro entries changed hsound h
    rw [assignIn] at h
    split at h
    · exact keeps_add hfound entries changed hsound h
    · cases h
  | cons part path ih =>
    intro entries changed hsound h
    rw [assignIn] at h
    split at h
    · rename_i hlookup
      obtain ⟨inner, hinner, rfl⟩ := Option.map_eq_some_iff.mp h
      exact hsound.concat (NameMap.lookup_eq_none_iff.mp hlookup)
        (distinct_table_iff.mpr (ih .dotted [] inner sound_nil hinner))
    · cases h
    · cases h
    · rename_i origin' inner _ hlookup
      obtain ⟨inner', hinner, rfl⟩ := Option.map_eq_some_iff.mp h
      have hold := distinct_table_iff.mp (hsound.lookup hlookup)
      exact hsound.replace (distinct_table_iff.mpr (ih origin' inner inner' hold hinner))
    · rename_i items hlookup
      obtain ⟨items', hitems, rfl⟩ := Option.map_eq_some_iff.mp h
      have hold := distinct_tables_iff.mp (hsound.lookup hlookup)
      exact hsound.replace (distinct_tables_iff.mpr (changeLast_sound (ih .header) hold hitems))

theorem keeps_assign (path : List String) (hfound : found.Distinct) :
    Keeps (assign path found) := by
  intro entries changed hsound h
  rw [assign] at h
  split at h
  · cases h
  · exact keeps_add hfound entries changed hsound h
  · exact keeps_assignIn hfound _ _ entries changed hsound h

theorem sound_foldlM_assign {assignments : List (List String × Value)} {start filled : Entries}
    (hassignments : ∀ assignment ∈ assignments, assignment.2.Distinct) (hstart : Sound start)
    (h : assignments.foldlM (fun entries (path, found) => assign path found entries) start =
      some filled) : Sound filled := by
  induction assignments generalizing start with
  | nil =>
    cases h
    exact hstart
  | cons assignment assignments ih =>
    obtain ⟨hfound, hassignments⟩ := List.forall_mem_cons.mp hassignments
    rw [List.foldlM_cons] at h
    obtain ⟨entries, hassign, hrest⟩ := Option.bind_eq_some_iff.mp h
    exact ih hassignments (keeps_assign _ hfound start entries hstart hassign) hrest

end Values
end Draft

/-! ## Values as they are read -/

/-- A reader whose values have distinct keys in every table. -/
def GivesDistinct (element : Reader Value) : Prop :=
  ∀ text found rest, element text = some (found, rest) → found.Distinct

theorem distinct_integerInRange {number : Int} {found : Value}
    (h : integerInRange number = some found) : found.Distinct := by
  rw [integerInRange] at h
  split at h
  · cases h
    exact .plain rfl
  · cases h

theorem distinct_inRange {number : Binary64} {found : Value}
    (h : inRange number = some found) : found.Distinct := by
  rw [inRange.eq_def] at h
  split at h
  · cases h
  · cases h
    exact .plain rfl

theorem givesDistinct_based (base : Nat) (isDigit : Char → Bool) :
    GivesDistinct (based base isDigit) := by
  intro text found rest h
  obtain ⟨⟨shown, _⟩, -, h⟩ := Option.bind_eq_some_iff.mp h
  obtain ⟨number, hnumber, h⟩ := Option.bind_eq_some_iff.mp h
  cases h
  exact distinct_integerInRange hnumber

theorem givesDistinct_special : GivesDistinct special := by
  intro text found rest h
  simp only [special] at h
  split at h
  · cases h
    exact .plain rfl
  · cases h
    exact .plain rfl
  · cases h

theorem givesDistinct_decimal : GivesDistinct decimal := by
  intro text found rest h
  rw [decimal] at h
  obtain ⟨⟨whole, tail⟩, -, h⟩ := Option.bind_eq_some_iff.mp h
  dsimp -zeta only at h
  -- what follows a fraction also follows a number without one
  extract_lets finish at h
  have hfinish (shown : Option (List Char) × List Char)
      (h : finish shown = some (found, rest)) : found.Distinct := by
    obtain ⟨⟨power, _⟩, -, h⟩ := Option.bind_eq_some_iff.mp h
    dsimp only at h
    split at h
    · obtain ⟨number, hnumber, h⟩ := Option.bind_eq_some_iff.mp h
      cases h
      exact distinct_integerInRange hnumber
    · obtain ⟨number, hnumber, h⟩ := Option.bind_eq_some_iff.mp h
      cases h
      exact distinct_inRange hnumber
  split at h
  · split at h
    · cases h
    · exact hfinish _ h
  · exact hfinish _ h

theorem givesDistinct_number : GivesDistinct number := by
  intro text found rest h
  rw [number.eq_def] at h
  split at h
  · exact givesDistinct_based _ _ _ _ _ h
  · exact givesDistinct_based _ _ _ _ _ h
  · exact givesDistinct_based _ _ _ _ _ h
  · split at h
    · rename_i hspecial
      cases h
      exact givesDistinct_special _ _ _ hspecial
    · exact givesDistinct_decimal _ _ _ h

theorem givesDistinct_scalar : GivesDistinct scalar := by
  intro text found rest h
  simp only [scalar] at h
  split at h
  · cases h
    exact .plain rfl
  · split at h
    · rename_i hnumber
      cases h
      exact givesDistinct_number _ _ _ hnumber
    · rw [boolean] at h
      split at h
      · cases h
        exact .plain rfl
      · cases h
        exact .plain rfl
      · cases h

theorem givesDistinct_plainValue : GivesDistinct plainValue := by
  intro text found rest h
  cases text with
  | nil => cases h
  | cons c text =>
    rw [plainValue] at h
    split at h
    · obtain ⟨⟨shown, _⟩, -, h⟩ := Option.map_eq_some_iff.mp h
      cases h
      exact .plain rfl
    · exact givesDistinct_scalar _ _ _ h

section Element

variable {element : Reader Value} (helement : GivesDistinct element)

include helement

theorem distinct_items {text rest : List Char} {found : List Value}
    (h : items element text = some (found, rest)) : ∀ item ∈ found, item.Distinct := by
  fun_induction items element text generalizing found rest with
  | case1 =>
    cases h
    simp
  | case2 | case5 | case6 => cases h
  | case3 _ _ _ _ _ _ hitem =>
    cases h
    simpa using helement _ _ _ hitem
  | case4 _ _ _ _ _ _ _ hitem ih =>
    obtain ⟨⟨others, _⟩, hothers, h⟩ := Option.map_eq_some_iff.mp h
    cases h
    exact List.forall_mem_cons.mpr ⟨helement _ _ _ hitem, ih hothers⟩

theorem distinct_keyValue {text rest : List Char} {path : List String} {found : Value}
    (h : keyValue element text = some ((path, found), rest)) : found.Distinct := by
  obtain ⟨⟨_, _⟩, -, h⟩ := Option.bind_eq_some_iff.mp h
  obtain ⟨_, -, h⟩ := Option.bind_eq_some_iff.mp h
  obtain ⟨⟨_, _⟩, hfound, h⟩ := Option.bind_eq_some_iff.mp h
  cases h
  exact helement _ _ _ hfound

theorem distinct_inlineEntries {text rest : List Char} {found : List (List String × Value)}
    (h : inlineEntries element text = some (found, rest)) :
    ∀ assignment ∈ found, assignment.2.Distinct := by
  fun_induction inlineEntries element text generalizing found rest with
  | case1 | case4 | case5 => cases h
  | case2 _ _ _ hentry =>
    cases h
    simpa using distinct_keyValue helement hentry
  | case3 _ _ _ hentry _ _ _ ih =>
    obtain ⟨⟨others, _⟩, hothers, h⟩ := Option.map_eq_some_iff.mp h
    cases h
    exact List.forall_mem_cons.mpr ⟨distinct_keyValue helement hentry, ih hothers⟩

theorem givesDistinct_inlineTable : GivesDistinct (inlineTable element) := by
  intro text found rest h
  rw [inlineTable] at h
  split at h
  · cases h
    exact Value.distinct_table_iff.mpr (by simp)
  · split at h
    · cases h
    · rename_i hentries
      obtain ⟨filled, hfilled, h⟩ := Option.map_eq_some_iff.mp h
      cases h
      have hsound := Draft.sound_foldlM_assign (distinct_inlineEntries helement hentries)
        Draft.sound_nil hfilled
      exact Draft.distinct_valueEntries_iff.mpr hsound

end Element

theorem givesDistinct_value (depth : Nat) : GivesDistinct (value depth) := by
  induction depth with
  | zero =>
    intro text found rest h
    rw [value.eq_def] at h
    exact givesDistinct_plainValue _ _ _ h
  | succ depth ih =>
    intro text found rest h
    rw [value.eq_def] at h
    split at h
    · rename_i heq
      cases heq
      obtain ⟨⟨inner, _⟩, hinner, h⟩ := Option.map_eq_some_iff.mp h
      cases h
      exact .array (distinct_items ih hinner)
    · rename_i heq
      cases heq
      exact givesDistinct_inlineTable ih _ _ _ h
    · exact givesDistinct_plainValue _ _ _ h

/-! ## Lines -/

open Draft

variable {place place' : List String} {entries entries' : Entries} {text rest : List Char}

theorem keeps_openHeader (inArray : Bool) (path : List String) :
    Keeps (openHeader inArray path) := by
  intro entries changed hsound h
  rw [openHeader] at h
  split at h
  · cases h
  · refine keeps_within ?_ _ entries changed hsound h
    split
    · exact keeps_openItem _
    · exact keeps_openTable _

theorem sound_line (hsound : Sound entries)
    (h : line place entries text = some ((place', entries'), rest)) : Sound entries' := by
  rw [line.eq_def] at h
  split at h
  · obtain ⟨⟨⟨inArray, path⟩, _⟩, -, h⟩ := Option.bind_eq_some_iff.mp h
    obtain ⟨opened, hopened, h⟩ := Option.bind_eq_some_iff.mp h
    cases h
    exact keeps_openHeader _ _ _ _ hsound hopened
  · obtain ⟨⟨⟨path, found⟩, _⟩, hfound, h⟩ := Option.bind_eq_some_iff.mp h
    obtain ⟨filled, hfilled, h⟩ := Option.bind_eq_some_iff.mp h
    cases h
    have hfound := distinct_keyValue (givesDistinct_value _) hfound
    exact keeps_within (keeps_assign path hfound) place _ _ hsound hfilled

theorem sound_lines (hsound : Sound entries) (h : lines place entries text = some entries') :
    Sound entries' := by
  fun_induction lines place entries text with
  | case1 =>
    cases h
    exact hsound
  | case2 _ _ _ _ _ _ _ _ _ ih => exact ih hsound h
  | case3 | case4 | case5 | case7 => cases h
  | case6 _ _ _ _ _ _ _ _ _ _ hline _ _ _ ih => exact ih (sound_line hsound hline) h

/-- The keys of every table of a document are distinct. -/
theorem distinct_read {source : String} {entries : List (String × Value)}
    (h : read source = some entries) : (Value.table entries).Distinct := by
  obtain ⟨found, hfound, rfl⟩ := Option.map_eq_some_iff.mp h
  exact distinct_valueEntries_iff.mpr (sound_lines sound_nil hfound)

end Toml
end InlineTag
