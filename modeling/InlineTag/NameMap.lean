/-!
# InlineTag.NameMap

Finite maps from names to values, kept in ascending order of the names. The order of names is the
order of their code points, which is also the order of their UTF-8 bytes. The order is part of the
type, so two maps with the same lookups are equal.
-/

namespace InlineTag

universe u v

namespace NameMap

/-- Puts an entry at its place in an ascending list, replacing an entry of the same name. -/
def insertEntry {α : Type u} (name : String) (value : α) :
    List (String × α) → List (String × α)
  | [] => [(name, value)]
  | (other, kept) :: rest =>
    if name < other then (name, value) :: (other, kept) :: rest
    else if other < name then (other, kept) :: insertEntry name value rest
    else (name, value) :: rest

theorem mem_insertEntry {α : Type u} {name : String} {value : α} {entry : String × α}
    {entries : List (String × α)} (h : entry ∈ insertEntry name value entries) :
    entry = (name, value) ∨ entry ∈ entries := by
  induction entries with
  | nil => simpa [insertEntry] using h
  | cons head rest ih =>
    obtain ⟨other, kept⟩ := head
    rw [insertEntry] at h
    split at h
    · simpa using h
    · split at h
      · rcases List.mem_cons.mp h with rfl | h
        · exact Or.inr (by simp)
        · rcases ih h with h | h
          · exact Or.inl h
          · exact Or.inr (List.mem_cons_of_mem _ h)
      · rcases List.mem_cons.mp h with rfl | h
        · exact Or.inl rfl
        · exact Or.inr (List.mem_cons_of_mem _ h)

theorem name_eq_of_not_lt {a b : String} (hab : ¬ a < b) (hba : ¬ b < a) : a = b :=
  String.le_antisymm (String.not_lt.mp hba) (String.not_lt.mp hab)

theorem insertEntry_ascending {α : Type u} (name : String) (value : α)
    {entries : List (String × α)} (h : entries.Pairwise (fun a b => a.1 < b.1)) :
    (insertEntry name value entries).Pairwise (fun a b => a.1 < b.1) := by
  induction entries with
  | nil => simp [insertEntry]
  | cons head rest ih =>
    obtain ⟨other, kept⟩ := head
    obtain ⟨hhead, hrest⟩ := List.pairwise_cons.mp h
    rw [insertEntry]
    split
    · rename_i hlt
      refine List.pairwise_cons.mpr ⟨?_, h⟩
      intro entry hentry
      rcases List.mem_cons.mp hentry with rfl | hentry
      · exact hlt
      · exact String.lt_trans hlt (hhead entry hentry)
    · rename_i hnlt
      split
      · rename_i hlt
        refine List.pairwise_cons.mpr ⟨?_, ih hrest⟩
        intro entry hentry
        rcases mem_insertEntry hentry with rfl | hentry
        · exact hlt
        · exact hhead entry hentry
      · rename_i hngt
        have hname : name = other := name_eq_of_not_lt hnlt hngt
        subst hname
        exact List.pairwise_cons.mpr ⟨hhead, hrest⟩

end NameMap

/-- A map from names to values: its entries, in strictly ascending order of names. -/
structure NameMap (α : Type u) where
  entries : List (String × α)
  ascending : entries.Pairwise (fun a b => a.1 < b.1)

namespace NameMap

variable {α : Type u} {β : Type v}

def empty : NameMap α :=
  ⟨[], List.Pairwise.nil⟩

instance : Inhabited (NameMap α) := ⟨empty⟩

/-- Sets a name, replacing what it had before. -/
def insert (map : NameMap α) (name : String) (value : α) : NameMap α :=
  ⟨insertEntry name value map.entries, insertEntry_ascending name value map.ascending⟩

def get? (map : NameMap α) (name : String) : Option α :=
  map.entries.lookup name

def contains (map : NameMap α) (name : String) : Bool :=
  (map.get? name).isSome

def size (map : NameMap α) : Nat :=
  map.entries.length

def isEmpty (map : NameMap α) : Bool :=
  map.entries.isEmpty

/-- The names, in ascending order. -/
def names (map : NameMap α) : List String :=
  map.entries.map (·.1)

/-- The map of a list of pairs, of which a later one replaces an earlier one of the same name. -/
def ofList (pairs : List (String × α)) : NameMap α :=
  pairs.foldl (fun map pair => map.insert pair.1 pair.2) empty

/-! ## Lookups after an insertion -/

theorem lookup_insertEntry_self (name : String) (value : α) (entries : List (String × α)) :
    (insertEntry name value entries).lookup name = some value := by
  induction entries with
  | nil => simp [insertEntry]
  | cons head rest ih =>
    obtain ⟨other, kept⟩ := head
    rw [insertEntry]
    split
    · simp
    · split
      · rename_i hlt
        have hne : (name == other) = false :=
          beq_eq_false_iff_ne.mpr fun h => String.lt_irrefl _ (h ▸ hlt)
        simpa [List.lookup_cons, hne] using ih
      · simp

theorem lookup_insertEntry_ne {name other : String} (h : other ≠ name) (value : α)
    (entries : List (String × α)) :
    (insertEntry name value entries).lookup other = entries.lookup other := by
  have hb : (other == name) = false := beq_eq_false_iff_ne.mpr h
  induction entries with
  | nil => simp [insertEntry, List.lookup_cons, hb]
  | cons head rest ih =>
    obtain ⟨key, kept⟩ := head
    rw [insertEntry]
    split
    · simp [List.lookup_cons, hb]
    · rename_i hnlt
      split
      · simp only [List.lookup_cons, ih]
      · rename_i hngt
        have hkey : name = key := name_eq_of_not_lt hnlt hngt
        subst hkey
        simp [List.lookup_cons, hb]

@[simp] theorem get?_empty (name : String) : (empty : NameMap α).get? name = none := rfl

@[simp] theorem get?_insert_self (map : NameMap α) (name : String) (value : α) :
    (map.insert name value).get? name = some value :=
  lookup_insertEntry_self name value map.entries

theorem get?_insert_ne (map : NameMap α) {name other : String} (h : other ≠ name) (value : α) :
    (map.insert name value).get? other = map.get? other :=
  lookup_insertEntry_ne h value map.entries

end NameMap
end InlineTag
