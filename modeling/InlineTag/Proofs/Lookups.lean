import InlineTag.NameMap

/-!
# InlineTag.Proofs.Lookups

A name map is what its lookups say.

* `ext_get?`: maps with the same lookups are equal.
* `get?_ofList`, `get?_ofList_eq_some_iff`: the map of a list of pairs has the last pair of a name.
* `ofList_entries`: the map of a map's entries is that map.
* `entries_ofList_perm`: of pairs with different names the map keeps every one.
* `size_insert`: a map grows by the names that are new to it.
-/

namespace InlineTag

universe u v

namespace NameMap

variable {α : Type u} {β : Type v}

theorem get?_eq_some_iff {map : NameMap α} {name : String} {value : α} :
    map.get? name = some value ↔ (name, value) ∈ map.entries := by
  constructor
  · intro h
    obtain ⟨front, back, hentries, -⟩ := List.lookup_eq_some_iff.mp h
    rw [hentries]
    simp
  · intro h
    obtain ⟨front, back, hentries⟩ := List.append_of_mem h
    refine List.lookup_eq_some_iff.mpr ⟨front, back, hentries, ?_⟩
    intro entry hentry
    have hascending := map.ascending
    rw [hentries] at hascending
    have hlt : entry.1 < name :=
      (List.pairwise_append.mp hascending).2.2 entry hentry (name, value) List.mem_cons_self
    exact bne_iff_ne.mpr fun heq => String.lt_irrefl _ (heq ▸ hlt)

theorem mem_names_iff {map : NameMap α} {name : String} :
    name ∈ map.names ↔ ∃ value, map.get? name = some value := by
  simp [names, get?_eq_some_iff]

theorem lookup_eq_none_iff {entries : List (String × α)} {name : String} :
    entries.lookup name = none ↔ name ∉ entries.map (·.1) := by
  rw [List.lookup_eq_none_iff]
  constructor
  · intro h hmem
    obtain ⟨entry, hentry, rfl⟩ := List.mem_map.mp hmem
    simpa using h entry hentry
  · intro h entry hentry
    exact bne_iff_ne.mpr fun heq => h (heq ▸ List.mem_map_of_mem hentry)

theorem get?_eq_none_iff {map : NameMap α} {name : String} :
    map.get? name = none ↔ name ∉ map.names :=
  lookup_eq_none_iff

theorem entries_nodup (map : NameMap α) : map.entries.Nodup := by
  refine map.ascending.imp ?_
  rintro entry _ hlt rfl
  exact String.lt_irrefl _ hlt

theorem names_nodup (map : NameMap α) : map.names.Nodup := by
  refine List.pairwise_map.mpr (map.ascending.imp ?_)
  intro first second hlt heq
  exact String.lt_irrefl _ (heq ▸ hlt)

theorem ext_entries {a b : NameMap α} (h : a.entries = b.entries) : a = b := by
  cases a
  cases b
  cases h
  rfl

/-- Two maps with the same lookups are the same map. -/
theorem ext_get? {a b : NameMap α} (h : ∀ name, a.get? name = b.get? name) : a = b := by
  have hmem : ∀ entry, entry ∈ a.entries ↔ entry ∈ b.entries := by
    intro entry
    rw [← get?_eq_some_iff, ← get?_eq_some_iff, h]
  refine ext_entries (List.Perm.eq_of_pairwise ?_ a.ascending b.ascending
    ((List.perm_ext_iff_of_nodup a.entries_nodup b.entries_nodup).mpr hmem))
  intro x y _ _ hxy hyx
  exact absurd hyx (String.lt_asymm hxy)

/-! ## Maps of lists -/

theorem get?_insert (map : NameMap α) (name other : String) (value : α) :
    (map.insert name value).get? other = if other = name then some value else map.get? other := by
  by_cases h : other = name
  · subst h
    rw [if_pos rfl, get?_insert_self]
  · rw [if_neg h, get?_insert_ne map h]

theorem ofList_concat (pairs : List (String × α)) (name : String) (value : α) :
    ofList (pairs ++ [(name, value)]) = (ofList pairs).insert name value := by
  rw [ofList, List.foldl_append]
  rfl

/-- The value of a name is that of its last pair. -/
theorem get?_ofList (pairs : List (String × α)) (name : String) :
    (ofList pairs).get? name = pairs.reverse.lookup name := by
  generalize hreverse : pairs.reverse = back
  induction back generalizing pairs with
  | nil =>
    rw [List.reverse_eq_nil_iff.mp hreverse]
    rfl
  | cons pair back ih =>
    obtain ⟨key, value⟩ := pair
    rw [List.reverse_eq_cons_iff] at hreverse
    rw [hreverse, ofList_concat, get?_insert, ih back.reverse (List.reverse_reverse back),
      List.lookup_cons]
    by_cases h : name = key
    · rw [if_pos h, beq_iff_eq.mpr h]
    · rw [if_neg h, beq_eq_false_iff_ne.mpr h]

theorem get?_ofList_eq_some_iff {pairs : List (String × α)} {name : String} {value : α} :
    (ofList pairs).get? name = some value ↔
      ∃ front back, pairs = front ++ (name, value) :: back ∧ ∀ pair ∈ back, pair.1 ≠ name := by
  rw [get?_ofList, List.lookup_eq_some_iff]
  constructor
  · rintro ⟨back, front, hpairs, hback⟩
    refine ⟨front.reverse, back.reverse, ?_, ?_⟩
    · rw [← List.reverse_reverse pairs, hpairs]
      simp
    · intro pair hpair heq
      simpa [heq] using hback pair (List.mem_reverse.mp hpair)
  · rintro ⟨front, back, rfl, hback⟩
    refine ⟨back.reverse, front.reverse, by simp, ?_⟩
    intro pair hpair
    exact bne_iff_ne.mpr (Ne.symm (hback pair (List.mem_reverse.mp hpair)))

theorem get?_ofList_eq_none_iff {pairs : List (String × α)} {name : String} :
    (ofList pairs).get? name = none ↔ ∀ pair ∈ pairs, pair.1 ≠ name := by
  rw [get?_ofList, List.lookup_eq_none_iff]
  constructor
  · intro h pair hpair
    exact Ne.symm (bne_iff_ne.mp (h pair (List.mem_reverse.mpr hpair)))
  · intro h pair hpair
    exact bne_iff_ne.mpr (Ne.symm (h pair (List.mem_reverse.mp hpair)))

theorem mem_names_ofList_iff {pairs : List (String × α)} {name : String} :
    name ∈ (ofList pairs).names ↔ name ∈ pairs.map (·.1) := by
  rw [← Decidable.not_iff_not, ← get?_eq_none_iff, get?_ofList_eq_none_iff, List.mem_map, not_exists]
  simp only [not_and, ne_eq]

theorem get?_ofList_append (front back : List (String × α)) (name : String) :
    (ofList (front ++ back)).get? name =
      ((ofList back).get? name).or ((ofList front).get? name) := by
  rw [get?_ofList, get?_ofList, get?_ofList, List.reverse_append, List.lookup_append]

theorem get?_ofList_cons (pair : String × α) (rest : List (String × α)) (name : String) :
    (ofList (pair :: rest)).get? name =
      ((ofList rest).get? name).or (if name = pair.1 then some pair.2 else none) := by
  rw [get?_ofList, get?_ofList, List.reverse_cons, List.lookup_append]
  by_cases h : name = pair.1
  · rw [if_pos h, List.lookup_cons, beq_iff_eq.mpr h]
  · rw [if_neg h, List.lookup_cons, beq_eq_false_iff_ne.mpr h, List.lookup_nil]

/-- Neighbours of different names may change places. -/
theorem ofList_swap (front back : List (String × α)) {a b : String × α} (h : a.1 ≠ b.1) :
    ofList (front ++ a :: b :: back) = ofList (front ++ b :: a :: back) := by
  refine ext_get? fun name => ?_
  simp only [get?_ofList_append, get?_ofList_cons]
  by_cases ha : name = a.1
  · have hb : name ≠ b.1 := fun hb => h (ha.symm.trans hb)
    simp [hb]
  · simp [ha]

/-- A pair before another of its name makes no difference. -/
theorem ofList_overwritten (front mid back : List (String × α)) {a b : String × α}
    (h : a.1 = b.1) :
    ofList (front ++ a :: (mid ++ b :: back)) = ofList (front ++ (mid ++ b :: back)) := by
  refine ext_get? fun name => ?_
  simp only [get?_ofList_append, get?_ofList_cons, h]
  by_cases hb : name = b.1
  · simp [hb]
  · simp [hb]

/-- The map of pairs that stand in ascending order has just these entries. -/
theorem ofList_eq {pairs : List (String × α)} (h : pairs.Pairwise (fun a b => a.1 < b.1)) :
    ofList pairs = ⟨pairs, h⟩ := by
  refine ext_get? fun name => Option.ext fun value => ?_
  rw [get?_ofList_eq_some_iff, get?_eq_some_iff]
  constructor
  · rintro ⟨front, back, hpairs, -⟩
    dsimp only
    rw [hpairs]
    simp
  · intro hmem
    obtain ⟨front, back, hpairs⟩ := List.append_of_mem hmem
    dsimp only at hpairs
    refine ⟨front, back, hpairs, ?_⟩
    intro pair hpair heq
    rw [hpairs] at h
    have hlt : name < pair.1 :=
      (List.pairwise_cons.mp (List.pairwise_append.mp h).2.1).1 pair hpair
    exact String.lt_irrefl _ (heq ▸ hlt)

theorem ofList_entries (map : NameMap α) : ofList map.entries = map :=
  ofList_eq map.ascending

/-- Pairs of different names are the entries of their map, in another order. -/
theorem entries_ofList_perm {pairs : List (String × α)} (h : (pairs.map (·.1)).Nodup) :
    (ofList pairs).entries.Perm pairs := by
  have hpairs : pairs.Nodup := by
    refine (List.pairwise_map.mp h).imp ?_
    rintro pair _ hne rfl
    exact hne rfl
  refine (List.perm_ext_iff_of_nodup (entries_nodup _) hpairs).mpr ?_
  rintro ⟨name, value⟩
  rw [← get?_eq_some_iff, get?_ofList_eq_some_iff]
  constructor
  · rintro ⟨front, back, rfl, -⟩
    simp
  · intro hmem
    obtain ⟨front, back, rfl⟩ := List.append_of_mem hmem
    refine ⟨front, back, rfl, ?_⟩
    rintro pair hpair rfl
    rw [List.map_append, List.map_cons] at h
    have hname := (List.nodup_cons.mp (List.nodup_append.mp h).2.1).1
    exact hname (List.mem_map.mpr ⟨pair, hpair, rfl⟩)

/-! ## Sizes -/

theorem length_insertEntry (name : String) (value : α) {entries : List (String × α)}
    (h : entries.Pairwise (fun a b => a.1 < b.1)) :
    (insertEntry name value entries).length =
      if (entries.lookup name).isSome then entries.length else entries.length + 1 := by
  induction entries with
  | nil => rfl
  | cons head rest ih =>
    obtain ⟨other, kept⟩ := head
    obtain ⟨hhead, hrest⟩ := List.pairwise_cons.mp h
    rw [insertEntry]
    split
    · rename_i hlt
      -- all names from here on are behind the new one
      have hnone : ((other, kept) :: rest).lookup name = none := by
        refine lookup_eq_none_iff.mpr fun hmem => ?_
        rw [List.map_cons, List.mem_cons] at hmem
        rcases hmem with rfl | hmem
        · exact String.lt_irrefl _ hlt
        · obtain ⟨entry, hentry, rfl⟩ := List.mem_map.mp hmem
          exact String.lt_irrefl _ (String.lt_trans hlt (hhead entry hentry))
      rw [hnone]
      rfl
    · rename_i hnlt
      split
      · rename_i hlt
        have hne : (name == other) = false :=
          beq_eq_false_iff_ne.mpr fun heq => String.lt_irrefl _ (heq ▸ hlt)
        rw [List.length_cons, ih hrest, List.lookup_cons, hne, List.length_cons]
        split <;> rfl
      · rename_i hngt
        rw [name_eq_of_not_lt hnlt hngt, List.lookup_cons, beq_self_eq_true]
        rfl

/-- A map grows by one when the name is new to it, and keeps its size otherwise. -/
theorem size_insert (map : NameMap α) (name : String) (value : α) :
    (map.insert name value).size = if map.contains name then map.size else map.size + 1 :=
  length_insertEntry name value map.ascending

end NameMap
end InlineTag
