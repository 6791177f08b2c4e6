import Mathlib
import InlineTag.Proofs.DataPairs
import InlineTag.Proofs.Lookups

/-!
# InlineTag.Proofs.DataBags

The bag that a list of pairs gives, told pair by pair.

* `pairKey`, `pairText`: what stands before and behind the first equals sign of a pair.
* `dataBag_of_good`: good pairs are put into the bag one after the other.
* `get?_dataBag_eq_some_iff`: of pairs with one key the last one counts.
* `dataBag_reordered`: the order of pairs counts among those with one key only.
* `dataBag_told`: all that is known of the bag of a list.
-/

namespace InlineTag

open Text Toml

/-- What stands before the first equals sign of a pair, without the white space at its ends. -/
def pairKey (pair : String) : String :=
  String.ofList (trim (pair.toList.takeWhile (· != '=')))

/-- What stands behind the first equals sign of a pair, with all white space. -/
def pairText (pair : String) : String :=
  String.ofList ((pair.toList.dropWhile (· != '=')).drop 1)

def pairEntry (pair : String) : String × Value :=
  (pairKey pair, .string (pairText pair))

section Bags

variable {pair : String} {pairs more : List String} {bag : Bag} {key : String} {value : Value}

theorem splitPair_of_good (h : GoodPair pair) :
    splitPair pair = .ok (pairKey pair, pairText pair) := by
  obtain ⟨key, text, hpair, hkey, hsolid⟩ := h
  have hbefore : ∀ c ∈ key, (c != '=') = true := by
    intro c hc
    exact bne_iff_ne.mpr fun heq => hkey (heq ▸ hc)
  obtain ⟨htake, hdrop⟩ := takeWhile_append_mark hbefore (bne_self_eq_false '=') text
  rw [splitPair, hpair, cutAt_append hkey, pairKey, pairText, hpair, htake, hdrop]
  exact if_neg (mt trim_eq_nil_iff.mp hsolid)

/-- Good pairs are added one after the other. The induction is over any bag, since a bag that has
entries already is met from the second pair on. -/
theorem addPairs_of_good (h : ∀ pair ∈ pairs, GoodPair pair) :
    addPairs bag pairs =
      .ok ((pairs.map pairEntry).foldl (fun bag entry => bag.insert entry.1 entry.2) bag) := by
  induction pairs generalizing bag with
  | nil => rfl
  | cons pair rest ih =>
    obtain ⟨hpair, hrest⟩ := List.forall_mem_cons.mp h
    rw [addPairs, splitPair_of_good hpair]
    exact ih hrest

theorem dataBag_of_good (h : ∀ pair ∈ pairs, GoodPair pair) :
    dataBag pairs = .ok (NameMap.ofList (pairs.map pairEntry)) :=
  addPairs_of_good h

theorem dataBag_eq_ok_iff : dataBag pairs = .ok bag ↔
    (∀ pair ∈ pairs, GoodPair pair) ∧ bag = NameMap.ofList (pairs.map pairEntry) := by
  constructor
  · intro h
    have hgood := exists_dataBag_iff.mp ⟨bag, h⟩
    rw [dataBag_of_good hgood, Except.ok.injEq] at h
    exact ⟨hgood, h.symm⟩
  · rintro ⟨hgood, rfl⟩
    exact dataBag_of_good hgood

theorem mem_names_dataBag_iff (h : dataBag pairs = .ok bag) :
    key ∈ bag.names ↔ ∃ pair ∈ pairs, pairKey pair = key := by
  obtain ⟨-, rfl⟩ := dataBag_eq_ok_iff.mp h
  rw [NameMap.mem_names_ofList_iff, List.map_map]
  exact List.mem_map

/-- Of the pairs with one key the last one counts. -/
theorem get?_dataBag_eq_some_iff (h : dataBag pairs = .ok bag) :
    bag.get? key = some value ↔
      ∃ front pair back, pairs = front ++ pair :: back ∧ pairKey pair = key ∧
        (∀ other ∈ back, pairKey other ≠ key) ∧ value = .string (pairText pair) := by
  obtain ⟨-, rfl⟩ := dataBag_eq_ok_iff.mp h
  rw [NameMap.get?_ofList_eq_some_iff]
  constructor
  · rintro ⟨front, back, hpairs, hback⟩
    obtain ⟨front, rest, rfl, rfl, hrest⟩ := List.map_eq_append_iff.mp hpairs
    obtain ⟨pair, back, rfl, hpair, rfl⟩ := List.map_eq_cons_iff.mp hrest
    cases hpair
    refine ⟨front, pair, back, rfl, rfl, ?_, rfl⟩
    exact fun other hother => hback _ (List.mem_map_of_mem hother)
  · rintro ⟨front, pair, back, rfl, rfl, hback, rfl⟩
    refine ⟨front.map pairEntry, back.map pairEntry, ?_, ?_⟩
    · rw [List.map_append, List.map_cons]
      rfl
    · rintro entry hentry
      obtain ⟨other, hother, rfl⟩ := List.mem_map.mp hentry
      exact hback other hother

/-- The bag of two lists is that of the first, overwritten by that of the second. -/
theorem dataBag_append {bag' : Bag} (h : dataBag pairs = .ok bag) (h' : dataBag more = .ok bag') :
    ∃ whole, dataBag (pairs ++ more) = .ok whole ∧
      ∀ key, whole.get? key = (bag'.get? key).or (bag.get? key) := by
  obtain ⟨hgood, rfl⟩ := dataBag_eq_ok_iff.mp h
  obtain ⟨hgood', rfl⟩ := dataBag_eq_ok_iff.mp h'
  refine ⟨_, dataBag_of_good (List.forall_mem_append.mpr ⟨hgood, hgood'⟩), fun key => ?_⟩
  rw [List.map_append, NameMap.get?_ofList_append]

/-! ## Order -/

/-- The last pair with the key is the last one of those with the key. -/
theorem NameMap.get?_ofList_filter {α : Type} (entries : List (String × α)) (name : String) :
    (ofList (entries.filter (·.1 == name))).get? name = (ofList entries).get? name := by
  induction entries using List.reverseRecOn with
  | nil => rfl
  | append_singleton entries entry ih =>
    rw [List.filter_append, get?_ofList_append, get?_ofList_append, ih]
    by_cases h : entry.1 = name
    · have hfilter : [entry].filter (·.1 == name) = [entry] := by simp [h]
      rw [hfilter]
    · have hfilter : [entry].filter (·.1 == name) = [] := by simp [h]
      rw [hfilter, get?_ofList_cons, if_neg (Ne.symm h)]
      rfl

/-- Pairs may be reordered as long as those with one key keep their order. -/
theorem dataBag_reordered {others : List String} (hgood : ∀ pair ∈ pairs, GoodPair pair)
    (hperm : pairs.Perm others)
    (hkeys : ∀ key, pairs.filter (pairKey · == key) = others.filter (pairKey · == key)) :
    dataBag others = dataBag pairs := by
  have hgood' : ∀ pair ∈ others, GoodPair pair :=
    fun pair hpair => hgood pair (hperm.mem_iff.mpr hpair)
  rw [dataBag_of_good hgood, dataBag_of_good hgood']
  refine congrArg Except.ok (NameMap.ext_get? fun key => ?_)
  have hfilter (pairs : List String) : (pairs.map pairEntry).filter (·.1 == key) =
      (pairs.filter (pairKey · == key)).map pairEntry := List.filter_map
  rw [← NameMap.get?_ofList_filter, ← NameMap.get?_ofList_filter (pairs.map pairEntry), hfilter,
    hfilter, hkeys]

end Bags

/-! ## Faults -/

theorem badPair_iff {pair : String} {fault : DataFault} : BadPair pair fault ↔
    ¬ GoodPair pair ∧
      fault = if '=' ∈ pair.toList then .emptyKey pair else .missingEquals pair := by
  constructor
  · intro h
    refine ⟨h.not_good, ?_⟩
    cases h with
    | missingEquals hmark => rw [if_neg hmark]
    | emptyKey hpair => rw [if_pos (by rw [hpair]; simp)]
  · rintro ⟨hbad, rfl⟩
    split
    · rename_i hmark
      obtain ⟨key, text, hpair, hkey⟩ := List.eq_append_cons_of_mem hmark
      refine .emptyKey hpair hkey ?_
      by_contra hsolid
      exact hbad ⟨key, text, hpair, hkey, hsolid⟩
    · rename_i hmark
      exact .missingEquals hmark

theorem DataFault.message_emptyKey (pair : String) :
    (DataFault.emptyKey pair).message = "Invalid --data pair (empty key): " ++ pair := rfl

theorem DataFault.message_missingEquals (pair : String) :
    (DataFault.missingEquals pair).message = "Invalid --data pair: " ++ pair := rfl

/-- The fault of a list quotes its first bad pair. -/
theorem dataBag_eq_error_iff_quotes {pairs : List String} {fault : DataFault} :
    dataBag pairs = .error fault ↔
      ∃ good pair rest, pairs = good ++ pair :: rest ∧ (∀ other ∈ good, GoodPair other) ∧
        ¬ GoodPair pair ∧
        fault = (if '=' ∈ pair.toList then .emptyKey pair else .missingEquals pair) ∧
        fault.message = (if '=' ∈ pair.toList then "Invalid --data pair (empty key): "
          else "Invalid --data pair: ") ++ pair := by
  rw [dataBag_eq_error_iff, FirstBad]
  refine exists_congr fun good => exists_congr fun pair => exists_congr fun rest => ?_
  rw [badPair_iff]
  refine and_congr_right fun _ => and_congr_right fun _ => and_congr_right fun _ => ?_
  constructor
  · rintro rfl
    refine ⟨rfl, ?_⟩
    split
    · exact DataFault.message_emptyKey pair
    · exact DataFault.message_missingEquals pair
  · rintro ⟨hfault, -⟩
    exact hfault

/-- A list of pairs gives a bag exactly when each has an equals sign, with more than white space
before the first one. The keys of the bag are then what stands there, trimmed, and a key has the
text of the last pair with it, untrimmed and with all further equals signs. Otherwise the first bad
pair is quoted, as one without a key if it has an equals sign. The bag of two lists is that of the
first, overwritten by that of the second, and pairs of different keys may be reordered. -/
theorem dataBag_told (pairs : List String) :
    ((∃ bag, dataBag pairs = .ok bag) ↔ ∀ pair ∈ pairs, GoodPair pair) ∧
    (∀ bag, dataBag pairs = .ok bag →
      (∀ key, key ∈ bag.names ↔ ∃ pair ∈ pairs, pairKey pair = key) ∧
      ∀ key value, bag.get? key = some value ↔
        ∃ front pair back, pairs = front ++ pair :: back ∧ pairKey pair = key ∧
          (∀ other ∈ back, pairKey other ≠ key) ∧ value = .string (pairText pair)) ∧
    (∀ fault, dataBag pairs = .error fault ↔
      ∃ good pair rest, pairs = good ++ pair :: rest ∧ (∀ other ∈ good, GoodPair other) ∧
        ¬ GoodPair pair ∧
        fault = (if '=' ∈ pair.toList then .emptyKey pair else .missingEquals pair) ∧
        fault.message = (if '=' ∈ pair.toList then "Invalid --data pair (empty key): "
          else "Invalid --data pair: ") ++ pair) ∧
    (∀ more bag bag', dataBag pairs = .ok bag → dataBag more = .ok bag' →
      ∃ whole, dataBag (pairs ++ more) = .ok whole ∧
        ∀ key, whole.get? key = (bag'.get? key).or (bag.get? key)) ∧
    ∀ others, (∀ pair ∈ pairs, GoodPair pair) → pairs.Perm others →
      (∀ key, pairs.filter (pairKey · == key) = others.filter (pairKey · == key)) →
      dataBag others = dataBag pairs := by
  refine ⟨exists_dataBag_iff, ?_, fun fault => dataBag_eq_error_iff_quotes, ?_, ?_⟩
  · intro bag h
    exact ⟨fun key => mem_names_dataBag_iff h, fun key value => get?_dataBag_eq_some_iff h⟩
  · intro more bag bag' h h'
    exact dataBag_append h h'
  · intro others hgood hperm hkeys
    exact dataBag_reordered hgood hperm hkeys

/-- A key padded in two ways, with another pair moved behind both, and a second list. -/
theorem dataBag_told_padded :
    ∃ bag bag' whole : Bag,
      dataBag [" k =1", "q=a=b ", "k\t= 2 "] = .ok bag ∧
      bag.get? "k" = some (.string " 2 ") ∧ bag.get? "q" = some (.string "a=b ") ∧
      dataBag [" k =1", "k\t= 2 ", "q=a=b "] = .ok bag ∧
      dataBag ["k="] = .ok bag' ∧
      dataBag [" k =1", "q=a=b ", "k\t= 2 ", "k="] = .ok whole ∧
      whole.get? "k" = some (.string "") ∧ whole.get? "q" = some (.string "a=b ") := by
  let bag : Bag := NameMap.ofList [("k", .string " 2 "), ("q", .string "a=b ")]
  have hbag : dataBag [" k =1", "q=a=b ", "k\t= 2 "] = .ok bag := by cbv
  have hbag' : dataBag ["k="] = .ok (NameMap.ofList [("k", .string "")]) := by cbv
  obtain ⟨hgood, htold, -, happend, hreordered⟩ := dataBag_told [" k =1", "q=a=b ", "k\t= 2 "]
  obtain ⟨-, hvalues⟩ := htold bag hbag
  have hk : bag.get? "k" = some (.string " 2 ") :=
    (hvalues _ _).mpr ⟨[" k =1", "q=a=b "], "k\t= 2 ", [], rfl, by cbv, by simp, by cbv⟩
  have hq : bag.get? "q" = some (.string "a=b ") := by
    refine (hvalues _ _).mpr ⟨[" k =1"], "q=a=b ", ["k\t= 2 "], rfl, by cbv, ?_, by cbv⟩
    rw [List.forall_mem_singleton]
    decide
  have hkeys : pairKey " k =1" = "k" ∧ pairKey "k\t= 2 " = "k" ∧ pairKey "q=a=b " = "q" := by
    refine ⟨?_, ?_, ?_⟩ <;> cbv
  obtain ⟨hfirst, hlast, hother⟩ := hkeys
  have hswapped := hreordered [" k =1", "k\t= 2 ", "q=a=b "] (hgood.mp ⟨bag, hbag⟩)
    (.cons _ (.swap _ _ _)) (by
      intro key
      by_cases hkey : "k" = key
      · subst hkey
        simp [hfirst, hlast, hother]
      · simp [List.filter_cons, hlast, hkey])
  obtain ⟨whole, hwhole, hget⟩ := happend ["k="] _ _ hbag hbag'
  exact ⟨bag, _, whole, hbag, hk, hq, hswapped.trans hbag, hbag', hwhole, by rw [hget]; rfl,
    by rw [hget]; exact hq⟩

end InlineTag
