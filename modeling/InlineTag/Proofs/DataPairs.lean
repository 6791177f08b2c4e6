import InlineTag.Data
import InlineTag.Proofs.Trimming

/-!
# InlineTag.Proofs.DataPairs

Which pairs on a command line are good, and which of the bad ones is reported.

* `splitPair_eq_error_iff`, `exists_splitPair_iff`: a pair is bad or good, told by its text.
* `dataBag_eq_error_iff`: the first bad pair is reported.
* `exists_dataBag_iff`: without a bad pair there is a bag.
-/

namespace InlineTag

open Text Toml

/-- A pair with an equals sign and something but white space before the first one. -/
def GoodPair (pair : String) : Prop :=
  ∃ key text, pair.toList = key ++ '=' :: text ∧ '=' ∉ key ∧ ¬ Blank key

/-- What is wrong with a pair. -/
inductive BadPair (pair : String) : DataFault → Prop where
  | missingEquals (hmark : '=' ∉ pair.toList) : BadPair pair (.missingEquals pair)
  | emptyKey {key text : List Char} (hpair : pair.toList = key ++ '=' :: text)
      (hkey : '=' ∉ key) (hblank : Blank key) : BadPair pair (.emptyKey pair)

/-- What is wrong with the first bad pair of a list. -/
def FirstBad (pairs : List String) (fault : DataFault) : Prop :=
  ∃ good pair rest, pairs = good ++ pair :: rest ∧ (∀ other ∈ good, GoodPair other) ∧
    BadPair pair fault

section Pairs

variable {pair : String} {fault : DataFault} {bag : Bag} {pairs : List String}

theorem splitPair_eq_error_iff : splitPair pair = .error fault ↔ BadPair pair fault := by
  rw [splitPair]
  constructor
  · intro h
    split at h
    · rename_i hcut
      cases h
      exact .missingEquals (cutAt_none.mp hcut)
    · rename_i key text hcut
      obtain ⟨hpair, hkey⟩ := cutAt_some hcut
      split at h
      · rename_i htrim
        cases h
        exact .emptyKey hpair hkey (trim_eq_nil_iff.mp htrim)
      · cases h
  · intro h
    cases h with
    | missingEquals hmark => rw [cutAt_none.mpr hmark]
    | emptyKey hpair hkey hblank =>
      rw [hpair, cutAt_append hkey]
      exact if_pos (trim_eq_nil_iff.mpr hblank)

theorem exists_splitPair_iff : (∃ entry, splitPair pair = .ok entry) ↔ GoodPair pair := by
  rw [splitPair]
  constructor
  · rintro ⟨entry, h⟩
    split at h
    · cases h
    · rename_i key text hcut
      obtain ⟨hpair, hkey⟩ := cutAt_some hcut
      split at h
      · cases h
      · rename_i htrim
        exact ⟨key, text, hpair, hkey, fun hblank => htrim (trim_eq_nil_iff.mpr hblank)⟩
  · rintro ⟨key, text, hpair, hkey, hsolid⟩
    rw [hpair, cutAt_append hkey]
    exact ⟨_, if_neg fun htrim => hsolid (trim_eq_nil_iff.mp htrim)⟩

theorem BadPair.not_good (h : BadPair pair fault) : ¬ GoodPair pair := by
  intro hgood
  obtain ⟨entry, hentry⟩ := exists_splitPair_iff.mpr hgood
  rw [splitPair_eq_error_iff.mpr h] at hentry
  cases hentry

theorem firstBad_cons_of_bad (hbad : BadPair pair fault) {other : DataFault} :
    FirstBad (pair :: pairs) other ↔ other = fault := by
  constructor
  · rintro ⟨good, found, rest, hpairs, hgood, hfound⟩
    cases good with
    | nil =>
      obtain ⟨rfl, -⟩ := List.cons.inj hpairs
      have herror := splitPair_eq_error_iff.mpr hbad
      rw [splitPair_eq_error_iff.mpr hfound] at herror
      cases herror
      rfl
    | cons head good =>
      obtain ⟨rfl, -⟩ := List.cons.inj hpairs
      exact absurd (hgood pair List.mem_cons_self) hbad.not_good
  · rintro rfl
    exact ⟨[], pair, pairs, rfl, by simp, hbad⟩

theorem firstBad_cons_of_good (hgood : GoodPair pair) :
    FirstBad (pair :: pairs) fault ↔ FirstBad pairs fault := by
  constructor
  · rintro ⟨good, found, rest, hpairs, hfront, hfound⟩
    cases good with
    | nil =>
      obtain ⟨rfl, -⟩ := List.cons.inj hpairs
      exact absurd hgood hfound.not_good
    | cons head good =>
      obtain ⟨-, rfl⟩ := List.cons.inj hpairs
      exact ⟨good, found, rest, rfl, fun other h => hfront other (List.mem_cons_of_mem _ h), hfound⟩
  · rintro ⟨good, found, rest, rfl, hfront, hfound⟩
    exact ⟨pair :: good, found, rest, rfl, List.forall_mem_cons.mpr ⟨hgood, hfront⟩, hfound⟩

theorem addPairs_eq_error_iff : addPairs bag pairs = .error fault ↔ FirstBad pairs fault := by
  induction pairs generalizing bag with
  | nil => simp [addPairs, FirstBad]
  | cons pair rest ih =>
    rw [addPairs]
    cases hsplit : splitPair pair with
    | error found =>
      rw [firstBad_cons_of_bad (splitPair_eq_error_iff.mp hsplit), Except.error.injEq]
      exact eq_comm
    | ok entry => rw [firstBad_cons_of_good (exists_splitPair_iff.mp ⟨entry, hsplit⟩), ih]

theorem exists_addPairs_iff :
    (∃ data, addPairs bag pairs = .ok data) ↔ ∀ pair ∈ pairs, GoodPair pair := by
  induction pairs generalizing bag with
  | nil => simp [addPairs]
  | cons pair rest ih =>
    rw [addPairs, List.forall_mem_cons, ← exists_splitPair_iff]
    cases hsplit : splitPair pair with
    | error found => simp
    | ok entry => simpa using ih

/-- Reading pairs stops at the first bad one. -/
theorem dataBag_eq_error_iff : dataBag pairs = .error fault ↔ FirstBad pairs fault :=
  addPairs_eq_error_iff

theorem exists_dataBag_iff : (∃ data, dataBag pairs = .ok data) ↔ ∀ pair ∈ pairs, GoodPair pair :=
  exists_addPairs_iff

end Pairs
end InlineTag
