import Mathlib
import InlineTag.Proofs.StoreSteps

/-!
# InlineTag.Proofs.StoreRuns

What a run of operations on registries leaves behind, told by the operations alone.

* `Store.tables_of_run`: a table has what it began with and what was registered in it since.
* `Store.recorded_of_run`: what is looked up is what was recorded.
* `Store.size_of_run`: each registration lets a table grow or reports a replacement.
* `Store.told_of_run`: all that is known of the registries after a run.
-/

namespace InlineTag

namespace Store

variable {store next state : Store} {op : Op} {ops before after : List Op} {index table : Nat}
  {handle : Handle} {handles : List Handle} {registry : Registry}

/-! ## Runs -/

theorem run_append (before after : List Op) :
    store.run (before ++ after) = (store.run before).bind fun state => state.run after :=
  List.foldlM_append

theorem run_cons_eq_some_iff :
    store.run (op :: ops) = some next ↔
      ∃ state, store.step op = some state ∧ state.run ops = some next := by
  rw [run, List.foldlM_cons]
  exact Option.bind_eq_some_iff

theorem run_concat_eq_some_iff :
    store.run (ops ++ [op]) = some next ↔
      ∃ state, store.run ops = some state ∧ state.step op = some next := by
  rw [run_append, Option.bind_eq_some_iff]
  refine exists_congr fun state => and_congr_right fun _ => ?_
  rw [run_cons_eq_some_iff]
  constructor
  · rintro ⟨last, hstep, hlast⟩
    cases hlast
    exact hstep
  · intro hstep
    exact ⟨next, hstep, rfl⟩

theorem handles_front_of_run (h : state.run ops = some store) :
    state.handles <+: store.handles := by
  induction ops generalizing state with
  | nil =>
    cases h
    exact List.prefix_refl _
  | cons op ops ih =>
    obtain ⟨next, hstep, hrest⟩ := run_cons_eq_some_iff.mp h
    exact (stepped_of_step hstep).handles_front.trans (ih hrest)

/-- A table that is there changes by what is registered in it and by nothing else. -/
theorem tables_of_run (h : state.run ops = some store) (hfront : store.handles <+: handles)
    (htable : state.tables[table]? = some registry) :
    store.tables[table]? =
      some ((registrations handles table ops).foldl Registry.register registry) := by
  induction ops generalizing state registry with
  | nil =>
    cases h
    exact htable
  | cons op ops ih =>
    obtain ⟨next, hstep, hrest⟩ := run_cons_eq_some_iff.mp h
    have hstepped := stepped_of_step hstep
    have hnext := hstepped.tables
      (hstepped.handles_front.trans ((handles_front_of_run hrest).trans hfront)) htable
    rw [ih hrest hnext, ← List.foldl_append, ← registrations_append, List.singleton_append]

/-- What holds in every state of a run that begins with no registries. -/
structure Reached (ops : List Op) (store : Store) : Prop where
  sound : store.Sound
  length_handles : store.handles.length = made ops

theorem reached_of_run (h : empty.run ops = some store) : Reached ops store := by
  induction ops using List.reverseRecOn generalizing store with
  | nil =>
    cases h
    exact ⟨by simp [Sound, empty], rfl⟩
  | append_singleton ops op ih =>
    obtain ⟨state, hstate, hstep⟩ := run_concat_eq_some_iff.mp h
    have hreached := ih hstate
    have hstepped := stepped_of_step hstep
    refine ⟨hstepped.sound hreached.sound, ?_⟩
    rw [hstepped.length_handles, hreached.length_handles, made, made, made, List.countP_append]

theorem recorded_of_run (h : empty.run ops = some store) (hfront : store.handles <+: handles)
    (table : Nat) (name : String) (type : TagType) :
    Recorded handles ops table name type ↔ store.find? table name = some type := by
  induction ops using List.reverseRecOn generalizing store table name type with
  | nil =>
    cases h
    constructor
    · intro hrecorded
      generalize hall : ([] : List Op) = all at hrecorded
      cases hrecorded <;> simp at hall
    · intro hfind
      simp [find?, empty] at hfind
  | append_singleton ops op ih =>
    obtain ⟨state, hstate, hstep⟩ := run_concat_eq_some_iff.mp h
    have hreached := reached_of_run hstate
    have hstepped := stepped_of_step hstep
    exact hstepped.recorded_iff hreached.sound hreached.length_handles hfront
      (ih hstate (hstepped.handles_front.trans hfront)) table name type

/-! ## Registrations and what they report -/

/-- What the registrations in the table report, when the operations begin with the store. -/
def eventsIn (handles : List Handle) (table : Nat) (store : Store) : List Op → List Event
  | [] => []
  | op :: rest =>
    (if (op.enters? handles table).isSome then store.reports op else []) ++
      (store.step op).elim [] fun next => next.eventsIn handles table rest

def isReplacement (event : Event) : Bool :=
  event.message == "replaced existing tag type definition"

theorem size_register_add (registry : Registry) (type : TagType) :
    (registry.register type).size + (registry.registerEvents type).countP isReplacement =
      registry.size + 1 := by
  have hfirst : isReplacement (.registering type.name type.attributes type.hasHandler) = false := by
    rw [isReplacement, Event.message]
    decide
  have hreplaced : isReplacement (.replaced type.name) = true := by
    rw [isReplacement, Event.message]
    decide
  rw [Registry.size_register, Registry.registerEvents, List.countP_cons, hfirst]
  by_cases h : registry.contains type.name = true
  · simp [h, hreplaced]
  · simp [h]

/-- Each registration makes the table grow or reports that it replaced a type. -/
theorem size_of_run (h : state.run ops = some store) (hfront : store.handles <+: handles)
    (htable : state.tables[table]? = some registry) :
    ((registrations handles table ops).foldl Registry.register registry).size +
        (state.eventsIn handles table ops).countP isReplacement =
      registry.size + (registrations handles table ops).length := by
  induction ops generalizing state registry with
  | nil => rfl
  | cons op ops ih =>
    obtain ⟨next, hstep, hrest⟩ := run_cons_eq_some_iff.mp h
    have hstepped := stepped_of_step hstep
    have hfront' := hstepped.handles_front.trans ((handles_front_of_run hrest).trans hfront)
    have hcount := ih hrest (hstepped.tables hfront' htable)
    rw [← List.singleton_append, registrations_append, List.foldl_append, List.length_append,
      List.singleton_append, eventsIn, hstep, List.countP_append]
    cases henters : op.enters? handles table with
    | none =>
      simp only [registrations, List.filterMap_cons, List.filterMap_nil, henters] at hcount ⊢
      simpa using hcount
    | some type =>
      have hreports : state.reports op = registry.registerEvents type := by
        cases hstepped with
        | @register index added handle hhandle =>
          rw [enters?_register (getElem?_of_front hfront' hhandle)] at henters
          split at henters
          · rename_i hsame
            cases henters
            rw [reports, registry?, hhandle, Option.bind_some, hsame, htable]
          · cases henters
        | _ => cases henters
      have hsize := size_register_add registry type
      simp only [registrations, List.filterMap_cons, List.filterMap_nil, henters, List.foldl_cons,
        List.foldl_nil, List.length_singleton, Option.isSome_some, if_true, Option.elim_some,
        hreports] at hcount ⊢
      omega

/-- Nothing was registered in a table that is not there yet, or has no types. -/
theorem enters?_eq_none (h : empty.run ops = some store) (hfront : store.handles <+: handles)
    (hempty : ∀ registry, store.tables[table]? = some registry → registry.isEmpty = true)
    (hmem : op ∈ ops) : op.enters? handles table = none := by
  obtain ⟨before, after, rfl⟩ := List.append_of_mem hmem
  rw [run_append, Option.bind_eq_some_iff] at h
  obtain ⟨state, hstate, hlast⟩ := h
  obtain ⟨next, hstep, hrest⟩ := run_cons_eq_some_iff.mp hlast
  have hlater := (handles_front_of_run hlast).trans hfront
  cases stepped_of_step hstep with
  | @register index type handle hhandle =>
    by_cases hsame : handle.table = table
    · -- the table would have the name of the type
      have henters : (Op.register index type).enters? handles table = some type := by
        rw [enters?_register (getElem?_of_front hlater hhandle), if_pos hsame]
      subst hsame
      obtain ⟨registry, htable, -⟩ := (reached_of_run hstate).sound.exists_registry hhandle
      have hnone : ((registrations handles handle.table (Op.register index type :: after)).foldl
          Registry.register registry).contains type.name = false :=
        Registry.not_contains_of_isEmpty (hempty _ (tables_of_run hlast hfront htable))
      have hmem : type ∈ registrations handles handle.table (Op.register index type :: after) :=
        List.mem_filterMap.mpr ⟨_, List.mem_cons_self, henters⟩
      rw [Registry.contains_foldl_register (.inr ⟨type, hmem, rfl⟩)] at hnone
      cases hnone
    · rw [enters?_register (getElem?_of_front hlater hhandle), if_neg hsame]
  | _ => rfl

theorem registrations_eq_nil (h : ∀ op ∈ ops, op.enters? handles table = none) :
    registrations handles table ops = [] :=
  List.filterMap_eq_nil_iff.mpr h

theorem eventsIn_append (h : state.run before = some next)
    (hbefore : ∀ op ∈ before, op.enters? handles table = none) (after : List Op) :
    state.eventsIn handles table (before ++ after) = next.eventsIn handles table after := by
  induction before generalizing state with
  | nil =>
    cases h
    rfl
  | cons op before ih =>
    obtain ⟨mid, hstep, hrest⟩ := run_cons_eq_some_iff.mp h
    obtain ⟨hop, hbefore⟩ := List.forall_mem_cons.mp hbefore
    rw [List.cons_append, eventsIn, hop, hstep]
    exact ih hrest hbefore

/-! ## What a run leaves behind -/

/-- What is known of the registries after the operations. -/
structure Told (ops : List Op) (store : Store) : Prop where
  /-- What can be done next. -/
  possible : ∀ op, (∃ next, store.step op = some next) ↔ op.Possible store.handles
  length_handles : store.handles.length = made ops
  /-- Which handle names which table. -/
  handles : ∀ before op after, ops = before ++ op :: after → op.makes = true →
    ∃ handle, store.handles[made before]? = some handle ∧
      Made store.handles (made before) op handle
  /-- What is looked up through a handle. -/
  lookups : ∀ index handle, store.handles[index]? = some handle →
    ∃ registry, store.registry? index = some registry ∧ registry.Listed ∧
      (∀ name type, registry.lookup name = some type ↔
        Recorded store.handles ops handle.table name type) ∧
      (∀ name, registry.contains name = true ↔
        ∃ type, Recorded store.handles ops handle.table name type)
  /-- What became of a table that was there after the first of the operations. -/
  tables : ∀ before after state table registry, ops = before ++ after →
    empty.run before = some state → state.tables[table]? = some registry →
    ∃ later, store.tables[table]? = some later ∧
      (registrations store.handles table after = [] → later = registry) ∧
      (∀ name, registry.contains name = true → later.contains name = true)
  /-- What was reported about a table that had no types at some moment, such as its first. -/
  reports : ∀ before after state table registry, ops = before ++ after →
    empty.run before = some state → state.tables[table]? = some registry →
    registry.isEmpty = true → ∃ later, store.tables[table]? = some later ∧
      (registrations store.handles table ops).length =
        later.size + (empty.eventsIn store.handles table ops).countP isReplacement

theorem exists_handle (h : empty.run (before ++ op :: after) = some store)
    (hmakes : op.makes = true) : ∃ handle, store.handles[made before]? = some handle ∧
      Made store.handles (made before) op handle := by
  rw [run_append, Option.bind_eq_some_iff] at h
  obtain ⟨state, hstate, hlast⟩ := h
  obtain ⟨next, hstep, hrest⟩ := run_cons_eq_some_iff.mp hlast
  have hreached := reached_of_run hstate
  rw [← hreached.length_handles]
  exact (stepped_of_step hstep).made_handle hreached.sound hmakes (handles_front_of_run hrest)

theorem length_registrations (hbefore : empty.run before = some state)
    (hafter : state.run after = some store) (htable : state.tables[table]? = some registry)
    (hempty : registry.isEmpty = true) : ∃ later, store.tables[table]? = some later ∧
      (registrations store.handles table (before ++ after)).length = later.size +
        (empty.eventsIn store.handles table (before ++ after)).countP isReplacement := by
  have hnone : ∀ op ∈ before, op.enters? store.handles table = none := by
    intro op hop
    refine enters?_eq_none hbefore (handles_front_of_run hafter) ?_ hop
    intro found hfound
    rw [htable] at hfound
    cases hfound
    exact hempty
  have hcount := size_of_run hafter (List.prefix_refl _) htable
  refine ⟨_, tables_of_run hafter (List.prefix_refl _) htable, ?_⟩
  rw [registrations_append, registrations_eq_nil hnone, List.nil_append,
    eventsIn_append hbefore hnone, hcount, Registry.size_of_isEmpty hempty, Nat.zero_add]

/-- After every run of operations, a name looked up through a handle gives the type registered last
under it through any handle of the same table, or else what the table's source had when it was
copied. A table changes only by what is registered in it, and loses no name. -/
theorem told_of_run (h : empty.run ops = some store) : Told ops store where
  possible _ := exists_step_iff (reached_of_run h).sound
  length_handles := (reached_of_run h).length_handles
  handles := by
    rintro before op after rfl hmakes
    exact exists_handle h hmakes
  lookups := by
    intro index handle hhandle
    obtain ⟨registry, htable, hregistry⟩ := (reached_of_run h).sound.exists_registry hhandle
    have hlookup (name : String) (type : TagType) : registry.lookup name = some type ↔
        Recorded store.handles ops handle.table name type := by
      rw [recorded_of_run h (List.prefix_refl _), find?, htable, Option.bind_some]
    refine ⟨registry, hregistry, registry.listed, hlookup, fun name => ?_⟩
    rw [Registry.contains_iff]
    exact exists_congr (hlookup name)
  tables := by
    rintro before after state table registry rfl hstate htable
    rw [run_append, hstate, Option.bind_some] at h
    refine ⟨_, tables_of_run h (List.prefix_refl _) htable, ?_, ?_⟩
    · intro hnone
      rw [hnone]
      rfl
    · intro name hname
      exact Registry.contains_foldl_register (.inl hname)
  reports := by
    rintro before after state table registry rfl hstate htable hempty
    rw [run_append, hstate, Option.bind_some] at h
    exact length_registrations hstate h htable hempty

/-- A type is registered anew through a copy of a shared handle. The other shared handle has the new
type, and a copy of the plain registry keeps the old one. -/
theorem told_of_run_aliased :
    ∃ (store : Store) (shared copied : Registry),
      empty.run [.add, .register 0 (.declare "t" ["a"] none), .share 0, .copy 1,
        .register 2 (.declare "t" ["b"] none), .copy 0] = some store ∧
      store.registry? 1 = some shared ∧ shared.lookup "t" = some (.declare "t" ["b"] none) ∧
      store.registry? 3 = some copied ∧ copied.lookup "t" = some (.declare "t" ["a"] none) := by
  let old := TagType.declare "t" ["a"] none
  let renewed := TagType.declare "t" ["b"] none
  let plain := Registry.empty.register old
  let store : Store :=
    ⟨[plain, plain.register renewed, plain], [⟨0, false⟩, ⟨1, true⟩, ⟨1, true⟩, ⟨2, false⟩]⟩
  have hrun : empty.run [.add, .register 0 old, .share 0, .copy 1, .register 2 renewed,
      .copy 0] = some store := rfl
  have htold := told_of_run hrun
  obtain ⟨shared, hshared, -, hlookup, -⟩ := htold.lookups 1 ⟨1, true⟩ rfl
  obtain ⟨copied, hcopied, -, hlookup', -⟩ := htold.lookups 3 ⟨2, false⟩ rfl
  have henters : (Op.register 0 old).enters? store.handles 0 = some old := rfl
  have henters' : (Op.register 2 renewed).enters? store.handles 1 = some renewed := rfl
  have hlast : ∀ later ∈ registrations store.handles 0 [.share 0, .copy 1, .register 2 renewed],
      later.name ≠ old.name := by
    simp [registrations, Op.enters?, tableOf, store]
  have hlast' : ∀ later ∈ registrations store.handles 1 [.copy 0], later.name ≠ renewed.name := by
    simp [registrations, Op.enters?]
  have hheld : Recorded store.handles ([.add] ++ .register 0 old :: [.share 0, .copy 1,
      .register 2 renewed]) 0 "t" old := .registered henters hlast
  have hkept : Recorded store.handles ([.add, .register 0 old, .share 0, .copy 1,
      .register 2 renewed] ++ .copy 0 :: []) 2 "t" old :=
    .copied ⟨0, .inl rfl, rfl⟩ rfl (by simp [registrations]) hheld
  have hrenewed : Recorded store.handles ([.add, .register 0 old, .share 0, .copy 1] ++
      .register 2 renewed :: [.copy 0]) 1 "t" renewed := .registered henters' hlast'
  exact ⟨store, shared, copied, rfl, hshared, (hlookup _ _).mpr hrenewed, hcopied,
    (hlookup' _ _).mpr hkept⟩

end Store
end InlineTag
