import Mathlib
import InlineTag.Store
import InlineTag.Proofs.Registrations

/-!
# InlineTag.Proofs.StoreSteps

What operations on registries say about the tables, and what each of them does.

* `Store.Made`: the handle that an operation makes, and whether older handles name its table.
* `Store.Recorded`: the type that a name stands for in a table. It is the one registered last under
  the name through any handle of the table, and if there is none since the table was copied, the one
  that the name stood for in the source.
* `Store.Stepped`: what each operation needs and does.
* `Store.Stepped.recorded_iff`: what is looked up stays what is recorded.
-/

namespace InlineTag

open Text

namespace Store

/-! ## What a list of operations says -/

def tableOf (handles : List Handle) (index : Nat) : Option Nat :=
  handles[index]?.map (·.table)

namespace Op

def makes : Op → Bool
  | .register .. => false
  | _ => true

/-- The type that the operation registers in the table, through whichever of its handles. -/
def enters? (handles : List Handle) (table : Nat) : Op → Option TagType
  | .register index type => if tableOf handles index = some table then some type else none
  | _ => none

/-- The operation makes a table that begins as a copy of the source. -/
def Copies (handles : List Handle) (source : Nat) (op : Op) : Prop :=
  ∃ index, (op = .copy index ∨ op = .share index) ∧ handles[index]? = some ⟨source, false⟩

/-- The operation names a handle that is there, and shares none that is shared already. -/
def Possible (handles : List Handle) : Op → Prop
  | .add => True
  | .addShared => True
  | .copy index => index < handles.length
  | .share index => ∃ table, handles[index]? = some ⟨table, false⟩
  | .register index _ => index < handles.length

end Op

/-- How many handles the operations make. The next one to be made has this index. -/
def made (ops : List Op) : Nat :=
  ops.countP Op.makes

/-- The types that the operations register in the table, in order. -/
def registrations (handles : List Handle) (table : Nat) (ops : List Op) : List TagType :=
  ops.filterMap (Op.enters? handles table)

/-- No handle before the index names the table. -/
def Fresh (handles : List Handle) (index table : Nat) : Prop :=
  ∀ other < index, tableOf handles other ≠ some table

/-- The handle at an index, when an operation has made it. Only a copy of a shared handle names a
table that another handle names already. -/
inductive Made (handles : List Handle) (index : Nat) : Op → Handle → Prop where
  | add {table : Nat} (hfresh : Fresh handles index table) : Made handles index .add ⟨table, false⟩
  | addShared {table : Nat} (hfresh : Fresh handles index table) :
      Made handles index .addShared ⟨table, true⟩
  | copy {source table other : Nat} (hsource : handles[other]? = some ⟨source, false⟩)
      (hfresh : Fresh handles index table) : Made handles index (.copy other) ⟨table, false⟩
  | share {source table other : Nat} (hsource : handles[other]? = some ⟨source, false⟩)
      (hfresh : Fresh handles index table) : Made handles index (.share other) ⟨table, true⟩
  | again {table other : Nat} (hother : handles[other]? = some ⟨table, true⟩) :
      Made handles index (.copy other) ⟨table, true⟩

/-- The type that a name stands for in a table after the operations. -/
inductive Recorded (handles : List Handle) : List Op → Nat → String → TagType → Prop where
  | registered {before after : List Op} {op : Op} {table : Nat} {type : TagType}
      (henters : op.enters? handles table = some type)
      (hlast : ∀ later ∈ registrations handles table after, later.name ≠ type.name) :
      Recorded handles (before ++ op :: after) table type.name type
  | copied {before after : List Op} {op : Op} {source table : Nat} {name : String} {type : TagType}
      (hcopies : op.Copies handles source) (hmade : tableOf handles (made before) = some table)
      (hlast : ∀ later ∈ registrations handles table after, later.name ≠ name)
      (hheld : Recorded handles before source name type) :
      Recorded handles (before ++ op :: after) table name type

section Recorded

variable {handles : List Handle} {ops : List Op} {op : Op} {table : Nat} {name : String}
  {type : TagType}

theorem registrations_append (before after : List Op) :
    registrations handles table (before ++ after) =
      registrations handles table before ++ registrations handles table after :=
  List.filterMap_append

theorem mem_registrations_singleton :
    type ∈ registrations handles table [op] ↔ op.enters? handles table = some type := by
  simp [registrations]

/-- What one more operation adds to the record. -/
theorem recorded_concat_iff :
    Recorded handles (ops ++ [op]) table name type ↔
      (op.enters? handles table = some type ∧ type.name = name) ∨
      (∃ source, op.Copies handles source ∧ tableOf handles (made ops) = some table ∧
        Recorded handles ops source name type) ∨
      ((∀ later, op.enters? handles table = some later → later.name ≠ name) ∧
        Recorded handles ops table name type) := by
  have hlater {after : List Op} {last : Op} {key : String} :
      (∀ later ∈ registrations handles table (after ++ [last]), later.name ≠ key) ↔
        (∀ later ∈ registrations handles table after, later.name ≠ key) ∧
        (∀ later, last.enters? handles table = some later → later.name ≠ key) := by
    simp only [registrations_append, List.forall_mem_append, mem_registrations_singleton]
  constructor
  · intro h
    generalize hall : ops ++ [op] = all at h
    cases h with
    | @registered before after first _ _ henters hlast =>
      rcases List.eq_nil_or_concat' after with rfl | ⟨after, last, rfl⟩
      · obtain ⟨rfl, hop⟩ := List.append_inj' hall rfl
        cases hop
        exact .inl ⟨henters, rfl⟩
      · rw [← List.cons_append, ← List.append_assoc] at hall
        obtain ⟨rfl, hop⟩ := List.append_inj' hall rfl
        cases hop
        obtain ⟨hafter, hlast⟩ := hlater.mp hlast
        exact .inr (.inr ⟨hlast, .registered henters hafter⟩)
    | @copied before after first source _ _ _ hcopies hmade hlast hheld =>
      rcases List.eq_nil_or_concat' after with rfl | ⟨after, last, rfl⟩
      · obtain ⟨rfl, hop⟩ := List.append_inj' hall rfl
        cases hop
        exact .inr (.inl ⟨source, hcopies, hmade, hheld⟩)
      · rw [← List.cons_append, ← List.append_assoc] at hall
        obtain ⟨rfl, hop⟩ := List.append_inj' hall rfl
        cases hop
        obtain ⟨hafter, hlast⟩ := hlater.mp hlast
        exact .inr (.inr ⟨hlast, .copied hcopies hmade hafter hheld⟩)
  · rintro (⟨henters, rfl⟩ | ⟨source, hcopies, hmade, hheld⟩ | ⟨hlast, hheld⟩)
    · exact .registered henters (by simp [registrations])
    · exact .copied hcopies hmade (by simp [registrations]) hheld
    · cases hheld with
      | registered henters hafter =>
        rw [List.append_assoc, List.cons_append]
        exact .registered henters (hlater.mpr ⟨hafter, hlast⟩)
      | copied hcopies hmade hafter hheld =>
        rw [List.append_assoc, List.cons_append]
        exact .copied hcopies hmade (hlater.mpr ⟨hafter, hlast⟩) hheld

end Recorded

/-! ## Steps -/

/-- What each operation needs and does. -/
inductive Stepped (store : Store) : Op → Store → Prop where
  | add : Stepped store .add (store.addTable Registry.empty false)
  | addShared : Stepped store .addShared (store.addTable Registry.empty true)
  | copy {index source : Nat} {registry : Registry}
      (hhandle : store.handles[index]? = some ⟨source, false⟩)
      (hsource : store.tables[source]? = some registry) :
      Stepped store (.copy index) (store.addTable registry false)
  | again {index table : Nat} (hhandle : store.handles[index]? = some ⟨table, true⟩) :
      Stepped store (.copy index) { store with handles := store.handles ++ [⟨table, true⟩] }
  | share {index source : Nat} {registry : Registry}
      (hhandle : store.handles[index]? = some ⟨source, false⟩)
      (hsource : store.tables[source]? = some registry) :
      Stepped store (.share index) (store.addTable registry true)
  | register {index : Nat} {type : TagType} {handle : Handle}
      (hhandle : store.handles[index]? = some handle) :
      Stepped store (.register index type)
        { store with tables := store.tables.modify handle.table (·.register type) }

/-- Every handle names a table that is there. -/
def Sound (store : Store) : Prop :=
  ∀ handle ∈ store.handles, handle.table < store.tables.length

/-- The type that a name stands for in a table. -/
def find? (store : Store) (table : Nat) (name : String) : Option TagType :=
  store.tables[table]?.bind (·.lookup name)

variable {store next state : Store} {op : Op} {ops before after : List Op} {index table : Nat}
  {handle : Handle} {handles : List Handle} {registry : Registry} {name : String} {type : TagType}

theorem tableOf_of_getElem? (h : handles[index]? = some handle) :
    tableOf handles index = some handle.table := by
  rw [tableOf, h]
  rfl

theorem enters?_register (h : handles[index]? = some handle) :
    (Op.register index type).enters? handles table =
      if handle.table = table then some type else none := by
  simp [Op.enters?, tableOf_of_getElem? h]

theorem stepped_of_step (h : store.step op = some next) : store.Stepped op next := by
  cases op with
  | add =>
    cases h
    exact .add
  | addShared =>
    cases h
    exact .addShared
  | copy index =>
    rw [step, copy] at h
    split at h
    · rename_i handle registry hhandle hregistry
      obtain ⟨table, shared⟩ := handle
      unfold registry? at hregistry
      rw [hhandle, Option.bind_some] at hregistry
      cases shared with
      | true =>
        cases h
        exact .again hhandle
      | false =>
        cases h
        exact .copy hhandle hregistry
    · cases h
  | share index =>
    rw [step, isShared] at h
    split at h
    · cases h
    · rename_i hshared
      obtain ⟨registry, hregistry, rfl⟩ := Option.map_eq_some_iff.mp h
      obtain ⟨⟨table, shared⟩, hhandle, htable⟩ := Option.bind_eq_some_iff.mp hregistry
      cases shared with
      | true => simp [hhandle] at hshared
      | false => exact .share hhandle htable
  | register index type =>
    rw [step, register] at h
    split at h
    · cases h
    · rename_i handle hhandle
      cases h
      exact .register hhandle

theorem Sound.exists_registry (h : store.Sound) (hhandle : store.handles[index]? = some handle) :
    ∃ registry, store.tables[handle.table]? = some registry ∧
      store.registry? index = some registry := by
  have hlt := h handle (List.mem_of_getElem? hhandle)
  refine ⟨_, List.getElem?_eq_getElem hlt, ?_⟩
  unfold registry?
  rw [hhandle, Option.bind_some, List.getElem?_eq_getElem hlt]

theorem exists_step_iff (hsound : store.Sound) :
    (∃ next, store.step op = some next) ↔ op.Possible store.handles := by
  have hbound {index : Nat} {handle : Handle} (h : store.handles[index]? = some handle) :
      index < store.handles.length := (List.getElem?_eq_some_iff.mp h).1
  constructor
  · rintro ⟨next, hstep⟩
    cases stepped_of_step hstep with
    | add => trivial
    | addShared => trivial
    | copy hhandle => exact hbound hhandle
    | again hhandle => exact hbound hhandle
    | share hhandle => exact ⟨_, hhandle⟩
    | register hhandle => exact hbound hhandle
  · intro hpossible
    cases op with
    | add => exact ⟨_, rfl⟩
    | addShared => exact ⟨_, rfl⟩
    | copy index =>
      have hhandle := List.getElem?_eq_getElem (show index < store.handles.length from hpossible)
      obtain ⟨registry, -, hregistry⟩ := hsound.exists_registry hhandle
      rw [step, copy, hhandle, hregistry]
      dsimp only
      split
      · exact ⟨_, rfl⟩
      · exact ⟨_, rfl⟩
    | share index =>
      obtain ⟨table, hhandle⟩ := hpossible
      obtain ⟨registry, -, hregistry⟩ := hsound.exists_registry hhandle
      rw [step, isShared, share, hhandle, hregistry]
      exact ⟨_, rfl⟩
    | register index type =>
      have hhandle := List.getElem?_eq_getElem (show index < store.handles.length from hpossible)
      rw [step, register, hhandle]
      exact ⟨_, rfl⟩

theorem getElem?_of_front {α : Type} {front all : List α} {value : α} (h : front <+: all)
    (hget : front[index]? = some value) : all[index]? = some value := by
  obtain ⟨back, rfl⟩ := h
  rw [List.getElem?_append_left (List.getElem?_eq_some_iff.mp hget).1, hget]

namespace Stepped

theorem handles_front (h : store.Stepped op next) : store.handles <+: next.handles := by
  cases h with
  | register => exact List.prefix_refl _
  | _ => exact List.prefix_append _ _

theorem length_handles (h : store.Stepped op next) :
    next.handles.length = store.handles.length + made [op] := by
  cases h with
  | register => rfl
  | _ => exact List.length_append

theorem length_tables_le (h : store.Stepped op next) :
    store.tables.length ≤ next.tables.length := by
  cases h with
  | register => exact (List.length_modify _ _ _).ge
  | again => exact Nat.le_refl _
  | _ => exact (List.prefix_append _ _).length_le

/-- The handle that an operation has made. -/
theorem made_handle (h : store.Stepped op next) (hsound : store.Sound) (hmakes : op.makes = true)
    (hfront : next.handles <+: handles) :
    ∃ handle, handles[store.handles.length]? = some handle ∧
      Made handles store.handles.length op handle := by
  have hold {index : Nat} {handle : Handle} (hhandle : store.handles[index]? = some handle) :
      handles[index]? = some handle :=
    getElem?_of_front (h.handles_front.trans hfront) hhandle
  have hfresh : Fresh handles store.handles.length store.tables.length := by
    intro other hother hnames
    obtain ⟨back, hback⟩ := h.handles_front.trans hfront
    rw [tableOf, ← hback, List.getElem?_append_left hother] at hnames
    obtain ⟨handle, hhandle, htable⟩ := Option.map_eq_some_iff.mp hnames
    have hlt := hsound handle (List.mem_of_getElem? hhandle)
    omega
  cases h with
  | add => exact ⟨_, getElem?_of_front hfront List.getElem?_concat_length, .add hfresh⟩
  | addShared =>
    exact ⟨_, getElem?_of_front hfront List.getElem?_concat_length, .addShared hfresh⟩
  | copy hhandle =>
    exact ⟨_, getElem?_of_front hfront List.getElem?_concat_length, .copy (hold hhandle) hfresh⟩
  | again hhandle =>
    exact ⟨_, getElem?_of_front hfront List.getElem?_concat_length, .again (hold hhandle)⟩
  | share hhandle =>
    exact ⟨_, getElem?_of_front hfront List.getElem?_concat_length, .share (hold hhandle) hfresh⟩
  | register => cases hmakes

theorem sound (h : store.Stepped op next) (hsound : store.Sound) : next.Sound := by
  intro handle hmem
  have hle := h.length_tables_le
  have hold (hmem : handle ∈ store.handles) : handle.table < next.tables.length :=
    Nat.lt_of_lt_of_le (hsound handle hmem) hle
  have hnew {registry : Registry} {shared : Bool}
      (hmem : handle ∈ (store.addTable registry shared).handles) :
      handle.table < (store.addTable registry shared).tables.length := by
    rw [addTable, List.length_append]
    rcases List.mem_append.mp hmem with hmem | hmem
    · exact Nat.lt_succ_of_lt (hsound handle hmem)
    · rw [List.mem_singleton.mp hmem]
      exact Nat.lt_succ_self _
  cases h with
  | again hhandle =>
    rcases List.mem_append.mp hmem with hmem | hmem
    · exact hold hmem
    · rw [List.mem_singleton.mp hmem]
      exact hsound _ (List.mem_of_getElem? hhandle)
  | register => exact hold hmem
  | _ => exact hnew hmem

/-- A table that is there changes by what is registered in it and by nothing else. -/
theorem tables (h : store.Stepped op next) (hfront : store.handles <+: handles)
    (htable : store.tables[table]? = some registry) :
    next.tables[table]? =
      some ((registrations handles table [op]).foldl Registry.register registry) := by
  have happend (more : List Registry) : (store.tables ++ more)[table]? = some registry :=
    getElem?_of_front (List.prefix_append _ _) htable
  cases h with
  | again => exact htable
  | @register index type handle hhandle =>
    rw [registrations, List.filterMap_cons,
      enters?_register (getElem?_of_front hfront hhandle)]
    dsimp only
    rw [List.getElem?_modify, htable, Option.map_eq_map, Option.map_some]
    by_cases hsame : handle.table = table
    · rw [if_pos hsame, if_pos hsame]
      rfl
    · rw [if_neg hsame, if_neg hsame]
      rfl
  | _ => exact happend _

theorem of_copies {source : Nat} (h : store.Stepped op next) (hfront : store.handles <+: handles)
    (hcopies : op.Copies handles source) :
    ∃ registry shared, store.tables[source]? = some registry ∧
      next = store.addTable registry shared := by
  obtain ⟨index, hop, hsource⟩ := hcopies
  have hsame {handle : Handle} (hhandle : store.handles[index]? = some handle) :
      handle = ⟨source, false⟩ :=
    Option.some.inj ((getElem?_of_front hfront hhandle).symm.trans hsource)
  cases h with
  | copy hhandle htable =>
    rcases hop with hop | hop
    · cases hop
      cases hsame hhandle
      exact ⟨_, _, htable, rfl⟩
    · cases hop
  | again hhandle =>
    rcases hop with hop | hop
    · cases hop
      cases hsame hhandle
    · cases hop
  | share hhandle htable =>
    rcases hop with hop | hop
    · cases hop
    · cases hop
      cases hsame hhandle
      exact ⟨_, _, htable, rfl⟩
  | _ => rcases hop with hop | hop <;> cases hop

end Stepped

/-! ## Looking up names -/

theorem find?_addTable (registry : Registry) (shared : Bool) (table : Nat) (name : String) :
    (store.addTable registry shared).find? table name =
      if table = store.tables.length then registry.lookup name else store.find? table name := by
  rw [find?, addTable]
  dsimp only
  by_cases htable : table = store.tables.length
  · rw [if_pos htable, htable, List.getElem?_concat_length]
    rfl
  · rw [if_neg htable, find?]
    congr 1
    rw [List.getElem?_append]
    split
    · rfl
    · rw [List.getElem?_singleton, if_neg (by omega), List.getElem?_eq_none (by omega)]

theorem find?_eq_none (h : store.tables.length ≤ table) : store.find? table name = none := by
  rw [find?, List.getElem?_eq_none h]
  rfl

namespace Stepped

/-- The operation is no copy, so a name stands for what the operation registers under it, and
otherwise for what it stood for. -/
theorem find?_eq_some_iff (h : store.Stepped op next) (hsound : store.Sound)
    (hfront : store.handles <+: handles) (hcopies : ∀ source, ¬ op.Copies handles source) :
    next.find? table name = some type ↔
      (op.enters? handles table = some type ∧ type.name = name) ∨
      ((∀ later, op.enters? handles table = some later → later.name ≠ name) ∧
        store.find? table name = some type) := by
  have hempty (shared : Bool) :
      (store.addTable Registry.empty shared).find? table name = store.find? table name := by
    rw [find?_addTable]
    split
    · rename_i htable
      rw [find?_eq_none (Nat.le_of_eq htable.symm)]
      rfl
    · rfl
  cases h with
  | add => simp [hempty, Op.enters?]
  | addShared => simp [hempty, Op.enters?]
  | copy hhandle => exact absurd ⟨_, .inl rfl, getElem?_of_front hfront hhandle⟩ (hcopies _)
  | again => simp [find?, Op.enters?]
  | share hhandle => exact absurd ⟨_, .inr rfl, getElem?_of_front hfront hhandle⟩ (hcopies _)
  | @register index added handle hhandle =>
    have hlt := hsound handle (List.mem_of_getElem? hhandle)
    rw [enters?_register (getElem?_of_front hfront hhandle), find?, find?, List.getElem?_modify]
    by_cases htable : handle.table = table
    · subst htable
      rw [List.getElem?_eq_getElem hlt]
      simp only [if_true, Option.map_eq_map, Option.map_some, Option.bind_some,
        Registry.lookup_register, Option.some_inj, forall_eq']
      by_cases hname : name = added.name
      · subst hname
        rw [if_pos rfl, Option.some_inj]
        constructor
        · rintro rfl
          exact .inl ⟨rfl, rfl⟩
        · rintro (⟨hadded, -⟩ | ⟨hne, -⟩)
          · exact hadded
          · exact absurd rfl hne
      · rw [if_neg hname]
        constructor
        · intro hlookup
          exact .inr ⟨Ne.symm hname, hlookup⟩
        · rintro (⟨rfl, rfl⟩ | ⟨-, hlookup⟩)
          · exact absurd rfl hname
          · exact hlookup
    · simp [htable]

/-- The record of the operations stays right with one more of them. -/
theorem recorded_iff (h : store.Stepped op next) (hsound : store.Sound)
    (hlength : store.handles.length = made ops) (hfront : next.handles <+: handles)
    (hrecord : ∀ table name type,
      Recorded handles ops table name type ↔ store.find? table name = some type)
    (table : Nat) (name : String) (type : TagType) :
    Recorded handles (ops ++ [op]) table name type ↔ next.find? table name = some type := by
  have hfront' := h.handles_front.trans hfront
  rw [recorded_concat_iff]
  by_cases hcopy : ∃ source, op.Copies handles source
  · -- the new table is the last one, and nothing was recorded for it so far
    obtain ⟨source, hcopies⟩ := hcopy
    obtain ⟨registry, shared, hsource, rfl⟩ := h.of_copies hfront' hcopies
    have hmade : tableOf handles (made ops) = some store.tables.length := by
      rw [← hlength]
      exact tableOf_of_getElem? (getElem?_of_front hfront List.getElem?_concat_length)
    have hnone : op.enters? handles table = none := by
      obtain ⟨index, rfl | rfl, -⟩ := hcopies <;> rfl
    have hheld (other : Nat) (hother : op.Copies handles other) :
        Recorded handles ops other name type ↔ registry.lookup name = some type := by
      obtain ⟨registry', shared', hsource', hnext⟩ := h.of_copies hfront' hother
      have hsame : registry' = registry := by
        simpa [addTable] using (congrArg Store.tables hnext).symm
      rw [hrecord, find?, hsource', Option.bind_some, hsame]
    rw [find?_addTable, hnone, hmade, Option.some_inj]
    by_cases htable : table = store.tables.length
    · subst htable
      rw [if_pos rfl, ← hheld source hcopies]
      constructor
      · rintro (⟨hentered, -⟩ | ⟨other, hother, -, hrecorded⟩ | ⟨-, hrecorded⟩)
        · cases hentered
        · exact (hheld source hcopies).mpr ((hheld other hother).mp hrecorded)
        · rw [hrecord, find?_eq_none (Nat.le_refl _)] at hrecorded
          cases hrecorded
      · intro hrecorded
        exact .inr (.inl ⟨source, hcopies, rfl, hrecorded⟩)
    · rw [if_neg htable, ← hrecord]
      constructor
      · rintro (⟨hentered, -⟩ | ⟨other, -, hother, -⟩ | ⟨-, hrecorded⟩)
        · cases hentered
        · exact absurd hother.symm htable
        · exact hrecorded
      · intro hrecorded
        exact .inr (.inr ⟨by simp, hrecorded⟩)
  · have hcopies : ∀ source, ¬ op.Copies handles source := fun source hsource =>
      hcopy ⟨source, hsource⟩
    rw [h.find?_eq_some_iff hsound hfront' hcopies, ← hrecord]
    constructor
    · rintro (hentered | ⟨source, hsource, -⟩ | hkept)
      · exact .inl hentered
      · exact absurd hsource (hcopies source)
      · exact .inr hkept
    · rintro (hentered | hkept)
      · exact .inl hentered
      · exact .inr (.inr hkept)

end Stepped

end Store
end InlineTag
