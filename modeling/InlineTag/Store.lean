import InlineTag.Rendering

/-!
# InlineTag.Store

Registries that are copied and shared. A handle names a table; several handles may name the same
one. A plain handle has its table to itself, and copying it copies the table. Copying a shared
handle gives one more handle of the same table. What is done with registries one after the other is
a list of operations, each of which names a handle by its index.
-/

namespace InlineTag

structure Handle where
  table : Nat
  shared : Bool
  deriving DecidableEq, Repr, Inhabited

structure Store where
  tables : List Registry
  handles : List Handle

namespace Store

/-- One plain handle of an empty table. -/
def initial : Store :=
  ⟨[Registry.empty], [⟨0, false⟩]⟩

/-- The table behind the handle at an index. -/
def registry? (store : Store) (index : Nat) : Option Registry :=
  store.handles[index]?.bind fun handle => store.tables[handle.table]?

def isShared (store : Store) (index : Nat) : Bool :=
  store.handles[index]?.any (·.shared)

/-- A new table with a handle of its own. -/
def addTable (store : Store) (registry : Registry) (shared : Bool) : Store :=
  ⟨store.tables ++ [registry], store.handles ++ [⟨store.tables.length, shared⟩]⟩

/-- A shared handle of a new empty table. -/
def addShared (store : Store) : Store :=
  store.addTable Registry.empty true

/-- A copy of a handle: of a plain one with its table, of a shared one without. -/
def copy (store : Store) (index : Nat) : Option Store :=
  match store.handles[index]?, store.registry? index with
  | some handle, some registry =>
    if handle.shared then some { store with handles := store.handles ++ [handle] }
    else some (store.addTable registry false)
  | _, _ => none

/-- A shared handle of a copy of the table. -/
def share (store : Store) (index : Nat) : Option Store :=
  (store.registry? index).map fun registry => store.addTable registry true

/-- Registers a type in the table behind a handle. -/
def register (store : Store) (index : Nat) (type : TagType) : Option Store :=
  match store.handles[index]? with
  | none => none
  | some handle =>
    some { store with tables := store.tables.modify handle.table (·.register type) }

/-! ## Operations -/

/-- No registries. -/
def empty : Store :=
  ⟨[], []⟩

inductive Op where
  /-- A new registry. -/
  | add
  /-- A new registry that is shared from the beginning. -/
  | addShared
  | copy (index : Nat)
  | share (index : Nat)
  | register (index : Nat) (type : TagType)

/-- The store after an operation; none when there is no such handle. What is shared already cannot
be shared anew. -/
def step (store : Store) : Op → Option Store
  | .add => some (store.addTable Registry.empty false)
  | .addShared => some store.addShared
  | .copy index => store.copy index
  | .share index => if store.isShared index then none else store.share index
  | .register index type => store.register index type

/-- The store after operations, one after the other. -/
def run (store : Store) (ops : List Op) : Option Store :=
  ops.foldlM step store

/-- What an operation reports. -/
def reports (store : Store) : Op → List Event
  | .register index type =>
    match store.registry? index with
    | none => []
    | some registry => registry.registerEvents type
  | _ => []

end Store
end InlineTag
