import InlineTag.Rendering

/-!
# InlineTag.Shared

A table that threads share behind a lock. The lock lets in any number of readers at a time, or one
writer alone. A call enters by the lock, works on the table in one or two steps, and leaves with its
answer; registering a type enters as a writer and every other call as a reader. Between any two
steps of a call the other threads may take steps of their own, and every step works on the table as
it is at that moment. What a run does is told by its moves in the order in which they are taken, so
a list of moves is one interleaving of the threads.
-/

namespace InlineTag

open Toml

/-- Who is in: so many readers, or a writer. -/
inductive Lock where
  | readers (count : Nat)
  | writer
  deriving DecidableEq, Repr

/-- What a thread can ask of the shared table. -/
inductive Call where
  | register (type : TagType)
  | contains (name : String)
  | parse (raw : String) (data options : Bag)
  | render (tag : Tag)
  | parseAndRender (raw : String) (data options : Bag)

inductive Answer where
  | registered
  | known (found : Bool)
  | tag (result : Except TagFault Tag)
  | text (result : Except TagFault String)

/-- Where a thread is in a call. -/
inductive Phase where
  | idle
  /-- It is let in and has done nothing yet. -/
  | entered (call : Call)
  /-- It has read the tag that it is going to show. -/
  | parsed (raw : String) (data options : Bag) (tag : Tag)
  /-- It has its answer and is still in. -/
  | finished (call : Call) (answer : Answer)

inductive Act where
  | enter (call : Call)
  | work
  | leave

/-- What the thread at an index does next. -/
structure Move where
  thread : Nat
  act : Act

/-- A table, its lock, and the threads that share it. -/
structure Shared where
  table : Registry
  lock : Lock
  threads : List Phase

namespace Call

def writes : Call → Bool
  | .register _ => true
  | _ => false

/-- The answer of a call that has a table to itself. -/
def answer (call : Call) (table : Registry) : Answer :=
  match call with
  | .register _ => .registered
  | .contains name => .known (table.contains name)
  | .parse raw data options => .tag (table.parse raw data options)
  | .render tag => .text (table.render tag)
  | .parseAndRender raw data options => .text (table.parseAndRender raw data options)

/-- The table after the first step of a call. -/
def change (call : Call) (table : Registry) : Registry :=
  match call with
  | .register type => table.register type
  | _ => table

/-- Where the first step of a call leads to. Only a source that is read and then shown takes a
second one. -/
def begin (call : Call) (table : Registry) : Phase :=
  match call with
  | .parseAndRender raw data options =>
    match table.parse raw data options with
    | .error fault => .finished call (.text (.error fault))
    | .ok tag => .parsed raw data options tag
  | _ => .finished call (call.answer table)

end Call

namespace Lock

/-- The lock after it has let in a call; none while the call has to wait. -/
def enter (lock : Lock) (call : Call) : Option Lock :=
  match lock with
  | .writer => none
  | .readers count =>
    if call.writes then (if count = 0 then some .writer else none)
    else some (.readers (count + 1))

/-- The lock after a call has left. -/
def leave : Lock → Lock
  | .writer => .readers 0
  | .readers count => .readers (count - 1)

end Lock

/-- The call that a thread is in. -/
def Phase.call? : Phase → Option Call
  | .idle => none
  | .entered call => some call
  | .parsed raw data options _ => some (.parseAndRender raw data options)
  | .finished call _ => some call

namespace Shared

/-- A table that nobody uses yet, shared by some number of threads. -/
def start (table : Registry) (threads : Nat) : Shared :=
  ⟨table, .readers 0, List.replicate threads .idle⟩

def setPhase (shared : Shared) (thread : Nat) (phase : Phase) : Shared :=
  { shared with threads := shared.threads.set thread phase }

/-- What a move leads to; none when the thread cannot make it now. -/
def step (shared : Shared) (move : Move) : Option Shared :=
  match move.act, shared.threads[move.thread]? with
  | .enter call, some .idle =>
    (shared.lock.enter call).map fun lock =>
      { shared.setPhase move.thread (.entered call) with lock }
  | .work, some (.entered call) =>
    some { shared.setPhase move.thread (call.begin shared.table) with
      table := call.change shared.table }
  | .work, some (.parsed raw data options tag) =>
    some (shared.setPhase move.thread
      (.finished (.parseAndRender raw data options) (.text (shared.table.render tag))))
  | .leave, some (.finished _ _) =>
    some { shared.setPhase move.thread .idle with lock := shared.lock.leave }
  | _, _ => none

/-- The moves of a list, one after the other. -/
def run (shared : Shared) : List Move → Option Shared
  | [] => some shared
  | move :: rest =>
    match shared.step move with
    | none => none
    | some next => next.run rest

end Shared

/-- The types that the moves of a list register, in the order in which their writers were let in. -/
def registrations (moves : List Move) : List TagType :=
  moves.filterMap fun move =>
    match move.act with
    | .enter (.register type) => some type
    | _ => none

/-- A table with the registrations of a list of moves made in it. -/
def tableAfter (table : Registry) (moves : List Move) : Registry :=
  (registrations moves).foldl Registry.register table

end InlineTag
