import Mathlib
import InlineTag.Shared

/-!
# InlineTag.Proofs.SharedLock

The moves of threads that share a table, and who may be in at the same time.

* `Shared.Moved`: what each move needs and does.
* `Shared.run_induction`: what every move keeps holds after every run.
* `Shared.Guarded`: the lock knows how many readers and writers are in, so a writer is in alone.
-/

namespace InlineTag

open Toml

/-! ## Moves -/

theorem Call.call?_begin (call : Call) (table : Registry) :
    (call.begin table).call? = some call := by
  cases call with
  | parseAndRender raw data options =>
    rw [begin]
    cases table.parse raw data options <;> rfl
  | _ => rfl

theorem Call.begin_ne_entered (call other : Call) (table : Registry) :
    call.begin table ≠ .entered other := by
  cases call with
  | parseAndRender raw data options =>
    rw [begin]
    cases table.parse raw data options <;> simp
  | _ => simp [begin]

theorem Call.change_of_reads {call : Call} (h : call.writes = false) (table : Registry) :
    call.change table = table := by
  cases call with
  | register type => cases h
  | _ => rfl

namespace Shared

/-- The moves that threads can make. -/
inductive Moved (shared : Shared) : Move → Shared → Prop where
  | enter {thread : Nat} {call : Call} {lock : Lock}
      (hidle : shared.threads[thread]? = some .idle) (hlock : shared.lock.enter call = some lock) :
      Moved shared ⟨thread, .enter call⟩ { shared.setPhase thread (.entered call) with lock }
  | first {thread : Nat} {call : Call} (hentered : shared.threads[thread]? = some (.entered call)) :
      Moved shared ⟨thread, .work⟩ { shared.setPhase thread (call.begin shared.table) with
        table := call.change shared.table }
  | second {thread : Nat} {raw : String} {data options : Bag} {tag : Tag}
      (hparsed : shared.threads[thread]? = some (.parsed raw data options tag)) :
      Moved shared ⟨thread, .work⟩ (shared.setPhase thread
        (.finished (.parseAndRender raw data options) (.text (shared.table.render tag))))
  | leave {thread : Nat} {call : Call} {answer : Answer}
      (hfinished : shared.threads[thread]? = some (.finished call answer)) :
      Moved shared ⟨thread, .leave⟩
        { shared.setPhase thread .idle with lock := shared.lock.leave }

variable {shared next : Shared} {move : Move}

theorem step_eq_some_iff : shared.step move = some next ↔ shared.Moved move next := by
  constructor
  · intro h
    obtain ⟨thread, act⟩ := move
    rw [step] at h
    split at h
    · rename_i call hact hidle
      cases hact
      obtain ⟨lock, hlock, rfl⟩ := Option.map_eq_some_iff.mp h
      exact .enter hidle hlock
    · rename_i call hact hentered
      cases hact
      cases h
      exact .first hentered
    · rename_i raw data options tag hact hparsed
      cases hact
      cases h
      exact .second hparsed
    · rename_i call answer hact hfinished
      cases hact
      cases h
      exact .leave hfinished
    · cases h
  · intro h
    cases h with
    | enter hidle hlock => simp [step, hidle, hlock]
    | first hentered => simp [step, hentered]
    | second hparsed => simp [step, hparsed]
    | leave hfinished => simp [step, hfinished]

theorem getElem?_setPhase {thread : Nat} {old : Phase} (h : shared.threads[thread]? = some old)
    (phase : Phase) (index : Nat) :
    (shared.setPhase thread phase).threads[index]? =
      if index = thread then some phase else shared.threads[index]? := by
  obtain ⟨hlt, -⟩ := List.getElem?_eq_some_iff.mp h
  rw [setPhase]
  by_cases hindex : index = thread
  · rw [if_pos hindex, hindex, List.getElem?_set_self hlt]
  · rw [if_neg hindex, List.getElem?_set_ne (Ne.symm hindex)]

theorem Moved.threads_of_ne (h : shared.Moved move next) {thread : Nat}
    (hne : thread ≠ move.thread) : next.threads[thread]? = shared.threads[thread]? := by
  cases h with
  | enter hidle _ => exact (getElem?_setPhase hidle _ _).trans (if_neg hne)
  | first hentered => exact (getElem?_setPhase hentered _ _).trans (if_neg hne)
  | second hparsed => exact (getElem?_setPhase hparsed _ _).trans (if_neg hne)
  | leave hfinished => exact (getElem?_setPhase hfinished _ _).trans (if_neg hne)

/-! ## Runs -/

theorem run_append (front back : List Move) :
    shared.run (front ++ back) = (shared.run front).bind fun mid => mid.run back := by
  induction front generalizing shared with
  | nil => rfl
  | cons move front ih =>
    rw [List.cons_append, run, run]
    cases shared.step move with
    | none => rfl
    | some next => exact ih

/-- What holds at the beginning and is kept by every move holds after every run. -/
theorem run_induction (holds : List Move → Shared → Prop) {start : Shared}
    (hstart : holds [] start)
    (hstep : ∀ moves shared move next, holds moves shared → shared.Moved move next →
      holds (moves ++ [move]) next)
    {moves : List Move} {shared : Shared} (hrun : start.run moves = some shared) :
    holds moves shared := by
  induction moves using List.reverseRecOn generalizing shared with
  | nil =>
    cases hrun
    exact hstart
  | append_singleton moves move ih =>
    rw [run_append, Option.bind_eq_some_iff] at hrun
    obtain ⟨mid, hmid, hlast⟩ := hrun
    rw [run] at hlast
    cases hnext : mid.step move with
    | none =>
      rw [hnext] at hlast
      cases hlast
    | some next =>
      rw [hnext] at hlast
      cases hlast
      exact hstep moves mid move shared (ih hmid) (step_eq_some_iff.mp hnext)

end Shared

/-! ## Who is in -/

namespace Phase

/-- The thread is in as a reader. -/
def reads (phase : Phase) : Bool :=
  phase.call?.any fun call => !call.writes

/-- The thread is in as a writer. -/
def writes (phase : Phase) : Bool :=
  phase.call?.any fun call => call.writes

end Phase

namespace Lock

def readersIn : Lock → Nat
  | .readers count => count
  | .writer => 0

def writersIn : Lock → Nat
  | .readers _ => 0
  | .writer => 1

variable {lock next : Lock} {call : Call}

/-- A writer is let in only when nobody is in. -/
theorem enter_writer (hcall : call.writes = true) (h : lock.enter call = some next) :
    lock = .readers 0 ∧ next = .writer := by
  cases lock with
  | writer => cases h
  | readers count =>
    rw [enter, hcall, if_pos rfl] at h
    split at h
    · rename_i hzero
      cases h
      exact ⟨congrArg Lock.readers hzero, rfl⟩
    · cases h

/-- A reader is let in only when no writer is in. -/
theorem enter_reader (hcall : call.writes = false) (h : lock.enter call = some next) :
    ∃ count, lock = .readers count ∧ next = .readers (count + 1) := by
  cases lock with
  | writer => cases h
  | readers count =>
    rw [enter, hcall] at h
    cases h
    exact ⟨count, rfl, rfl⟩

end Lock

theorem countP_set {α : Type} {p : α → Bool} {list : List α} {index : Nat} {old : α}
    (h : list[index]? = some old) (new : α) :
    (list.set index new).countP p + (if p old then 1 else 0) =
      list.countP p + (if p new then 1 else 0) := by
  obtain ⟨hlt, hget⟩ := List.getElem?_eq_some_iff.mp h
  have hold : (if p old then 1 else 0) ≤ list.countP p := by
    split
    · rename_i hp
      exact List.countP_pos_iff.mpr ⟨old, List.mem_of_getElem? h, hp⟩
    · exact Nat.zero_le _
  rw [List.countP_set hlt, hget]
  omega

namespace Shared

/-- The lock counts the threads that are in. -/
structure Guarded (shared : Shared) : Prop where
  reads : shared.threads.countP Phase.reads = shared.lock.readersIn
  writes : shared.threads.countP Phase.writes = shared.lock.writersIn

variable {shared next : Shared} {move : Move} {thread other : Nat} {phase phase' : Phase}

theorem guarded_start (table : Registry) (threads : Nat) : (start table threads).Guarded := by
  constructor <;> simp [start, List.countP_replicate, Phase.reads, Phase.writes, Phase.call?,
    Lock.readersIn, Lock.writersIn]

namespace Guarded

/-- The counts after one thread has gone to another phase. -/
theorem countP_setPhase (h : shared.Guarded) (hthread : shared.threads[thread]? = some phase)
    (phase' : Phase) :
    (shared.setPhase thread phase').threads.countP Phase.reads +
        (if phase.reads then 1 else 0) =
      shared.lock.readersIn + (if phase'.reads then 1 else 0) ∧
    (shared.setPhase thread phase').threads.countP Phase.writes +
        (if phase.writes then 1 else 0) =
      shared.lock.writersIn + (if phase'.writes then 1 else 0) := by
  rw [← h.reads, ← h.writes]
  exact ⟨countP_set hthread phase', countP_set hthread phase'⟩

/-- A thread that stays in its call, or out of any, leaves the counts as they are. -/
theorem setPhase (h : shared.Guarded) (hthread : shared.threads[thread]? = some phase)
    (hcall : phase'.call? = phase.call?) : (shared.setPhase thread phase').Guarded := by
  obtain ⟨hreads, hwrites⟩ := h.countP_setPhase hthread phase'
  have hreads' : phase'.reads = phase.reads := by rw [Phase.reads, Phase.reads, hcall]
  have hwrites' : phase'.writes = phase.writes := by rw [Phase.writes, Phase.writes, hcall]
  rw [hreads'] at hreads
  rw [hwrites'] at hwrites
  exact ⟨Nat.add_right_cancel hreads, Nat.add_right_cancel hwrites⟩

theorem readers_pos (h : shared.Guarded) (hthread : shared.threads[thread]? = some phase)
    (hreads : phase.reads = true) : 0 < shared.lock.readersIn := by
  rw [← h.reads]
  exact List.countP_pos_iff.mpr ⟨phase, List.mem_of_getElem? hthread, hreads⟩

theorem writers_pos (h : shared.Guarded) (hthread : shared.threads[thread]? = some phase)
    (hwrites : phase.writes = true) : 0 < shared.lock.writersIn := by
  rw [← h.writes]
  exact List.countP_pos_iff.mpr ⟨phase, List.mem_of_getElem? hthread, hwrites⟩

/-- No reader is in together with a writer. -/
theorem not_writes (h : shared.Guarded) (hthread : shared.threads[thread]? = some phase)
    (hreads : phase.reads = true) (hother : shared.threads[other]? = some phase') :
    phase'.writes = false := by
  have hreaders := h.readers_pos hthread hreads
  by_contra hwrites
  have hwriters := h.writers_pos hother (by simpa using hwrites)
  cases hlock : shared.lock with
  | readers count => simp [hlock, Lock.writersIn] at hwriters
  | writer => simp [hlock, Lock.readersIn] at hreaders

/-- No two writers are in together. -/
theorem writer_unique (h : shared.Guarded) (hthread : shared.threads[thread]? = some phase)
    (hwrites : phase.writes = true) (hother : shared.threads[other]? = some phase')
    (hwrites' : phase'.writes = true) : other = thread := by
  by_contra hne
  have hone : shared.lock.writersIn ≤ 1 := by cases shared.lock <;> simp [Lock.writersIn]
  -- without the one writer, the other would still be counted
  obtain ⟨-, hset⟩ := h.countP_setPhase hthread .idle
  have hstill : (shared.setPhase thread .idle).threads[other]? = some phase' := by
    rw [getElem?_setPhase hthread, if_neg hne, hother]
  have hpos : 0 < (shared.setPhase thread .idle).threads.countP Phase.writes :=
    List.countP_pos_iff.mpr ⟨phase', List.mem_of_getElem? hstill, hwrites'⟩
  rw [hwrites] at hset
  simp only [Phase.writes, Phase.call?, Option.any_none, if_true, Bool.false_eq_true,
    if_false] at hset
  omega

theorem moved (h : shared.Guarded) (hmoved : shared.Moved move next) : next.Guarded := by
  cases hmoved with
  | @enter thread call lock hidle hlock =>
    obtain ⟨hreads, hwrites⟩ := h.countP_setPhase hidle (.entered call)
    cases hcall : call.writes with
    | true =>
      obtain ⟨hold, rfl⟩ := Lock.enter_writer hcall hlock
      simp only [hold, Phase.reads, Phase.writes, Phase.call?, Option.any, hcall] at hreads hwrites
      exact ⟨hreads, hwrites⟩
    | false =>
      obtain ⟨count, hold, rfl⟩ := Lock.enter_reader hcall hlock
      simp only [hold, Phase.reads, Phase.writes, Phase.call?, Option.any, hcall] at hreads hwrites
      exact ⟨hreads, hwrites⟩
  | @first thread call hentered =>
    have hset : (shared.setPhase thread (call.begin shared.table)).Guarded :=
      h.setPhase hentered (call.call?_begin _)
    exact ⟨hset.reads, hset.writes⟩
  | second hparsed => exact h.setPhase hparsed rfl
  | @leave thread call answer hfinished =>
    obtain ⟨hreads, hwrites⟩ := h.countP_setPhase hfinished .idle
    cases hcall : call.writes with
    | true =>
      have hpos := h.writers_pos hfinished (by simpa [Phase.writes, Phase.call?] using hcall)
      cases hold : shared.lock with
      | readers count => simp [hold, Lock.writersIn] at hpos
      | writer =>
        simp only [hold, Phase.reads, Phase.writes, Phase.call?, Option.any, hcall]
          at hreads hwrites
        exact ⟨hreads, Nat.add_right_cancel hwrites⟩
    | false =>
      have hpos := h.readers_pos hfinished (by simpa [Phase.reads, Phase.call?] using hcall)
      cases hold : shared.lock with
      | writer => simp [hold, Lock.readersIn] at hpos
      | readers count =>
        simp only [hold, Phase.reads, Phase.writes, Phase.call?, Option.any, hcall]
          at hreads hwrites
        exact ⟨Nat.eq_sub_of_add_eq hreads, hwrites⟩

end Guarded
end Shared
end InlineTag
