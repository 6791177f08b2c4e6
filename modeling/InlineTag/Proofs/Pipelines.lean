import Mathlib
import InlineTag.Service
import InlineTag.Proofs.SharedCalls

/-!
# InlineTag.Proofs.Pipelines

The ways to read a source and show its tag: a service over a table, one call on a shared table, or
two calls, one that reads and one that shows. They come to the same, and of the table they need only
the type that the source names.

* `Registry.parse_congr`, `Registry.render_congr`: what reading and showing depend on.
* `Shared.exists_run_of_calls`: calls can be made one after the other, whatever they are.
* `Agreement`: the tag and the outcome that all the ways have in common.
-/

namespace InlineTag

open Toml

/-! ## What reading and showing depend on -/

namespace Registry

variable {registry table : Registry} {raw name : String} {data options : Bag} {tag : Tag}
  {fault : TagFault}

theorem not_contains_iff : registry.contains name = false ↔ registry.lookup name = none :=
  Option.isSome_eq_false_iff.trans Option.isNone_iff_eq_none

theorem parse_congr (h : table.lookup (sourceType raw) = registry.lookup (sourceType raw)) :
    table.parse raw data options = registry.parse raw data options := by
  rw [parse, parse, h]

theorem render_congr (h : table.lookup tag.type = registry.lookup tag.type) :
    table.render tag = registry.render tag := by
  rw [render, render, handler?, handler?, h]

theorem type_of_parse (h : registry.parse raw data options = .ok tag) :
    tag.type = sourceType raw := by
  obtain ⟨type, -, rfl⟩ := parse_eq_ok_iff.mp h
  exact TagType.type_read _ _ _ _ _

theorem parseAndRender_of_error (h : registry.parse raw data options = .error fault) :
    registry.parseAndRender raw data options = .error fault := by
  rw [parseAndRender, h]

theorem parseAndRender_of_ok (h : registry.parse raw data options = .ok tag) :
    registry.parseAndRender raw data options = registry.render tag := by
  rw [parseAndRender, h]

theorem parseAndRender_congr
    (h : table.lookup (sourceType raw) = registry.lookup (sourceType raw)) :
    table.parseAndRender raw data options = registry.parseAndRender raw data options := by
  have hparse : table.parse raw data options = registry.parse raw data options := parse_congr h
  cases hparsed : registry.parse raw data options with
  | error fault =>
    rw [parseAndRender_of_error hparsed, parseAndRender_of_error (hparse.trans hparsed)]
  | ok tag =>
    rw [parseAndRender_of_ok hparsed, parseAndRender_of_ok (hparse.trans hparsed)]
    exact render_congr (by rwa [type_of_parse hparsed])

/-- Reading and showing give a text, or say that the type is unknown, or that it has no handler. -/
theorem parseAndRender_eq (registry : Registry) (raw : String) (data options : Bag) :
    registry.parseAndRender raw data options =
      match registry.lookup (sourceType raw) with
      | none => .error (.undefinedType (sourceType raw))
      | some type =>
        match type.handler with
        | none => .error (.noHandler (sourceType raw))
        | some handler =>
          .ok (handler (type.read (sourceType raw) (sourceRest raw) data options)) := by
  cases hlookup : registry.lookup (sourceType raw) with
  | none => exact parseAndRender_of_error (parse_of_lookup_none hlookup data options)
  | some type =>
    have hshown := parseAndRender_of_ok (parse_of_lookup_some hlookup data options)
    cases hhandler : type.handler <;>
      simp only [hshown, render, handler?, TagType.type_read, hlookup, Option.bind_some, hhandler]

theorem parseAndRender_eq_undefinedType_iff :
    registry.parseAndRender raw data options = .error (.undefinedType name) ↔
      name = sourceType raw ∧ registry.lookup (sourceType raw) = none := by
  rw [parseAndRender_eq]
  constructor
  · intro h
    split at h
    · rename_i hnone
      cases h
      exact ⟨rfl, hnone⟩
    · split at h <;> cases h
  · rintro ⟨rfl, hnone⟩
    rw [hnone]

theorem parseAndRender_eq_noHandler_iff :
    registry.parseAndRender raw data options = .error (.noHandler name) ↔
      name = sourceType raw ∧
        ∃ type, registry.lookup (sourceType raw) = some type ∧ type.handler = none := by
  rw [parseAndRender_eq]
  constructor
  · intro h
    split at h
    · cases h
    · rename_i type hsome
      split at h
      · rename_i hnone
        cases h
        exact ⟨rfl, type, hsome, hnone⟩
      · cases h
  · rintro ⟨rfl, type, hsome, hnone⟩
    simp only [hsome, hnone]

end Registry

theorem Service.render_eq (service : Service) (raw : String) (data : Bag) :
    service.render raw data =
      (service.registry.parseAndRender raw data service.options).mapError .tag := by
  rw [render]
  cases hparsed : service.registry.parse raw data service.options with
  | error fault => rw [Registry.parseAndRender_of_error hparsed]; rfl
  | ok tag => rw [Registry.parseAndRender_of_ok hparsed]; rfl

/-! ## Calls on a shared table -/

/-- The calls that are let in by the moves of a list. -/
def callsOf (moves : List Move) : List Call :=
  moves.filterMap fun move =>
    match move.act with
    | .enter call => some call
    | _ => none

theorem callsOf_append (front back : List Move) :
    callsOf (front ++ back) = callsOf front ++ callsOf back :=
  List.filterMap_append

theorem register_mem_callsOf {moves : List Move} {type : TagType}
    (h : type ∈ registrations moves) : .register type ∈ callsOf moves := by
  obtain ⟨⟨thread, act⟩, hmem, hact⟩ := List.mem_filterMap.mp h
  refine List.mem_filterMap.mpr ⟨_, hmem, ?_⟩
  cases act with
  | enter call =>
    cases call with
    | register other =>
      cases hact
      rfl
    | _ => cases hact
  | _ => cases hact

namespace Shared

variable {table : Registry} {threads thread : Nat} {moves : List Move} {call : Call}
  {answer : Answer} {name : String}

theorem Returns.of_front {shared : Shared} {front back : List Move}
    (h : shared.Returns front thread call answer) :
    shared.Returns (front ++ back) thread call answer := by
  obtain ⟨before, after, state, rfl, hrun, hfinished⟩ := h
  exact ⟨before, after ++ back, state, by simp, hrun, hfinished⟩

theorem Returns.of_back {shared next : Shared} {front back : List Move}
    (hrun : shared.run front = some next) (h : next.Returns back thread call answer) :
    shared.Returns (front ++ back) thread call answer := by
  obtain ⟨before, after, state, rfl, hbefore, hfinished⟩ := h
  refine ⟨front ++ before, after, state, by simp, ?_, hfinished⟩
  rw [run_append, hrun, Option.bind_some, hbefore]

/-- What a call that only reads returns is the answer of a table that differs from the first one
only in names that were registered meanwhile. -/
theorem Returns.exists_table (h : (start table threads).Returns moves thread call answer)
    (hread : call.writes = false)
    (hothers : ∀ type, .register type ∈ callsOf moves → type.name ≠ name) :
    ∃ later, later.lookup name = table.lookup name ∧ answer = call.answer later := by
  obtain ⟨front, back, state, rfl, hrun, hfinished⟩ := h
  obtain ⟨before, during, rfl, -, hanswer⟩ := answer_of_run hrun hread hfinished
  refine ⟨_, Registry.lookup_foldl_register_of_ne fun type htype => ?_, hanswer⟩
  refine hothers type ?_
  rw [callsOf_append, callsOf_append, List.append_assoc]
  exact List.mem_append_left _ (register_mem_callsOf htype)

/-- One thread is in the given phase, and the others are idle. -/
def alone (table : Registry) (lock : Lock) (threads thread : Nat) (phase : Phase) : Shared :=
  ⟨table, lock, (List.replicate threads .idle).set thread phase⟩

section Alone

variable {lock next : Lock} {phase : Phase}

theorem start_eq_alone (table : Registry) (threads thread : Nat) :
    start table threads = alone table (.readers 0) threads thread .idle := by
  rw [start, alone, List.set_replicate_self]

theorem getElem?_alone (hthread : thread < threads) :
    (alone table lock threads thread phase).threads[thread]? = some phase := by
  rw [alone, List.getElem?_set_self (by simpa using hthread)]

theorem setPhase_alone (later : Phase) :
    (alone table lock threads thread phase).setPhase thread later =
      alone table lock threads thread later := by
  rw [setPhase, alone, alone, List.set_set]

theorem run_enter_alone (hthread : thread < threads) (hlock : lock.enter call = some next)
    (rest : List Move) :
    (alone table lock threads thread .idle).run (⟨thread, .enter call⟩ :: rest) =
      (alone table next threads thread (.entered call)).run rest := by
  rw [run, step_eq_some_iff.mpr (.enter (getElem?_alone hthread) hlock), setPhase_alone]
  rfl

theorem run_first_alone (hthread : thread < threads) (rest : List Move) :
    (alone table lock threads thread (.entered call)).run (⟨thread, .work⟩ :: rest) =
      (alone (call.change table) lock threads thread (call.begin table)).run rest := by
  rw [run, step_eq_some_iff.mpr (.first (getElem?_alone hthread)), setPhase_alone]
  rfl

theorem run_second_alone (hthread : thread < threads) {raw : String} {data options : Bag}
    {tag : Tag} (rest : List Move) :
    (alone table lock threads thread (.parsed raw data options tag)).run
        (⟨thread, .work⟩ :: rest) =
      (alone table lock threads thread (.finished (.parseAndRender raw data options)
        (.text (table.render tag)))).run rest := by
  rw [run, step_eq_some_iff.mpr (.second (getElem?_alone hthread)), setPhase_alone]
  rfl

theorem run_leave_alone (hthread : thread < threads) (rest : List Move) :
    (alone table lock threads thread (.finished call answer)).run (⟨thread, .leave⟩ :: rest) =
      (alone table lock.leave threads thread .idle).run rest := by
  rw [run, step_eq_some_iff.mpr (.leave (getElem?_alone hthread)), setPhase_alone]
  rfl

end Alone

/-- What a call does once it is let in, while nobody else is. -/
theorem exists_run_entered (table : Registry) (lock : Lock) (hthread : thread < threads)
    (call : Call) : ∃ moves, callsOf moves = [] ∧
      (alone table lock threads thread (.entered call)).run moves =
        some (alone (call.change table) lock threads thread
          (.finished call (call.answer table))) := by
  have hfirst (rest : List Move) :
      (alone table lock threads thread (.entered call)).run (⟨thread, .work⟩ :: rest) =
        (alone (call.change table) lock threads thread (call.begin table)).run rest :=
    run_first_alone hthread rest
  have hfollows := follows_begin table call
  cases hbegin : call.begin table with
  | idle =>
    rw [hbegin] at hfollows
    cases hfollows
  | entered other => exact absurd hbegin (Call.begin_ne_entered _ _ _)
  | finished other answer =>
    rw [hbegin] at hfollows
    cases hfollows
    refine ⟨[⟨thread, .work⟩], rfl, ?_⟩
    rw [hfirst, hbegin]
    rfl
  | parsed raw data options tag =>
    rw [hbegin] at hfollows
    cases hfollows with
    | parsed hcall hparse =>
      subst hcall
      refine ⟨[⟨thread, .work⟩, ⟨thread, .work⟩], rfl, ?_⟩
      rw [hfirst, hbegin, run_second_alone hthread, Call.change_of_reads rfl, Call.answer,
        Registry.parseAndRender_of_ok hparse]
      rfl

/-- A call can be made from beginning to end while nobody else is in. -/
theorem exists_run_of_call (table : Registry) (hthread : thread < threads) (call : Call) :
    ∃ moves, (start table threads).run moves = some (start (call.change table) threads) ∧
      callsOf moves = [call] ∧
      (start table threads).Returns moves thread call (call.answer table) := by
  obtain ⟨lock, henter, hleave⟩ : ∃ lock, (Lock.readers 0).enter call = some lock ∧
      lock.leave = .readers 0 := by
    cases hwrites : call.writes with
    | true => exact ⟨.writer, by simp [Lock.enter, hwrites], rfl⟩
    | false => exact ⟨.readers 1, by simp [Lock.enter, hwrites], rfl⟩
  obtain ⟨work, hcalls, hwork⟩ := exists_run_entered table lock hthread call
  have hfinished : (start table threads).run (⟨thread, .enter call⟩ :: work) =
      some (alone (call.change table) lock threads thread
        (.finished call (call.answer table))) := by
    rw [start_eq_alone table threads thread, run_enter_alone hthread henter, hwork]
  refine ⟨⟨thread, .enter call⟩ :: work ++ [⟨thread, .leave⟩], ?_, ?_, ?_⟩
  · rw [run_append, hfinished, Option.bind_some, run_leave_alone hthread, hleave, run,
      ← start_eq_alone]
  · have hcons : callsOf (⟨thread, .enter call⟩ :: work) = call :: callsOf work := rfl
    rw [callsOf_append, hcons, hcalls]
    rfl
  · exact ⟨_, [], _, rfl, hfinished, getElem?_alone hthread⟩

/-- Any calls can be made one after the other, and each of them returns. -/
theorem exists_run_of_calls (table : Registry) (hthread : thread < threads) (calls : List Call) :
    ∃ moves shared, (start table threads).run moves = some shared ∧ callsOf moves = calls ∧
      ∀ call ∈ calls, ∃ answer, (start table threads).Returns moves thread call answer := by
  induction calls generalizing table with
  | nil => exact ⟨[], _, rfl, rfl, by simp⟩
  | cons call calls ih =>
    obtain ⟨front, hfront, hcall, hreturns⟩ := exists_run_of_call table hthread call
    obtain ⟨back, shared, hback, hcalls, hrest⟩ := ih (call.change table)
    refine ⟨front ++ back, shared, ?_, ?_, ?_⟩
    · rw [run_append, hfront, Option.bind_some, hback]
    · rw [callsOf_append, hcall, hcalls, List.singleton_append]
    · intro other hother
      rcases List.mem_cons.mp hother with rfl | hother
      · exact ⟨_, hreturns.of_front⟩
      · obtain ⟨answer, hanswer⟩ := hrest other hother
        exact ⟨answer, hanswer.of_back hfront⟩

end Shared

/-! ## All ways agree -/

open Shared

/-- What reading a source whose type has the name and showing its tag come to, whichever way it is
done and whatever types of other names are registered meanwhile. -/
structure Agreement (registry : Registry) (raw : String) (data options : Bag) (name : String)
    (parsed : Except TagFault Tag) (outcome : Except TagFault String) : Prop where
  undefinedType_iff : ∀ type, outcome = .error (.undefinedType type) ↔
    type = name ∧ registry.contains name = false
  noHandler_iff : ∀ type, outcome = .error (.noHandler type) ↔
    type = name ∧ ∃ found, registry.lookup name = some found ∧ found.handler = none
  outcome_of_error : ∀ fault, parsed = .error fault → outcome = .error fault
  /-- Of a table that is not shared only the type of the name matters. -/
  plain : ∀ table : Registry, table.lookup name = registry.lookup name →
    table.parse raw data options = parsed ∧
    (∀ tag, parsed = .ok tag → table.render tag = outcome) ∧
    (Service.mk table options).render raw data = outcome.mapError .tag
  lookup_others : ∀ types : List TagType, (∀ type ∈ types, type.name ≠ name) →
    (types.foldl Registry.register registry).lookup name = registry.lookup name
  /-- What the calls of threads return, as long as only types of other names are registered. -/
  shared : ∀ threads moves thread call answer,
    (start registry threads).Returns moves thread call answer →
    (∀ type, Call.register type ∈ callsOf moves → type.name ≠ name) →
    (call = .parse raw data options → answer = .tag parsed) ∧
    (∀ tag, parsed = .ok tag → call = .render tag → answer = .text outcome) ∧
    (call = .parseAndRender raw data options → answer = .text outcome)
  /-- Every list of calls can be made, one after the other. -/
  possible : ∀ threads thread calls, thread < threads →
    ∃ moves later, (start registry threads).run moves = some later ∧ callsOf moves = calls ∧
      ∀ call ∈ calls, ∃ answer, (start registry threads).Returns moves thread call answer
  /-- Types of different names can be registered in any order. -/
  order : ∀ types others : List TagType, types.Perm others → (types.map TagType.name).Nodup →
    types.foldl Registry.register registry = others.foldl Registry.register registry

theorem agreement_sourceType (registry : Registry) (raw : String) (data options : Bag) :
    Agreement registry raw data options (sourceType raw) (registry.parse raw data options)
      (registry.parseAndRender raw data options) where
  undefinedType_iff type := by
    rw [Registry.not_contains_iff]
    exact Registry.parseAndRender_eq_undefinedType_iff
  noHandler_iff _ := Registry.parseAndRender_eq_noHandler_iff
  outcome_of_error _ := Registry.parseAndRender_of_error
  plain table h := by
    refine ⟨Registry.parse_congr h, ?_, ?_⟩
    · intro tag hparsed
      rw [← Registry.parseAndRender_congr h]
      exact (Registry.parseAndRender_of_ok ((Registry.parse_congr h).trans hparsed)).symm
    · rw [Service.render_eq, Registry.parseAndRender_congr h]
  lookup_others _ := Registry.lookup_foldl_register_of_ne
  shared := by
    intro threads moves thread call answer hreturns hothers
    refine ⟨?_, ?_, ?_⟩
    · rintro rfl
      obtain ⟨later, hlater, rfl⟩ := hreturns.exists_table rfl hothers
      exact congrArg Answer.tag (Registry.parse_congr hlater)
    · rintro tag hparsed rfl
      obtain ⟨later, hlater, rfl⟩ := hreturns.exists_table rfl hothers
      rw [← Registry.type_of_parse hparsed] at hlater
      rw [Registry.parseAndRender_of_ok hparsed]
      exact congrArg Answer.text (Registry.render_congr hlater)
    · rintro rfl
      obtain ⟨later, hlater, rfl⟩ := hreturns.exists_table rfl hothers
      exact congrArg Answer.text (Registry.parseAndRender_congr hlater)
  possible threads thread calls hthread := exists_run_of_calls registry hthread calls
  order _ _ := Registry.foldl_register_perm registry

/-- A service, one call on a shared table, and two calls on it give one text or one fault. They
depend on the type that the source names and on no other. -/
theorem pipelines_agree (registry : Registry) (raw : String) (data options : Bag) :
    ∃ name text parsed outcome, Splits raw name text ∧
      Agreement registry raw data options name parsed outcome :=
  ⟨_, _, _, _, splits_iff.mpr ⟨rfl, rfl⟩, agreement_sourceType registry raw data options⟩

end InlineTag
