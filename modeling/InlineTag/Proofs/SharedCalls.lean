import Mathlib
import InlineTag.Proofs.Reading
import InlineTag.Proofs.Registrations
import InlineTag.Proofs.SharedLock

/-!
# InlineTag.Proofs.SharedCalls

What the calls of threads that share a table come to, whatever the order of their moves.

* `Shared.Recorded`: the table holds the registrations of all writers that were let in, but for the
  one that a writer still inside has to make.
* `Shared.Snapshot`: a reader that is in works on the table that it found when it was let in.
* `Shared.answer_of_run`: the answer of a call that only reads is the one that this table gives
  when nobody else uses it.
* `Shared.parseAndRender_snapshot`: a source is read and shown with one and the same table.
-/

namespace InlineTag

open Toml

/-! ## What the table holds -/

section Registrations

variable {table : Registry} {moves : List Move}

theorem tableAfter_register (thread : Nat) (type : TagType) :
    tableAfter table (moves ++ [⟨thread, .enter (.register type)⟩]) =
      (tableAfter table moves).register type := by
  simp [tableAfter, registrations]

theorem tableAfter_of_not_register {thread : Nat} {act : Act}
    (h : ∀ type, act ≠ .enter (.register type)) :
    tableAfter table (moves ++ [⟨thread, act⟩]) = tableAfter table moves := by
  have hnone : registrations [⟨thread, act⟩] = [] := by
    rw [registrations, List.filterMap_cons_none, List.filterMap_nil]
    split
    · rename_i type hact
      exact absurd hact (h type)
    · rfl
  rw [registrations] at hnone
  rw [tableAfter, registrations, List.filterMap_append, hnone, List.append_nil]
  rfl

end Registrations

namespace Shared

variable {table : Registry} {moves : List Move} {shared next : Shared} {move : Move}

/-- The thread is in to register the type, and has not done so yet. -/
def Due (shared : Shared) (thread : Nat) (type : TagType) : Prop :=
  shared.threads[thread]? = some (.entered (.register type))

/-- The table holds what the writers that were let in have registered, and one of them may still
have to do so. -/
structure Recorded (table : Registry) (moves : List Move) (shared : Shared) : Prop where
  settled : (∀ thread type, ¬ shared.Due thread type) → shared.table = tableAfter table moves
  due : ∀ thread type, shared.Due thread type →
    shared.table.register type = tableAfter table moves

theorem due_setPhase_iff {thread other : Nat} {type : TagType} {old phase : Phase}
    (hthread : shared.threads[thread]? = some old)
    (hold : ∀ type, old ≠ .entered (.register type))
    (hphase : ∀ type, phase ≠ .entered (.register type)) :
    (shared.setPhase thread phase).Due other type ↔ shared.Due other type := by
  rw [Due, getElem?_setPhase hthread, Due]
  by_cases hother : other = thread
  · rw [if_pos hother, hother, hthread]
    simp [hold type, hphase type]
  · rw [if_neg hother]

theorem Guarded.not_due (h : shared.Guarded) (hlock : shared.lock.writersIn = 0) (thread : Nat)
    (type : TagType) : ¬ shared.Due thread type := by
  intro hdue
  have hpos := h.writers_pos hdue rfl
  omega

namespace Recorded

theorem keep (h : Recorded table moves shared) {thread : Nat} {act : Act}
    (hact : ∀ type, act ≠ .enter (.register type)) (htable : next.table = shared.table)
    (hdue : ∀ other type, next.Due other type ↔ shared.Due other type) :
    Recorded table (moves ++ [⟨thread, act⟩]) next := by
  constructor
  · intro hnone
    rw [tableAfter_of_not_register hact, htable]
    exact h.settled fun other type => mt (hdue other type).mpr (hnone other type)
  · intro other type hother
    rw [tableAfter_of_not_register hact, htable]
    exact h.due other type ((hdue other type).mp hother)

theorem moved (h : Recorded table moves shared) (hguarded : shared.Guarded)
    (hmoved : shared.Moved move next) : Recorded table (moves ++ [move]) next := by
  cases hmoved with
  | @enter thread call lock hidle hlock =>
    cases hcall : call.writes with
    | true =>
      obtain ⟨hold, rfl⟩ := Lock.enter_writer hcall hlock
      have hnone := hguarded.not_due (by rw [hold]; rfl)
      have htable := h.settled hnone
      cases call with
      | register type =>
        constructor
        · intro hnot
          refine absurd ?_ (hnot thread type)
          rw [Due, getElem?_setPhase hidle, if_pos rfl]
        · intro other type' hdue
          rw [tableAfter_register]
          rw [Due, getElem?_setPhase hidle] at hdue
          split at hdue
          · cases hdue
            exact congrArg (·.register type) htable
          · exact absurd hdue (hnone other type')
      | _ => cases hcall
    | false =>
      have hread : ∀ type, call ≠ .register type := by
        rintro type rfl
        cases hcall
      refine h.keep (by simpa using hread) rfl fun other type => ?_
      exact due_setPhase_iff hidle (by simp) (by simpa using hread)
  | @first thread call hentered =>
    cases call with
    | register type =>
      have hnone : ∀ other type', ¬ (shared.setPhase thread (.finished (.register type)
          .registered)).Due other type' := by
        intro other type' hdue
        rw [Due, getElem?_setPhase hentered] at hdue
        split at hdue
        · cases hdue
        · rename_i hother
          exact hother (hguarded.writer_unique hentered rfl hdue rfl)
      constructor
      · intro _
        rw [tableAfter_of_not_register (by simp)]
        exact h.due thread type hentered
      · intro other type' hdue
        exact absurd hdue (hnone other type')
    | _ =>
      refine h.keep (by simp) rfl fun other type => ?_
      exact due_setPhase_iff hentered (by simp) fun type' => Call.begin_ne_entered _ _ _
  | second hparsed =>
    exact h.keep (by simp) rfl fun other type => due_setPhase_iff hparsed (by simp) (by simp)
  | leave hfinished =>
    exact h.keep (by simp) rfl fun other type => due_setPhase_iff hfinished (by simp) (by simp)

end Recorded
end Shared

/-! ## What a reader works on -/

/-- The phases of a call that works on one table from beginning to end. -/
inductive Follows (table : Registry) (call : Call) : Phase → Prop where
  | entered : Follows table call (.entered call)
  | parsed {raw : String} {data options : Bag} {tag : Tag}
      (hcall : call = .parseAndRender raw data options)
      (hparse : table.parse raw data options = .ok tag) :
      Follows table call (.parsed raw data options tag)
  | finished : Follows table call (.finished call (call.answer table))

theorem follows_begin (table : Registry) (call : Call) : Follows table call (call.begin table) := by
  cases call with
  | parseAndRender raw data options =>
    rw [Call.begin]
    cases hparse : table.parse raw data options with
    | error fault =>
      have hanswer : Call.answer (.parseAndRender raw data options) table =
          .text (.error fault) := by
        rw [Call.answer, Registry.parseAndRender, hparse]
      dsimp only
      rw [← hanswer]
      exact .finished
    | ok tag => exact .parsed rfl hparse
  | _ => exact .finished

theorem Follows.second {table : Registry} {call : Call} {raw : String} {data options : Bag}
    {tag : Tag} (h : Follows table call (.parsed raw data options tag)) :
    Follows table call
      (.finished (.parseAndRender raw data options) (.text (table.render tag))) := by
  cases h with
  | parsed hcall hparse =>
    have hanswer : call.answer table = .text (table.render tag) := by
      rw [hcall, Call.answer, Registry.parseAndRender, hparse]
    rw [← hcall, ← hanswer]
    exact .finished

namespace Shared

variable {table : Registry} {moves : List Move} {shared next : Shared} {move : Move}

/-- While a reader is in, nothing is registered. -/
theorem Guarded.table_eq (h : shared.Guarded) {thread : Nat} {phase : Phase}
    (hthread : shared.threads[thread]? = some phase) (hreads : phase.reads = true)
    (hmoved : shared.Moved move next) : next.table = shared.table := by
  cases hmoved with
  | @first other call hentered =>
    refine Call.change_of_reads ?_ shared.table
    simpa [Phase.writes, Phase.call?] using h.not_writes hthread hreads hentered
  | _ => rfl

/-- A thread that is in a call was let in at some move and has not left since. If the call is a
reader's, the table is still the one that it found then. -/
structure Snapshot (table : Registry) (moves : List Move) (shared : Shared) (thread : Nat)
    (phase : Phase) (call : Call) (before during : List Move) : Prop where
  moves_eq : moves = before ++ ⟨thread, .enter call⟩ :: during
  own : ∀ move ∈ during, move.thread = thread → move.act = .work
  table_eq : call.writes = false → shared.table = tableAfter table before
  follows : call.writes = false → Follows (tableAfter table before) call phase

namespace Snapshot

variable {thread : Nat} {phase phase' : Phase} {call : Call} {before during : List Move}

/-- One more move, after which the call is at the given phase. -/
theorem moved (h : Snapshot table moves shared thread phase call before during)
    (hguarded : shared.Guarded) (hthread : shared.threads[thread]? = some phase)
    (hcall : phase.call? = some call) (hmoved : shared.Moved move next)
    (hown : move.thread = thread → move.act = .work)
    (hfollows : call.writes = false → Follows (tableAfter table before) call phase') :
    Snapshot table (moves ++ [move]) next thread phase' call before (during ++ [move]) where
  moves_eq := by simp [h.moves_eq]
  own := by
    intro other hother
    rcases List.mem_append.mp hother with hother | hother
    · exact h.own other hother
    · rw [List.mem_singleton.mp hother]
      exact hown
  table_eq := by
    intro hread
    rw [hguarded.table_eq hthread (by simp [Phase.reads, hcall, hread]) hmoved]
    exact h.table_eq hread
  follows := hfollows

end Snapshot

/-- What holds in every state of a run that begins with the table. -/
structure Consistent (table : Registry) (moves : List Move) (shared : Shared) : Prop where
  guarded : shared.Guarded
  recorded : Recorded table moves shared
  snapshot : ∀ thread phase call, shared.threads[thread]? = some phase → phase.call? = some call →
    ∃ before during, Snapshot table moves shared thread phase call before during

theorem consistent_start (table : Registry) (threads : Nat) :
    Consistent table [] (start table threads) := by
  have hidle (thread : Nat) (phase : Phase)
      (h : (start table threads).threads[thread]? = some phase) : phase = Phase.idle :=
    List.eq_of_mem_replicate (List.mem_of_getElem? h)
  refine ⟨guarded_start table threads, ⟨fun _ => rfl, ?_⟩, ?_⟩
  · intro thread type hdue
    cases hidle _ _ hdue
  · intro thread phase call hthread hcall
    rw [hidle _ _ hthread] at hcall
    cases hcall

namespace Consistent

/-- A reader finds what the writers that were let in before it have registered. -/
theorem table_eq (h : Consistent table moves shared) {call : Call} {lock : Lock}
    (hread : call.writes = false) (hlock : shared.lock.enter call = some lock) :
    shared.table = tableAfter table moves := by
  obtain ⟨count, hold, -⟩ := Lock.enter_reader hread hlock
  exact h.recorded.settled (h.guarded.not_due (by rw [hold]; rfl))

theorem moved (h : Consistent table moves shared) (hmoved : shared.Moved move next) :
    Consistent table (moves ++ [move]) next := by
  refine ⟨h.guarded.moved hmoved, h.recorded.moved h.guarded hmoved, ?_⟩
  intro thread phase call hthread hcall
  by_cases hne : thread = move.thread
  · have hself : ∀ {old new}, shared.threads[thread]? = some old →
        (shared.setPhase thread new).threads[thread]? = some phase → phase = new := by
      intro old new hold hnew
      rw [getElem?_setPhase hold, if_pos rfl] at hnew
      exact (Option.some.inj hnew).symm
    subst hne
    have hmove := hmoved
    cases hmoved with
    | @enter thread call' lock hidle hlock =>
      have hphase := hself hidle hthread
      rw [hphase] at hcall ⊢
      cases hcall
      refine ⟨moves, [], rfl, by simp, ?_, fun _ => .entered⟩
      intro hread
      exact h.table_eq hread hlock
    | @first thread call' hentered =>
      have hphase := hself hentered hthread
      rw [hphase, Call.call?_begin] at hcall
      cases hcall
      obtain ⟨before, during, hsnapshot⟩ := h.snapshot thread _ call hentered rfl
      refine ⟨before, during ++ [⟨thread, .work⟩], ?_⟩
      refine hsnapshot.moved h.guarded hentered rfl hmove (fun _ => rfl) fun hread => ?_
      rw [hphase, ← hsnapshot.table_eq hread]
      exact follows_begin _ _
    | @second thread raw data options tag hparsed =>
      have hphase := hself hparsed hthread
      rw [hphase] at hcall
      cases hcall
      obtain ⟨before, during, hsnapshot⟩ := h.snapshot thread _ _ hparsed rfl
      refine ⟨before, during ++ [⟨thread, .work⟩], ?_⟩
      refine hsnapshot.moved h.guarded hparsed rfl hmove (fun _ => rfl) fun hread => ?_
      rw [hphase, hsnapshot.table_eq hread]
      exact (hsnapshot.follows hread).second
    | leave hfinished =>
      rw [hself hfinished hthread] at hcall
      cases hcall
  · rw [hmoved.threads_of_ne hne] at hthread
    obtain ⟨before, during, hsnapshot⟩ := h.snapshot thread phase call hthread hcall
    refine ⟨before, during ++ [move], ?_⟩
    exact hsnapshot.moved h.guarded hthread hcall hmoved (fun heq => absurd heq.symm hne)
      hsnapshot.follows

theorem of_run {threads : Nat} (hrun : (start table threads).run moves = some shared) :
    Consistent table moves shared :=
  run_induction (Consistent table) (consistent_start table threads)
    (fun _ _ _ _ h hmoved => h.moved hmoved) hrun

end Consistent
end Shared

/-! ## What a table answers -/

theorem TagType.hasAttribute_of_read {type : TagType} {name key content : String}
    {text : List Char} {data options : Bag}
    (h : (type.read name text data options).get? key = some content) :
    type.hasAttribute key = true := by
  obtain ⟨i, stop, hmark, -⟩ := get?_read_eq_some_iff.mp h
  have hdeclared := hmark.declared
  rwa [declares, String.ofList_toList] at hdeclared

namespace Registry

variable {registry : Registry} {raw text : String} {data options : Bag}

/-- A text that is shown comes from the handler of the type that read the tag. -/
theorem parseAndRender_eq_ok (h : registry.parseAndRender raw data options = .ok text) :
    ∃ type handler, registry.lookup (sourceType raw) = some type ∧ type.handler = some handler ∧
      text = handler (type.read (sourceType raw) (sourceRest raw) data options) := by
  rw [parseAndRender] at h
  split at h
  · cases h
  · rename_i tag hparse
    obtain ⟨type, hlookup, rfl⟩ := parse_eq_ok_iff.mp hparse
    rw [render, handler?, TagType.type_read, hlookup, Option.bind_some] at h
    cases hhandler : type.handler with
    | none =>
      rw [hhandler] at h
      cases h
    | some handler =>
      rw [hhandler] at h
      cases h
      exact ⟨type, handler, hlookup, hhandler, rfl⟩

theorem parseAndRender_ne_undefined (h : registry.contains (sourceType raw) = true)
    (name : String) :
    registry.parseAndRender raw data options ≠ .error (.undefinedType name) := by
  obtain ⟨type, hlookup⟩ := Option.isSome_iff_exists.mp h
  rw [parseAndRender, parse_of_lookup_some hlookup]
  dsimp only
  rw [render]
  cases registry.handler? _ <;> simp

end Registry

namespace Shared

variable {table : Registry} {threads thread : Nat} {moves : List Move} {shared : Shared}
  {call : Call} {answer : Answer}

/-- The thread leaves a call with the answer at one of the moves. -/
def Returns (shared : Shared) (moves : List Move) (thread : Nat) (call : Call)
    (answer : Answer) : Prop :=
  ∃ before after state, moves = before ++ ⟨thread, .leave⟩ :: after ∧
    shared.run before = some state ∧ state.threads[thread]? = some (.finished call answer)

theorem Returns.mem_registrations {type : TagType}
    (h : (start table threads).Returns moves thread (.register type) answer) :
    type ∈ registrations moves := by
  obtain ⟨front, back, state, rfl, hrun, hfinished⟩ := h
  obtain ⟨before, during, hsnapshot⟩ :=
    (Consistent.of_run hrun).snapshot thread _ _ hfinished rfl
  refine List.mem_filterMap.mpr ⟨⟨thread, .enter (.register type)⟩, ?_, rfl⟩
  simp [hsnapshot.moves_eq]

theorem answer_of_run (hrun : (start table threads).run moves = some shared)
    (hread : call.writes = false)
    (hfinished : shared.threads[thread]? = some (.finished call answer)) :
    ∃ before during, moves = before ++ ⟨thread, .enter call⟩ :: during ∧
      (∀ move ∈ during, move.thread = thread → move.act = .work) ∧
      answer = call.answer (tableAfter table before) := by
  obtain ⟨before, during, hsnapshot⟩ :=
    (Consistent.of_run hrun).snapshot thread _ _ hfinished rfl
  refine ⟨before, during, hsnapshot.moves_eq, hsnapshot.own, ?_⟩
  have hfollows := hsnapshot.follows hread
  cases hfollows with
  | finished => rfl

/-- A call that reads and shows a source does both with one table: the one with the registrations
of the writers that were let in before it. So the handler that shows the tag is that of the type
that read it, and a type whose registration has returned is not unknown to it. -/
theorem parseAndRender_snapshot (hrun : (start table threads).run moves = some shared)
    {raw : String} {data options : Bag}
    (hfinished : shared.threads[thread]? =
      some (.finished (.parseAndRender raw data options) answer)) :
    ∃ before during,
      moves = before ++ ⟨thread, .enter (.parseAndRender raw data options)⟩ :: during ∧
      (∀ move ∈ during, move.thread = thread → move.act = .work) ∧
      answer = .text ((tableAfter table before).parseAndRender raw data options) ∧
      (∀ text, answer = .text (.ok text) → ∃ type handler tag,
        (tableAfter table before).lookup (sourceType raw) = some type ∧
        type.handler = some handler ∧
        tag = type.read (sourceType raw) (sourceRest raw) data options ∧ text = handler tag ∧
        ∀ name shown, tag.get? name = some shown → type.hasAttribute name = true) ∧
      (∀ writer type done, (start table threads).Returns before writer (.register type) done →
        type.name = sourceType raw →
          answer ≠ .text (.error (.undefinedType (sourceType raw)))) := by
  obtain ⟨before, during, hmoves, hown, hanswer⟩ := answer_of_run hrun rfl hfinished
  refine ⟨before, during, hmoves, hown, hanswer, ?_, ?_⟩
  · rintro text rfl
    have htext := (Answer.text.inj hanswer).symm
    obtain ⟨type, handler, hlookup, hhandler, rfl⟩ := Registry.parseAndRender_eq_ok htext
    exact ⟨type, handler, _, hlookup, hhandler, rfl, rfl, fun _ _ => TagType.hasAttribute_of_read⟩
  · rintro writer type done hreturns hname rfl
    have hcontains : (tableAfter table before).contains (sourceType raw) = true :=
      Registry.contains_foldl_register (.inr ⟨type, hreturns.mem_registrations, hname⟩)
    exact Registry.parseAndRender_ne_undefined hcontains _ (Answer.text.inj hanswer).symm

/-- A type is registered anew with another attribute and another handler, and a source is then read
and shown while a further thread is in. -/
theorem parseAndRender_snapshot_renewed :
    ∃ (moves : List Move) (shared : Shared), (start Registry.empty 2).run moves = some shared ∧
      shared.threads[1]? = some (.finished (.parseAndRender "t: x a: y" NameMap.empty NameMap.empty)
        (.text (.ok "a=<y>;"))) ∧
      ∃ before during, moves = before ++
          ⟨1, .enter (.parseAndRender "t: x a: y" NameMap.empty NameMap.empty)⟩ :: during ∧
        Answer.text (.ok "a=<y>;") = .text ((tableAfter Registry.empty before).parseAndRender
          "t: x a: y" NameMap.empty NameMap.empty) := by
  let early := TagType.declare "t" [] (some Handler.echo)
  let late := TagType.declare "t" ["a"] (some Handler.attributes)
  let call := Call.parseAndRender "t: x a: y" NameMap.empty NameMap.empty
  let moves : List Move :=
    [⟨0, .enter (.register early)⟩, ⟨0, .work⟩, ⟨0, .leave⟩,
      ⟨1, .enter (.register late)⟩, ⟨1, .work⟩, ⟨1, .leave⟩,
      ⟨1, .enter call⟩, ⟨0, .enter (.contains "t")⟩, ⟨1, .work⟩, ⟨0, .work⟩, ⟨1, .work⟩]
  let shared : Shared :=
    ⟨Registry.empty.register late, .readers 2,
      [.finished (.contains "t") (.known true), .finished call (.text (.ok "a=<y>;"))]⟩
  have hrun : (start Registry.empty 2).run moves = some shared := by cbv
  have hfinished : shared.threads[1]? = some (.finished call (.text (.ok "a=<y>;"))) := by rfl
  obtain ⟨before, during, hmoves, -, hanswer, -⟩ := parseAndRender_snapshot hrun hfinished
  exact ⟨moves, shared, hrun, hfinished, before, during, hmoves, hanswer⟩

end Shared
end InlineTag
