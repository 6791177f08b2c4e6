import Mathlib
import InlineTag.Program
import InlineTag.Proofs.Trimming
import InlineTag.Proofs.VerboseOption
import InlineTag.Proofs.WholeTexts

/-!
# InlineTag.Proofs.LogLevels

What goes into the log when its settings name a level, for everything or for this program. Texts
that are torn are kept out: of their reading nothing is promised.

* `Asks`: the threshold that such settings ask for.
* `Setting`: what the variable for the log may hold, and `Asks.whole`: all that asks for a threshold
  is among it.
* `Asks.admits_filter`: the filter that is made of them lets through what the threshold does.
* `Asks.lines_sublist`: with a lower threshold no line is lost and the lines keep their order.
* `Program.run_of_logging`: a run shows the same whatever is logged, but for the log.
-/

namespace InlineTag

open Files Text

/-- The rank from which on events are logged; none has the rank of nothing at all. -/
def Threshold.rank : Threshold → Nat
  | none => 5
  | some level => level.rank

theorem Threshold.admits_iff {threshold : Threshold} {event : Event} :
    threshold.admits event = true ↔ threshold.rank ≤ event.level.rank := by
  cases threshold with
  | none =>
    have hlow : event.level.rank < 5 := by cases event.level <;> decide
    simp [admits, rank, hlow]
  | some level => simp [admits, rank]

namespace Log

/-- The threshold that the settings of a log ask for: the text of the filter is missing, a level by
name or number, or a level for this program. A level at the front of a text has no sign. -/
inductive Asks : Option String → Bool → Threshold → Prop where
  | unset (verbose : Bool) : Asks none verbose (some (if verbose then .debug else .warn))
  | level {text : String} {threshold : Threshold} (verbose : Bool)
      (hlevel : threshold? text.toList = some threshold) (hsign : text.toList.head? ≠ some '+') :
      Asks (some text) verbose threshold
  | program {text : String} {level : List Char} {threshold : Threshold} (verbose : Bool)
      (htext : text.toList = "macrotag".toList ++ '=' :: level)
      (hlevel : threshold? level = some threshold) : Asks (some text) verbose threshold

/-! ## The characters of a level -/

/-- A character that neither ends a part of a filter nor is white space. -/
def IsPlain (c : Char) : Prop :=
  isBlank c = false ∧ c ≠ ',' ∧ c ≠ '=' ∧ c ≠ '['

theorem isAlphanum_iff {c : Char} : c.isAlphanum = true ↔
    0x41 ≤ c.toNat ∧ c.toNat ≤ 0x5A ∨ 0x61 ≤ c.toNat ∧ c.toNat ≤ 0x7A ∨
      0x30 ≤ c.toNat ∧ c.toNat ≤ 0x39 := by
  simp only [Char.isAlphanum, Char.isAlpha, Char.isUpper, Char.isLower, Char.isDigit,
    Bool.or_eq_true, Bool.and_eq_true, decide_eq_true_eq, UInt32.le_iff_toNat_le, Char.toNat]
  exact or_assoc

theorem isPlain_of_isAlphanum {c : Char} (h : c.isAlphanum = true) : IsPlain c := by
  have hrange := isAlphanum_iff.mp h
  refine ⟨?_, ?_, ?_, ?_⟩
  · rw [Bool.eq_false_iff]
    simp only [isBlank, ne_eq, Bool.or_eq_true, Bool.and_eq_true, decide_eq_true_eq, beq_iff_eq]
    omega
  all_goals
    rintro rfl
    exact absurd h (by decide)

theorem isAlphanumeric_of_isAlphanum {c : Char} (h : c.isAlphanum = true) :
    isAlphanumeric c = true := by
  simp only [isAlphanumeric, isAlphabetic, Bool.or_eq_true, List.any_eq_true, Bool.and_eq_true,
    decide_eq_true_eq]
  rcases isAlphanum_iff.mp h with hrange | hrange | hrange
  · exact .inl ⟨(0x41, 0x5A), List.mem_of_getElem? (i := 0) rfl, hrange⟩
  · exact .inl ⟨(0x61, 0x7A), List.mem_of_getElem? (i := 1) rfl, hrange⟩
  · exact .inr ⟨(0x30, 0x39), List.mem_of_getElem? (i := 0) rfl, hrange⟩

theorem isAlphanum_of_toLower {c : Char} (h : c.toLower.isAlphanum = true) :
    c.isAlphanum = true := by
  rw [Char.toLower] at h
  split at h
  · rename_i hupper
    simp only [UInt32.le_iff_toNat_le] at hupper
    exact isAlphanum_iff.mpr (.inl hupper)
  · exact h

theorem isAlphanum_of_named? {text : List Char} {threshold : Threshold}
    (h : named? text = some threshold) : ∀ c ∈ text, c.isAlphanum = true := by
  have hname : ∀ name : String, String.ofList (text.map Char.toLower) = name →
      name.toList.all Char.isAlphanum = true → ∀ c ∈ text, c.isAlphanum = true := by
    rintro name rfl hall c hc
    rw [String.toList_ofList, List.all_map] at hall
    exact isAlphanum_of_toLower (List.all_eq_true.mp hall c hc)
  simp only [named?] at h
  iterate 6
    split at h
    · rename_i hequal
      exact hname _ hequal (by decide)
  cases h

theorem isAlphanum_of_numbered? {text : List Char} {threshold : Threshold}
    (h : numbered? text = some threshold) :
    ∀ c ∈ (if text.head? = some '+' then text.tail else text), c.isAlphanum = true := by
  rw [numbered?] at h
  generalize (if text.head? = some '+' then text.tail else text) = digits at h ⊢
  intro c hc
  have hall : digits.all Char.isDigit = true := by
    by_cases hall : digits.all Char.isDigit = true
    · exact hall
    · simp [hall] at h
  rw [Char.isAlphanum, List.all_eq_true.mp hall c hc, Bool.or_true]

theorem isPlain_of_threshold? {text : List Char} {threshold : Threshold}
    (h : threshold? text = some threshold) : ∀ c ∈ text, IsPlain c := by
  intro c hc
  rw [threshold?] at h
  cases hnumber : numbered? text with
  | none =>
    rw [hnumber] at h
    exact isPlain_of_isAlphanum (isAlphanum_of_named? h c hc)
  | some found =>
    have hdigits := isAlphanum_of_numbered? hnumber
    cases text with
    | nil => cases hc
    | cons d rest =>
      by_cases hd : d = '+'
      · subst hd
        rcases List.mem_cons.mp hc with rfl | hc
        · exact ⟨by decide, by decide, by decide, by decide⟩
        · exact isPlain_of_isAlphanum (hdigits c hc)
      · rw [if_neg (by simpa using hd)] at hdigits
        exact isPlain_of_isAlphanum (hdigits c hc)

/-- A level without a sign begins with a letter or a digit. -/
theorem isAlphanum_head_of_threshold? {c : Char} {rest : List Char} {threshold : Threshold}
    (h : threshold? (c :: rest) = some threshold) (hsign : c ≠ '+') : c.isAlphanum = true := by
  rw [threshold?] at h
  cases hnumber : numbered? (c :: rest) with
  | none =>
    rw [hnumber] at h
    exact isAlphanum_of_named? h c List.mem_cons_self
  | some found =>
    have hdigits := isAlphanum_of_numbered? hnumber
    rw [if_neg (by simpa using hsign)] at hdigits
    exact hdigits c List.mem_cons_self

theorem ne_nil_of_threshold? {text : List Char} {threshold : Threshold}
    (h : threshold? text = some threshold) : text ≠ [] := by
  rintro rfl
  cases h

/-! ## Reading the settings -/

theorem readFilter_of_directive {text : List Char} {directive : Directive} (hcomma : ',' ∉ text)
    (hne : text ≠ []) (h : readDirective text = .ok directive) :
    readFilter text = .ok [directive] := by
  have hkept : ([text].filter fun piece => !piece.isEmpty) = [text] := by simp [hne]
  rw [readFilter, pieces_of_not_mem hcomma, hkept, List.mapM_cons, h]
  rfl

theorem readDirective_of_threshold? {text : List Char} {threshold : Threshold}
    (h : threshold? text = some threshold) (hsign : text.head? ≠ some '+') :
    readDirective text = .ok ⟨[], .everything, threshold⟩ := by
  have hplain := isPlain_of_threshold? h
  have hstop : text.dropWhile (fun c => c != '=' && c != '[') = [] := by
    rw [← List.append_nil text, List.dropWhile_append_of_pos]
    · rfl
    · intro c hc
      simp [(hplain c hc).2.2]
  rw [readDirective, trim_of_solid fun c hc => (hplain c hc).1]
  cases text with
  | nil => exact absurd rfl (ne_nil_of_threshold? h)
  | cons c rest =>
    have hstart : isTargetStart c = true := by
      rw [isTargetStart, isAlphanumeric_of_isAlphanum
        (isAlphanum_head_of_threshold? h (by simpa using hsign)), Bool.or_true]
    simp [hstart, hstop, wholeDirective, h]

theorem solid_ne_comma_of_target {target level : List Char} {threshold : Threshold}
    (htarget : ∀ c ∈ target, c.isAlphanum = true) (h : threshold? level = some threshold) :
    ∀ c ∈ target ++ '=' :: level, isBlank c = false ∧ c ≠ ',' := by
  intro c hc
  rcases List.mem_append.mp hc with hc | hc
  · have hplain := isPlain_of_isAlphanum (htarget c hc)
    exact ⟨hplain.1, hplain.2.1⟩
  · rcases List.mem_cons.mp hc with rfl | hc
    · decide
    · have hplain := isPlain_of_threshold? h c hc
      exact ⟨hplain.1, hplain.2.1⟩

theorem readDirective_of_target {target level : List Char} {threshold : Threshold}
    (htarget : ∀ c ∈ target, c.isAlphanum = true) (hne : target ≠ [])
    (h : threshold? level = some threshold) :
    readDirective (target ++ '=' :: level) = .ok ⟨target, .everything, threshold⟩ := by
  have hinside : ∀ c ∈ target, (c != '=' && c != '[') = true := by
    intro c hc
    simp [(isPlain_of_isAlphanum (htarget c hc)).2.2]
  have hmark : ('=' != '=' && '=' != '[') = false := by decide
  obtain ⟨htake, hdrop⟩ := takeWhile_append_mark hinside hmark level
  have hplace : bytesBetween 0 (byteLength target) (target ++ '=' :: level) = some target :=
    bytesBetween_append [] target ('=' :: level)
  have hlevel : readLevelPart (target ++ '=' :: level) (byteLength target) ('=' :: level) =
      .ok threshold := by
    have hbehind : dropBytes (byteLength target + 1) (target ++ '=' :: level) = some level := by
      have hsize : '='.utf8Size = 1 := by decide
      simpa [byteLength_append, byteLength, hsize] using dropBytes_append (target ++ ['=']) level
    rw [readLevelPart, readLevel, hbehind]
    cases level with
    | nil => exact absurd rfl (ne_nil_of_threshold? h)
    | cons c rest => simp only [h, Misread.unless]
  rw [readDirective, trim_of_solid fun c hc => (solid_ne_comma_of_target htarget h c hc).1]
  cases target with
  | nil => exact absurd rfl hne
  | cons c rest =>
    have hstart : isTargetStart c = true := by
      rw [isTargetStart, isAlphanumeric_of_isAlphanum (htarget c List.mem_cons_self), Bool.or_true]
    rw [List.cons_append] at htake hdrop hplace hlevel
    simp [hstart, htake, hdrop, hplace, hlevel, Misread.unless, bind, Except.bind]

theorem Asks.solid_ne_comma {text : String} {verbose : Bool} {threshold : Threshold}
    (h : Asks (some text) verbose threshold) : ∀ c ∈ text.toList, isBlank c = false ∧ c ≠ ',' := by
  cases h with
  | level _ hlevel _ =>
    intro c hc
    have hplain := isPlain_of_threshold? hlevel c hc
    exact ⟨hplain.1, hplain.2.1⟩
  | program _ htext hlevel =>
    rw [htext]
    exact solid_ne_comma_of_target (List.all_eq_true.mp (by decide)) hlevel

/-- What asks for a threshold is not torn. -/
theorem Asks.whole {given : Option String} {verbose : Bool} {threshold : Threshold}
    (h : Asks given verbose threshold) : Whole given := by
  cases given with
  | none => exact whole_none
  | some text =>
    have hcomma : ',' ∉ text.toList := fun hc => (h.solid_ne_comma _ hc).2 rfl
    refine whole_of_flush fun piece hpiece c hc => ?_
    rw [pieces_of_not_mem hcomma, List.mem_singleton] at hpiece
    exact (h.solid_ne_comma c (hpiece ▸ List.mem_of_head? hc)).1

/-- What such settings let through. -/
theorem Asks.filter_eq {given : Option String} {verbose : Bool} {threshold : Threshold}
    (h : Asks given verbose threshold) : ∃ target, filter given verbose =
      [⟨target, .everything, threshold⟩] ∧ (target = [] ∨ target = "macrotag".toList) := by
  cases given with
  | none =>
    cases h
    exact ⟨[], rfl, .inl rfl⟩
  | some text =>
    have hcomma : ',' ∉ text.toList := fun hc => (h.solid_ne_comma _ hc).2 rfl
    have hread (directive : Directive) (hne : text.toList ≠ [])
        (hdirective : readDirective text.toList = .ok directive) :
        filter (some text) verbose = [directive] := by
      rw [filter, readFilter_of_directive hcomma hne hdirective]
    cases h with
    | level _ hlevel hsign =>
      exact ⟨[], hread _ (ne_nil_of_threshold? hlevel) (readDirective_of_threshold? hlevel hsign),
        .inl rfl⟩
    | program _ htext hlevel =>
      have hletters : ∀ c ∈ "macrotag".toList, c.isAlphanum = true :=
        List.all_eq_true.mp (by decide)
      have hprogram := readDirective_of_target hletters (by decide) hlevel
      exact ⟨_, hread _ (by rw [htext]; simp) (htext ▸ hprogram), .inr rfl⟩

/-- What the variable for the log may hold: anything but a text that is torn. -/
structure Setting where
  given : Variable
  whole : Whole given.text?

end Log

/-- Every event comes from the program. -/
theorem Event.isPrefixOf_origin (event : Event) :
    "macrotag".toList.isPrefixOf event.origin.toList = true := by
  cases event <;> simp only [origin] <;> decide

namespace Log

variable {given other : Option String} {verbose quiet : Bool} {threshold lower : Threshold}

theorem Asks.admits_filter (h : Asks given verbose threshold) (event : Event) :
    (filter given verbose).admits event = threshold.admits event := by
  obtain ⟨target, hfilter, htarget⟩ := h.filter_eq
  have hfits : target.isPrefixOf event.origin.toList = true := by
    rcases htarget with rfl | rfl
    · rfl
    · exact event.isPrefixOf_origin
  simp [hfilter, Filter.admits, deciding, Directive.fits, Scope.fits, hfits]

theorem Asks.lines_eq (h : Asks given verbose threshold) (stamp : String) (events : List Event) :
    lines stamp (filter given verbose) events =
      (events.filter fun event => threshold.rank ≤ event.level.rank).map (line stamp) := by
  refine congrArg (List.map (line stamp)) (List.filter_congr fun event _ => ?_)
  rw [h.admits_filter, Bool.eq_iff_iff, Threshold.admits_iff, decide_eq_true_iff]

/-- The lines with a threshold are among those with a lower one, in the same order. -/
theorem Asks.lines_sublist (h : Asks given verbose threshold) (hlower : Asks other quiet lower)
    (hrank : lower.rank ≤ threshold.rank) (stamp : String) (events : List Event) :
    (lines stamp (filter given verbose) events).Sublist
      (lines stamp (filter other quiet) events) := by
  rw [h.lines_eq, hlower.lines_eq]
  refine List.Sublist.map _ (List.monotone_filter_right events fun event hlogged => ?_)
  rw [decide_eq_true_eq] at hlogged ⊢
  omega

end Log

/-! ## Runs -/

/-- Arguments that differ at most in one option for a log. -/
inductive LogOption : List String → List String → Prop where
  | same (arguments : List String) : LogOption arguments arguments
  | added (front back : List String) : LogOption (front ++ back) (front ++ "--verbose" :: back)
  | removed (front back : List String) : LogOption (front ++ "--verbose" :: back) (front ++ back)

theorem LogOption.exists_verbose {arguments others : List String} {line other : CommandLine}
    (h : LogOption arguments others) (hline : CommandLine.read arguments = .ok line)
    (hother : CommandLine.read others = .ok other) :
    ∃ verbose, other = { line with verbose := verbose } := by
  cases h with
  | same =>
    rw [hline] at hother
    cases hother
    exact ⟨line.verbose, rfl⟩
  | added front back => exact ⟨true, CommandLine.read_insert hline hother⟩
  | removed front back =>
    rw [CommandLine.read_insert hother hline]
    exact ⟨other.verbose, rfl⟩

namespace Program

/-- The lines of the log of a run. -/
def log (world : World) (line : CommandLine) (stamp : String) : List String :=
  Log.lines stamp (Log.filter world.logVariable.text? line.verbose) (run world line).events

/-- The settings of the log have no influence on a run. -/
theorem run_logVariable (world : World) (line : CommandLine) (given other : Variable)
    (verbose : Bool) :
    run { world with logVariable := other } { line with verbose := verbose } =
      run { world with logVariable := given } line := rfl

/-- Setting the filter of the log, or adding or dropping the option for it, changes neither the exit
code nor the output. It adds and drops lines of the log, which are lines about what was reported,
and leaves what follows the log. With a lower level no line is lost, and they keep their order. -/
theorem run_of_logging (place : World) (before after : Log.Setting)
    {arguments others : List String} {line other : CommandLine}
    (hoption : LogOption arguments others) (hline : CommandLine.read arguments = .ok line)
    (hother : CommandLine.read others = .ok other) :
    let world := { place with logVariable := before.given }
    let changed := { place with logVariable := after.given }
    (run changed other).exit = (run world line).exit ∧
      (run changed other).output = (run world line).output ∧
      (∃ complaint : String,
        (complaint = "" ∨ ∃ fault : Fault, complaint = "Error: " ++ fault.display ++ "\n") ∧
        ∀ stamp, errorOutput world line stamp (run world line) =
            String.join (log world line stamp) ++ complaint ∧
          errorOutput changed other stamp (run changed other) =
            String.join (log changed other stamp) ++ complaint) ∧
      (∃ events : List Event, ∀ stamp,
        (log world line stamp).Sublist (events.map (Log.line stamp)) ∧
          (log changed other stamp).Sublist (events.map (Log.line stamp))) ∧
      ∀ threshold lower, Log.Asks before.given.text? line.verbose threshold →
        Log.Asks after.given.text? other.verbose lower → lower.rank ≤ threshold.rank →
        ∀ stamp, (log world line stamp).Sublist (log changed other stamp) := by
  intro world changed
  obtain ⟨verbose, rfl⟩ := hoption.exists_verbose hline hother
  have hrun : run changed { line with verbose := verbose } = run world line :=
    run_logVariable place line before.given after.given verbose
  refine ⟨congrArg Outcome.exit hrun, congrArg Outcome.output hrun, ?_, ?_, ?_⟩
  · refine ⟨complaintText (run world line).complaint, ?_, fun stamp => ⟨rfl, ?_⟩⟩
    · cases (run world line).complaint with
      | none => exact .inl rfl
      | some fault => exact .inr ⟨fault, rfl⟩
    · rw [errorOutput, log, hrun]
  · refine ⟨(run world line).events, fun stamp => ⟨?_, ?_⟩⟩
    · exact List.filter_sublist.map _
    · rw [log, hrun]
      exact List.filter_sublist.map _
  · intro threshold lower hasks hlower hrank stamp
    rw [log, log, hrun]
    exact hasks.lines_sublist hlower hrank stamp _

/-- A run that fails, with and without a log. -/
theorem run_of_logging_missing :
    ∃ (quiet loud : World) (line other : CommandLine),
      loud = { quiet with logVariable := .text "macrotag=Trace" } ∧
      CommandLine.read ["types"] = .ok line ∧ CommandLine.read ["--verbose", "types"] = .ok other ∧
      (run loud other).exit = 2 ∧ (run quiet line).exit = 2 ∧
      (log quiet line "now").length = 0 ∧ (log loud other "now").length = 1 ∧
      (log quiet line "now").Sublist (log loud other "now") := by
  let quiet : World := .ofTree ⟨[], []⟩ "/".toList (some "gone.toml") none
  let line : CommandLine := ⟨none, false, .types⟩
  let other : CommandLine := ⟨none, true, .types⟩
  have hline : CommandLine.read ([] ++ ["types"]) = .ok line := by cbv
  have hother : CommandLine.read ([] ++ "--verbose" :: ["types"]) = .ok other := by cbv
  have hwarn : Log.Asks none false (some .warn) := .unset false
  have htrace : Log.Asks (some "macrotag=Trace") true (some .trace) :=
    .program true (by decide : _ = _ ++ '=' :: "Trace".toList) (by decide)
  let before : Log.Setting := ⟨.unset, hwarn.whole⟩
  let after : Log.Setting := ⟨.text "macrotag=Trace", htrace.whole⟩
  obtain ⟨hexit, -, -, -, hlogs⟩ :=
    run_of_logging quiet before after (.added [] ["types"]) hline hother
  have hmissing : (run quiet line).exit = 2 := by rfl
  refine ⟨quiet, _, line, other, rfl, hline, hother, hexit.trans hmissing, hmissing, ?_, ?_,
    hlogs _ _ hwarn htrace (by decide) "now"⟩
  · rw [log, show quiet.logVariable.text? = none from rfl, hwarn.lines_eq]
    rfl
  · rw [log, show Variable.text? (.text "macrotag=Trace") = some "macrotag=Trace" from rfl,
      htrace.lines_eq]
    rfl

end Program
end InlineTag
