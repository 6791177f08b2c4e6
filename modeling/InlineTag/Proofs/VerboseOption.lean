import Mathlib
import InlineTag.CommandLine

/-!
# InlineTag.Proofs.VerboseOption

What the option for a log does to the reading of a command line, wherever it stands on it. It enters
what is held back earlier than without it, so the two readings do not go through the same states;
they do again as soon as the next option shows that the value held back is complete.

* `Given.Wished`: the states of the two readings, behind the option.
* `Given.Wished.readArgument`: a step that both take leads to such states again.
* `CommandLine.read_insert`: the lines that are read differ in the wish for a log alone.
-/

namespace InlineTag
namespace CommandLine

namespace Given

variable {given other next next' : Given}

/-- What has been read, with the wish for a log. -/
def wish (given : Given) : Given :=
  { given with verbose := true }

/-- What has been read with the option, when without it `given` has been read: what was held back in
front of the option is still held back without it. -/
inductive Wished (given : Given) : Given → Prop where
  | kept : Wished given given.wish
  | settled {next : Given} (h : given.settle = .ok next) : Wished given next.wish

/-! ## Entering what is held back -/

theorem of_enter {option : ValueOption} {value : String}
    (h : given.enter option value = .ok next) :
    next.held = given.held ∧ next.plain = given.plain ∧ next.raw = given.raw := by
  cases option with
  | data =>
    cases h
    exact ⟨rfl, rfl, rfl⟩
  | config =>
    simp only [enter] at h
    split at h
    · cases h
    · split at h
      · cases h
      · cases h
        exact ⟨rfl, rfl, rfl⟩

/-- Nothing is held back any more, and everything else but the value is as before. -/
theorem of_settle (h : given.settle = .ok next) :
    next.held = none ∧ next.plain = given.plain ∧ next.raw = given.raw ∧
      given.awaitsValue = false := by
  obtain ⟨config, verbose, data, raw, held, plain⟩ := given
  cases held with
  | none =>
    cases h
    exact ⟨rfl, rfl, rfl, rfl⟩
  | some held =>
    obtain ⟨option, value⟩ := held
    cases value with
    | none => cases h
    | some value =>
      obtain ⟨hheld, hplain, hraw⟩ := of_enter h
      exact ⟨hheld, hplain, hraw, rfl⟩

/-- Values are entered in the same way whatever the flags are. -/
theorem enter_flags (given : Given) (option : ValueOption) (value : String) (verbose plain : Bool) :
    enter { given with verbose := verbose, plain := plain } option value =
      (given.enter option value).map fun next =>
        { next with verbose := verbose, plain := plain } := by
  cases option with
  | data => rfl
  | config =>
    by_cases hconfig : given.config.isSome = true
    · simp [enter, hconfig, Except.map]
    · by_cases hvalue : value.isEmpty = true <;> simp [enter, hconfig, hvalue, Except.map]

theorem settle_flags (given : Given) (verbose plain : Bool) :
    settle { given with verbose := verbose, plain := plain } =
      given.settle.map fun next => { next with verbose := verbose, plain := plain } := by
  obtain ⟨config, oldVerbose, data, raw, held, oldPlain⟩ := given
  cases held with
  | none => rfl
  | some held =>
    obtain ⟨option, value⟩ := held
    cases value with
    | none => rfl
    | some value =>
      exact enter_flags ⟨config, oldVerbose, data, raw, none, oldPlain⟩ option value _ _

theorem enter_wish (given : Given) (option : ValueOption) (value : String) :
    given.wish.enter option value = (given.enter option value).map wish := by
  refine (enter_flags given option value true given.plain).trans ?_
  cases henter : given.enter option value with
  | error fault => rfl
  | ok next =>
    rw [← (of_enter henter).2.1]
    rfl

theorem settle_wish (given : Given) : given.wish.settle = given.settle.map wish := by
  refine (settle_flags given true given.plain).trans ?_
  cases hsettle : given.settle with
  | error fault => rfl
  | ok next =>
    rw [← (of_settle hsettle).2.1]
    rfl

theorem exists_of_awaitsValue (h : given.awaitsValue = true) :
    ∃ option, given.held = some ⟨option, none⟩ := by
  rw [awaitsValue] at h
  split at h
  · exact ⟨_, ‹_›⟩
  · cases h

theorem settle_of_held_none (h : given.held = none) : given.settle = .ok given := by
  rw [settle, h]

theorem settle_of_settle (h : given.settle = .ok next) : next.settle = .ok next :=
  settle_of_held_none (of_settle h).1

theorem eq_wish {result result' : Except UsageFault Given} (h : result' = result.map wish)
    (hresult : result = .ok next) (hresult' : result' = .ok next') : next' = next.wish := by
  rw [h, hresult] at hresult'
  cases hresult'
  rfl

namespace Wished

theorem settle (h : given.Wished other) : other.settle = given.settle.map wish := by
  cases h with
  | kept => exact settle_wish given
  | settled hsettle => rw [settle_wish, settle_of_settle hsettle, hsettle]

theorem plain_eq (h : given.Wished other) : other.plain = given.plain := by
  cases h with
  | kept => rfl
  | settled hsettle => exact (of_settle hsettle).2.1

theorem raw_eq (h : given.Wished other) : other.raw = given.raw := by
  cases h with
  | kept => rfl
  | settled hsettle => exact (of_settle hsettle).2.2.1

theorem awaitsValue_eq (h : given.Wished other) : other.awaitsValue = given.awaitsValue := by
  cases h with
  | kept => rfl
  | @settled next hsettle =>
    obtain ⟨hheld, -, -, hawaits⟩ := of_settle hsettle
    rw [hawaits, awaitsValue, show next.wish.held = none from hheld]

/-- Behind two hyphens nothing is an option any more. -/
theorem mark (h : given.Wished other) :
    Given.Wished { given with plain := true } { other with plain := true } := by
  cases h with
  | kept => exact .kept
  | @settled next hsettle =>
    have hplain := settle_flags given given.verbose true
    rw [hsettle] at hplain
    exact .settled hplain

/-! ## Steps -/

/-- Every step but a first value enters what is held back first, and from there on the two readings
differ in the flag alone. -/
theorem step (h : given.Wished other) (next : Given → Except UsageFault Given)
    (hnext : ∀ settled, next settled.wish = (next settled).map wish) :
    other.settle.bind next = (given.settle.bind next).map wish := by
  rw [h.settle]
  cases given.settle with
  | error fault => rfl
  | ok settled => exact hnext settled

theorem giveValue (h : given.Wished other) (option : ValueOption) (value : String) :
    other.giveValue option value = (given.giveValue option value).map wish := by
  have hbind : ∀ given : Given, given.giveValue option value =
      given.settle.bind fun settled => settled.enter option value := by
    intro given
    rw [Given.giveValue]
    cases given.settle <;> rfl
  rw [hbind, hbind]
  exact h.step _ fun settled => enter_wish settled option value

theorem await (h : given.Wished other) (option : ValueOption) :
    other.await option = (given.await option).map wish := by
  have hbind : ∀ given : Given, given.await option =
      given.settle.bind fun settled => .ok { settled with held := some ⟨option, none⟩ } := by
    intro given
    rw [Given.await]
    cases given.settle <;> rfl
  rw [hbind, hbind]
  exact h.step _ fun settled => rfl

/-- No flag can be given behind the option: the wish for a log would be a repetition, and the other
flags end the reading. -/
theorem giveFlag_ne_ok (h : given.Wished other) (flag : Flag) : other.giveFlag flag ≠ .ok next := by
  rw [Given.giveFlag, h.settle]
  cases given.settle with
  | error fault => simp [Except.map]
  | ok settled => cases flag <;> simp [Except.map, wish]

end Wished
end Given

open Given

variable {given other next next' : Given} {side : Side}

/-- What the form of an argument says about reading it, as long as options are read. -/
inductive Form (side : Side) (argument : String) : Prop where
  | hyphens (h : ∀ given : Given, given.plain = false →
      readArgument side given argument = .ok { given with plain := true })
  | long (text : List Char) (h : ∀ given : Given, given.plain = false →
      readArgument side given argument = readLong side given text)
  | letters (text : List Char) (h : ∀ given : Given, given.plain = false →
      readArgument side given argument = readLetters side given text)
  | word (hawaited : ∀ (given : Given) (option : ValueOption), given.plain = false →
        given.held = some ⟨option, none⟩ → readArgument side given argument =
          .ok { given with held := some ⟨option, some argument⟩ })
      (h : ∀ given : Given, given.plain = false → given.awaitsValue = false →
        readArgument side given argument = readWord side given argument)

/-- A single hyphen and what begins with none are no options. -/
theorem form_of_word {argument : String}
    (h : argument.toList = ['-'] ∨ argument.toList.head? ≠ some '-') : Form side argument := by
  refine .word (fun given option hplain hheld => ?_) fun given hplain hawaits => ?_
  · rw [readArgument, hplain, if_neg Bool.false_ne_true]
    split
    · simp_all
    · simp_all
    · simp_all
    · rw [hheld]
  · rw [readArgument, hplain, if_neg Bool.false_ne_true]
    split
    · simp_all
    · simp_all
    · simp_all
    · split
      · simp_all [awaitsValue]
      · rfl

theorem form (side : Side) (argument : String) : Form side argument := by
  cases htext : argument.toList with
  | nil => exact form_of_word (.inr (by simp [htext]))
  | cons c rest =>
    by_cases hc : c = '-'
    · subst hc
      cases rest with
      | nil => exact form_of_word (.inl htext)
      | cons d rest =>
        by_cases hd : d = '-'
        · subst hd
          cases rest with
          | nil => exact .hyphens fun given hplain => by simp [readArgument, hplain, htext]
          | cons e rest =>
            exact .long (e :: rest) fun given hplain => by simp [readArgument, hplain, htext]
        · exact .letters (d :: rest) fun given hplain => by simp [readArgument, hplain, htext, hd]
    · exact form_of_word (.inr (by simpa [htext] using hc))

theorem readLetters_of_withValue {letter : Char} {option : ValueOption}
    (h : letterOption? side letter = some (.withValue option)) (rest : List Char) :
    (∀ given, readLetters side given (letter :: rest) = given.await option) ∨
      ∃ value, ∀ given, readLetters side given (letter :: rest) = given.giveValue option value := by
  cases rest with
  | nil => exact .inl fun given => by simp [readLetters, h]
  | cons c value =>
    by_cases hc : c = '='
    · subst hc
      exact .inr ⟨String.ofList value, fun given => by simp [readLetters, h]⟩
    · refine .inr ⟨String.ofList (c :: value), fun given => ?_⟩
      rw [readLetters.eq_def]
      simp only [h]
      split
      all_goals simp_all

namespace Given.Wished

theorem readLong {text : List Char} (h : given.Wished other)
    (hgiven : CommandLine.readLong side given text = .ok next)
    (hother : CommandLine.readLong side other text = .ok next') : next' = next.wish := by
  cases hcut : Text.cutAt '=' text with
  | none =>
    simp only [CommandLine.readLong, hcut] at hgiven hother
    cases hoption : longOption? side text with
    | none =>
      rw [hoption] at hgiven
      cases hgiven
    | some option =>
      rw [hoption] at hgiven hother
      cases option with
      | flag flag => exact absurd hother (h.giveFlag_ne_ok flag)
      | withValue option => exact eq_wish (h.await option) hgiven hother
  | some parts =>
    simp only [CommandLine.readLong, hcut] at hgiven hother
    cases hoption : longOption? side parts.1 with
    | none =>
      rw [hoption] at hgiven
      cases hgiven
    | some option =>
      rw [hoption] at hgiven hother
      cases option with
      | flag flag => cases hgiven
      | withValue option => exact eq_wish (h.giveValue option _) hgiven hother

theorem readLetters {letters : List Char} (h : given.Wished other)
    (hgiven : CommandLine.readLetters side given letters = .ok next)
    (hother : CommandLine.readLetters side other letters = .ok next') : next.Wished next' := by
  cases letters with
  | nil =>
    cases hgiven
    cases hother
    exact h
  | cons letter rest =>
    cases hoption : letterOption? side letter with
    | none => simp [CommandLine.readLetters, hoption] at hgiven
    | some option =>
      cases option with
      | flag flag =>
        simp only [CommandLine.readLetters, hoption] at hother
        split at hother
        · cases hother
        · exact absurd ‹_› (h.giveFlag_ne_ok flag)
      | withValue option =>
        suffices hnext : next' = next.wish from hnext ▸ .kept
        rcases readLetters_of_withValue hoption rest with hread | ⟨value, hread⟩
        · rw [hread] at hgiven hother
          exact eq_wish (h.await option) hgiven hother
        · rw [hread] at hgiven hother
          exact eq_wish (h.giveValue option value) hgiven hother

theorem readWord (h : given.Wished other) (side : Side) (word : String) :
    CommandLine.readWord side other word = (CommandLine.readWord side given word).map wish := by
  cases side with
  | before =>
    simp only [CommandLine.readWord, h.plain_eq]
    split <;> rfl
  | behind command =>
    simp only [CommandLine.readWord, h.raw_eq, h.settle]
    split
    · cases given.settle <;> rfl
    · rfl

theorem readArgument {argument : String} (h : given.Wished other)
    (hgiven : CommandLine.readArgument side given argument = .ok next)
    (hother : CommandLine.readArgument side other argument = .ok next') : next.Wished next' := by
  have hsame := h.plain_eq
  cases hplain : given.plain with
  | true =>
    rw [CommandLine.readArgument, if_pos hplain] at hgiven
    rw [CommandLine.readArgument, if_pos (hsame.trans hplain)] at hother
    exact eq_wish (h.readWord side argument) hgiven hother ▸ .kept
  | false =>
    rw [hplain] at hsame
    cases form side argument with
    | hyphens hread =>
      rw [hread given hplain] at hgiven
      rw [hread other hsame] at hother
      cases hgiven
      cases hother
      exact h.mark
    | long text hread =>
      rw [hread given hplain] at hgiven
      rw [hread other hsame] at hother
      exact h.readLong hgiven hother ▸ .kept
    | letters text hread =>
      rw [hread given hplain] at hgiven
      rw [hread other hsame] at hother
      exact h.readLetters hgiven hother
    | word hawaited hread =>
      have hsameAwaits := h.awaitsValue_eq
      cases hawaits : given.awaitsValue with
      | false =>
        rw [hread given hplain hawaits] at hgiven
        rw [hread other hsame (hsameAwaits.trans hawaits)] at hother
        exact eq_wish (h.readWord side argument) hgiven hother ▸ .kept
      | true =>
        cases h with
        | kept =>
          obtain ⟨option, hheld⟩ := exists_of_awaitsValue hawaits
          rw [hawaited given option hplain hheld] at hgiven
          rw [hawaited given.wish option hplain hheld] at hother
          cases hgiven
          cases hother
          exact .kept
        | settled hsettle =>
          rw [(of_settle hsettle).2.2.2] at hawaits
          cases hawaits

end Given.Wished

/-! ## The whole line -/

section Runs

variable {arguments front back : List String} {name : CommandName} {line line' : CommandLine}

theorem readBehind_cons {argument : String}
    (h : readBehind name given (argument :: back) = .ok next) :
    ∃ middle, readArgument (.behind name) given argument = .ok middle ∧
      readBehind name middle back = .ok next := by
  rw [readBehind] at h
  split at h
  · cases h
  · exact ⟨_, ‹_›, h⟩

theorem Given.Wished.readBehind (h : given.Wished other)
    (hgiven : CommandLine.readBehind name given arguments = .ok next)
    (hother : CommandLine.readBehind name other arguments = .ok next') : next' = next.wish := by
  induction arguments generalizing given other with
  | nil =>
    rw [CommandLine.readBehind] at hgiven hother
    rw [h.settle, hgiven] at hother
    exact (Except.ok.inj hother).symm
  | cons argument rest ih =>
    obtain ⟨middle, hstep, hrest⟩ := readBehind_cons hgiven
    obtain ⟨middle', hstep', hrest'⟩ := readBehind_cons hother
    exact ih (h.readArgument hstep hstep') hrest hrest'

/-- The option itself, where options are read. -/
theorem readArgument_option (hplain : given.plain = false) :
    readArgument side given "--verbose" = given.giveFlag .verbose := by
  simp [readArgument, hplain, readLong, Text.cutAt, longOption?]

theorem wished_of_option (hplain : given.plain = false)
    (h : readArgument side given "--verbose" = .ok next) : given.Wished next := by
  rw [readArgument_option hplain, giveFlag] at h
  split at h
  · cases h
  · rename_i settled hsettle
    dsimp only at h
    split at h
    · cases h
    · cases h
      exact .settled hsettle

/-- A word behind the name of a command is the source. -/
theorem readWord_behind {word : String} (h : readWord (.behind name) given word = .ok next) :
    (Side.behind name).takesSource = true ∧ given.raw = none ∧
      ∃ settled, given.settle = .ok settled ∧ next = { settled with raw := some word } := by
  simp only [readWord] at h
  split at h
  · rename_i hdue
    rw [Bool.and_eq_true, Option.isNone_iff_eq_none] at hdue
    split at h
    · cases h
    · cases h
      exact ⟨hdue.1, hdue.2, _, ‹_›, rfl⟩
  · cases h

/-- Behind the name of a command the option is read as one, or else it is taken as the source, and
then there is no source without it. -/
theorem readBehind_insert (hgiven : readBehind name given (front ++ back) = .ok next)
    (hother : readBehind name given (front ++ "--verbose" :: back) = .ok next') :
    next' = next.wish ∨ (Side.behind name).takesSource = true ∧ next.raw = none := by
  induction front generalizing given with
  | nil =>
    obtain ⟨middle, hstep, hrest⟩ := readBehind_cons hother
    cases hplain : given.plain with
    | false => exact .inl ((wished_of_option hplain hstep).readBehind hgiven hrest)
    | true =>
      rw [readArgument, if_pos hplain] at hstep
      obtain ⟨htakes, hraw, settled, hsettle, rfl⟩ := readWord_behind hstep
      obtain ⟨-, hsettled, -⟩ := of_settle hsettle
      cases back with
      | nil =>
        rw [List.nil_append, readBehind, hsettle] at hgiven
        cases hgiven
        exact .inr ⟨htakes, (of_settle hsettle).2.2.1.trans hraw⟩
      | cons word rest =>
        -- there is no second source
        obtain ⟨_, hword, -⟩ := readBehind_cons hrest
        rw [readArgument, if_pos (hsettled.trans hplain)] at hword
        obtain ⟨-, htaken, -⟩ := readWord_behind hword
        cases htaken
  | cons argument rest ih =>
    obtain ⟨middle, hstep, hrest⟩ := readBehind_cons hgiven
    obtain ⟨middle', hstep', hrest'⟩ := readBehind_cons hother
    rw [hstep] at hstep'
    cases hstep'
    exact ih hrest hrest'

theorem readCommand_eq_ok {before : Given} (h : readCommand before name arguments = .ok line) :
    ∃ behind command settled, readBehind name {} arguments = .ok behind ∧
      finish name behind = .ok command ∧ before.settle = .ok settled ∧
      line = ⟨behind.config.orElse fun _ => settled.config, settled.verbose || behind.verbose,
        command⟩ := by
  rw [readCommand] at h
  split at h
  · cases h
  · rename_i behind hbehind
    split at h
    · cases h
    · cases h
    · rename_i command settled hfinish hsettle
      cases h
      exact ⟨behind, command, settled, hbehind, hfinish, hsettle, rfl⟩

theorem finish_wish (name : CommandName) (given : Given) :
    finish name given.wish = finish name given := by
  cases name <;> rfl

theorem finish_of_raw_none (htakes : (Side.behind name).takesSource = true)
    (hraw : given.raw = none) : finish name given = .error .missingArgument := by
  cases name with
  | types => cases htakes
  | parse => simp [finish, hraw]
  | render => simp [finish, hraw]

theorem readCommand_insert (hline : readCommand given name (front ++ back) = .ok line)
    (hline' : readCommand given name (front ++ "--verbose" :: back) = .ok line') :
    line' = { line with verbose := true } := by
  obtain ⟨behind, command, settled, hbehind, hfinish, hsettle, rfl⟩ := readCommand_eq_ok hline
  obtain ⟨behind', command', settled', hbehind', hfinish', hsettle', rfl⟩ :=
    readCommand_eq_ok hline'
  rw [hsettle] at hsettle'
  cases hsettle'
  rcases readBehind_insert hbehind hbehind' with rfl | ⟨htakes, hraw⟩
  · rw [finish_wish, hfinish] at hfinish'
    cases hfinish'
    simp [wish]
  · rw [finish_of_raw_none htakes hraw] at hfinish
    cases hfinish

theorem Given.Wished.readCommand (h : given.Wished other)
    (hline : CommandLine.readCommand given name arguments = .ok line)
    (hline' : CommandLine.readCommand other name arguments = .ok line') :
    line' = { line with verbose := true } := by
  obtain ⟨behind, command, settled, hbehind, hfinish, hsettle, rfl⟩ := readCommand_eq_ok hline
  obtain ⟨behind', command', settled', hbehind', hfinish', hsettle', rfl⟩ :=
    readCommand_eq_ok hline'
  rw [hbehind] at hbehind'
  cases hbehind'
  rw [hfinish] at hfinish'
  cases hfinish'
  rw [h.settle, hsettle] at hsettle'
  cases hsettle'
  simp [wish]

/-- Whether the name of a command may stand here. -/
def Given.takesCommand (given : Given) : Bool :=
  !given.plain && !given.awaitsValue

/-- What the next argument of a line is: the name of the command, or something in front of it. -/
inductive Next (given : Given) (argument : String) (rest : List String) (line : CommandLine) :
    Prop where
  | command {name : CommandName} (hname : commandName? argument = some name)
      (htakes : given.takesCommand = true) (h : readCommand given name rest = .ok line) :
      Next given argument rest line
  | option {next : Given} (hnone : commandName? argument = none ∨ given.takesCommand = false)
      (hstep : readArgument .before given argument = .ok next) (h : readFrom next rest = .ok line) :
      Next given argument rest line

theorem next_of_readFrom {argument : String} (h : readFrom given (argument :: back) = .ok line) :
    Next given argument back line := by
  rw [readFrom] at h
  split at h
  · rename_i name hname
    split at h
    · exact .command hname ‹_› h
    · rename_i htakes
      split at h
      · cases h
      · exact .option (.inr (Bool.eq_false_iff.mpr htakes)) ‹_› h
  · rename_i hname
    split at h
    · cases h
    · split at h
      · cases h
      · exact .option (.inl hname) ‹_› h

theorem Given.Wished.readFrom (h : given.Wished other)
    (hline : CommandLine.readFrom given arguments = .ok line)
    (hline' : CommandLine.readFrom other arguments = .ok line') :
    line' = { line with verbose := true } := by
  induction arguments generalizing given other with
  | nil =>
    rw [CommandLine.readFrom] at hline
    split at hline
    · cases hline
    · split at hline <;> cases hline
  | cons argument rest ih =>
    have hsame : other.takesCommand = given.takesCommand := by
      rw [takesCommand, takesCommand, h.plain_eq, h.awaitsValue_eq]
    cases next_of_readFrom hline with
    | command hname htakes hread =>
      cases next_of_readFrom hline' with
      | command hname' htakes' hread' =>
        rw [hname] at hname'
        cases hname'
        exact h.readCommand hread hread'
      | option hnone' hstep' hread' => simp_all
    | option hnone hstep hread =>
      cases next_of_readFrom hline' with
      | command hname' htakes' hread' => simp_all
      | option hnone' hstep' hread' => exact ih (h.readArgument hstep hstep') hread hread'

theorem readFrom_insert (hline : readFrom given (front ++ back) = .ok line)
    (hline' : readFrom given (front ++ "--verbose" :: back) = .ok line') :
    line' = { line with verbose := true } := by
  induction front generalizing given with
  | nil =>
    cases next_of_readFrom hline' with
    | command hname => simp [commandName?] at hname
    | option hnone hstep hread =>
      cases hplain : given.plain with
      | false => exact (wished_of_option hplain hstep).readFrom hline hread
      | true =>
        rw [readArgument, if_pos hplain, readWord] at hstep
        split at hstep <;> cases hstep
  | cons argument rest ih =>
    cases next_of_readFrom hline with
    | command hname htakes hread =>
      cases next_of_readFrom hline' with
      | command hname' htakes' hread' =>
        rw [hname] at hname'
        cases hname'
        exact readCommand_insert hread hread'
      | option hnone' hstep' hread' => simp_all
    | option hnone hstep hread =>
      cases next_of_readFrom hline' with
      | command hname' htakes' hread' => simp_all
      | option hnone' hstep' hread' =>
        rw [hstep] at hstep'
        cases hstep'
        exact ih hread hread'

end Runs

/-- The option for a log, put between the arguments of a command line, changes nothing in what is
read but the wish for a log. -/
theorem read_insert {front back : List String} {line line' : CommandLine}
    (hline : read (front ++ back) = .ok line)
    (hline' : read (front ++ "--verbose" :: back) = .ok line') :
    line' = { line with verbose := true } :=
  readFrom_insert hline hline'

end CommandLine
end InlineTag
