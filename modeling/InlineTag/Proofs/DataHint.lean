import Mathlib
import InlineTag.Proofs.DataPairs
import InlineTag.Proofs.Validity

/-!
# InlineTag.Proofs.DataHint

When a fault is shown with the hint on how data are given. The hint goes by the message: it is shown
when the name of the option stands somewhere in it. Every fault of a pair has that name in its label.
The labels of the faults in a configuration do not, but the names quoted in them may.

* `NameFault.mentionsData_message_iff`: the name of the option stands in such a message when it
  stands in a quoted name.
* `display_hint`: which faults are shown with the hint.
* `hint_for_names`: three configurations that are refused with a hint on data.
-/

namespace InlineTag

open Text Toml

/-! ## Parts of texts -/

namespace Text

theorem contains_iff_infix {part text : List Char} : contains part text = true ↔ part <:+: text := by
  induction text with
  | nil => rw [contains, List.isEmpty_iff, List.infix_nil]
  | cons c rest ih =>
    rw [contains, Bool.or_eq_true, ih, List.isPrefixOf_iff_prefix, List.infix_cons_iff]

/-- A part without the mark stands on one side of it. -/
theorem infix_append_mark_iff {mark : Char} {part : List Char} (hmark : mark ∉ part)
    (front back : List Char) :
    part <:+: front ++ mark :: back ↔ part <:+: front ∨ part <:+: back := by
  induction front with
  | nil =>
    rw [List.nil_append, List.infix_cons_iff, List.infix_nil]
    refine or_congr_left ⟨?_, ?_⟩
    · rintro ⟨rest, h⟩
      cases part with
      | nil => rfl
      | cons c part =>
        obtain ⟨rfl, -⟩ := List.cons.inj h
        exact absurd List.mem_cons_self hmark
    · rintro rfl
      exact List.nil_prefix
  | cons c front ih =>
    rw [List.cons_append, List.infix_cons_iff, ih, List.infix_cons_iff, or_assoc]
    refine or_congr_left ⟨?_, ?_⟩
    · rintro ⟨rest, h⟩
      have hfront : (c :: front) ++ mark :: back = part ++ rest := h.symm
      obtain ⟨kept, hkept⟩ := append_of_mark_not_mem hmark hfront
      exact ⟨kept, hkept.symm⟩
    · intro h
      exact h.trans (List.prefix_append (c :: front) (mark :: back))

end Text

/-! ## Messages -/

/-- What is said on data below a message. -/
def Fault.dataHint : String :=
  "\n\n" ++ ("Expected format: key=value\n" ++
    "Example: macrotag render \"image: cat.png\" --data page=home")

theorem Fault.display_config (message : String) :
    (Fault.config message).display =
      if mentionsData message then message ++ dataHint else message := by
  show (if mentionsData message then message ++ "\n\n" ++ "Expected format: key=value\n" ++
    "Example: macrotag render \"image: cat.png\" --data page=home" else message) = _
  rw [dataHint, ← String.append_assoc, ← String.append_assoc]

/-- The name of the option stands in the text. -/
def NamesOption (text : List Char) : Prop :=
  "--data".toList <:+: text

theorem Fault.mentionsData_iff {message : String} :
    mentionsData message = true ↔ NamesOption message.toList :=
  contains_iff_infix

theorem namesOption_iff {text : List Char} :
    NamesOption text ↔ contains "--data".toList text = true :=
  contains_iff_infix.symm

theorem NamesOption.append {text : List Char} (h : NamesOption text) (more : List Char) :
    NamesOption (text ++ more) :=
  h.trans (List.prefix_append text more).isInfix

/-- Every fault of a pair has the option in its label. -/
theorem DataFault.namesOption_message (fault : DataFault) : NamesOption fault.message.toList := by
  cases fault with
  | missingEquals pair =>
    have hlabel : NamesOption "Invalid --data pair: ".toList := namesOption_iff.mpr rfl
    show NamesOption ("Invalid --data pair: " ++ pair).toList
    rw [String.toList_append]
    exact hlabel.append pair.toList
  | emptyKey pair =>
    have hlabel : NamesOption "Invalid --data pair (empty key): ".toList := namesOption_iff.mpr rfl
    show NamesOption ("Invalid --data pair (empty key): " ++ pair).toList
    rw [String.toList_append]
    exact hlabel.append pair.toList

/-- Quotes keep a name apart from what stands around it. -/
theorem namesOption_quoted_iff {label : List Char}
    (hlabel : contains "--data".toList label = false) (name rest : List Char) :
    NamesOption (label ++ '\x27' :: (name ++ '\x27' :: rest)) ↔
      NamesOption name ∨ NamesOption rest := by
  have hquote : '\x27' ∉ "--data".toList := by decide
  rw [← Bool.not_eq_true, contains_iff_infix] at hlabel
  rw [NamesOption, infix_append_mark_iff hquote, infix_append_mark_iff hquote]
  exact or_iff_right hlabel

namespace NameFault

/-- The names quoted in the message. -/
def names : NameFault → List String
  | .badType type => [type]
  | .badAttribute word type => [word, type]
  | .strayDefault word type => [word, type]

/-- The option stands in the message of a fault when it stands in a name. -/
theorem namesOption_message_iff (fault : NameFault) :
    NamesOption fault.message.toList ↔ ∃ name ∈ fault.names, NamesOption name.toList := by
  have hnil : ¬ NamesOption [] := by simp [NamesOption]
  cases fault with
  | badType type =>
    have hmessage : (badType type).message.toList =
        "Invalid tag type name: ".toList ++ '\x27' :: (type.toList ++ '\x27' :: []) := by
      show ("Invalid tag type name: '" ++ type ++ "'").toList = _
      simp
    rw [hmessage, namesOption_quoted_iff rfl, or_iff_left hnil]
    simp [names]
  | badAttribute word type =>
    have hmessage : (badAttribute word type).message.toList =
        "Invalid attribute name ".toList ++ '\x27' :: (word.toList ++ '\x27' ::
          (" for tag type ".toList ++ '\x27' :: (type.toList ++ '\x27' :: []))) := by
      show ("Invalid attribute name '" ++ word ++ "' for tag type '" ++ type ++ "'").toList = _
      simp
    rw [hmessage, namesOption_quoted_iff rfl, namesOption_quoted_iff rfl, or_iff_left hnil]
    simp [names]
  | strayDefault word type =>
    have hmessage : (strayDefault word type).message.toList =
        "Default for undeclared attribute ".toList ++ '\x27' :: (word.toList ++ '\x27' ::
          (" in tag type ".toList ++ '\x27' :: (type.toList ++ '\x27' :: []))) := by
      show ("Default for undeclared attribute '" ++ word ++ "' in tag type '" ++ type ++
        "'").toList = _
      simp
    rw [hmessage, namesOption_quoted_iff rfl, namesOption_quoted_iff rfl, or_iff_left hnil]
    simp [names]

end NameFault

/-! ## Shown faults -/

theorem Fault.append_dataHint_ne (message : String) : message ++ dataHint ≠ message := by
  intro h
  have hnil := congrArg String.toList h
  rw [String.toList_append, List.append_right_eq_self, String.toList_eq_nil_iff] at hnil
  exact absurd hnil (by decide)

theorem Fault.display_config_eq_hint_iff {message : String} :
    (Fault.config message).display = message ++ dataHint ↔ NamesOption message.toList := by
  rw [display_config, ← Fault.mentionsData_iff]
  split
  · rename_i h
    exact iff_of_true rfl h
  · rename_i h
    exact iff_of_false (append_dataHint_ne message).symm h

theorem Fault.display_config_eq_self_iff {message : String} :
    (Fault.config message).display = message ↔ ¬ NamesOption message.toList := by
  rw [display_config, ← Fault.mentionsData_iff]
  split
  · rename_i h
    exact iff_of_false (append_dataHint_ne message) (not_not_intro h)
  · rename_i h
    exact iff_of_true rfl h

/-- The fault in the names of the configuration that a text describes. -/
def Config.nameFault? (text : String) : Option NameFault :=
  (Toml.read text).bind fun entries => (ofEntries entries).toOption.bind Config.fault?

/-- A text for a configuration is refused with a message of its own when a name in it is at fault. -/
theorem Config.read_eq_config_iff {text message : String} :
    Config.read text = .error (.config message) ↔
      ∃ fault, nameFault? text = some fault ∧ message = fault.message := by
  rw [read, nameFault?]
  cases Toml.read text with
  | none => simp
  | some entries =>
    cases hshape : ofEntries entries with
    | error fault => simp [hshape, Except.toOption]
    | ok config =>
      cases hfault : config.fault? with
      | none => simp [hshape, hfault, Except.toOption]
      | some fault => simp [hshape, hfault, Except.toOption, NameFault.toFault, eq_comm]

/-- A fault of a pair is shown with the hint. So is a fault of a name in a configuration when the
option stands in a name that is quoted, and any other is shown by its message alone. -/
theorem display_hint (pairs : List String) (text : String) :
    (∀ fault, dataBag pairs = .error fault →
      fault.toFault.display = fault.message ++ Fault.dataHint) ∧
    (∀ message, Config.read text = .error (.config message) →
      ∃ fault : NameFault, Config.nameFault? text = some fault ∧ message = fault.message ∧
        ((Fault.config message).display = message ++ Fault.dataHint ↔
          ∃ name ∈ fault.names, NamesOption name.toList) ∧
        ((Fault.config message).display = message ↔
          ∀ name ∈ fault.names, ¬ NamesOption name.toList)) := by
  constructor
  · intro fault _
    exact Fault.display_config_eq_hint_iff.mpr fault.namesOption_message
  · intro message h
    obtain ⟨fault, hfault, rfl⟩ := Config.read_eq_config_iff.mp h
    refine ⟨fault, hfault, rfl, ?_, ?_⟩
    · rw [Fault.display_config_eq_hint_iff, fault.namesOption_message_iff]
    · rw [Fault.display_config_eq_self_iff, fault.namesOption_message_iff]
      simp only [not_exists, not_and]

/-- A bad pair, and two types that are not to be named so: one of them is shown as it is refused, the
other is called by the name of the option. -/
theorem display_hint_types :
    ∃ bare hinted : String,
      dataBag ["page"] = .error (.missingEquals "page") ∧
      (DataFault.missingEquals "page").toFault.display =
        (DataFault.missingEquals "page").message ++ Fault.dataHint ∧
      Config.read "[types.' a']" = .error (.config bare) ∧
      (Fault.config bare).display = bare ∧
      Config.read "[types.' --data']" = .error (.config hinted) ∧
      (Fault.config hinted).display = hinted ++ Fault.dataHint := by
  have hpair : dataBag ["page"] = .error (.missingEquals "page") := by rfl
  have hplain : Config.nameFault? "[types.' a']" = some (.badType " a") := by cbv
  have hoption : Config.nameFault? "[types.' --data']" = some (.badType " --data") := by cbv
  obtain ⟨bare, hbare⟩ : ∃ message, Config.read "[types.' a']" = .error (.config message) :=
    ⟨_, Config.read_eq_config_iff.mpr ⟨_, hplain, rfl⟩⟩
  obtain ⟨hinted, hhinted⟩ : ∃ message,
      Config.read "[types.' --data']" = .error (.config message) :=
    ⟨_, Config.read_eq_config_iff.mpr ⟨_, hoption, rfl⟩⟩
  obtain ⟨hdata, hconfig⟩ := display_hint ["page"] "[types.' a']"
  refine ⟨bare, hinted, hpair, hdata _ hpair, hbare, ?_, hhinted, ?_⟩
  · obtain ⟨fault, hfault, -, -, hself⟩ := hconfig _ hbare
    rw [hplain] at hfault
    cases hfault
    refine hself.mpr (List.forall_mem_singleton.mpr ?_)
    rw [namesOption_iff]
    decide
  · obtain ⟨fault, hfault, -, hhint, -⟩ := (display_hint [] "[types.' --data']").2 _ hhinted
    rw [hoption] at hfault
    cases hfault
    exact hhint.mpr ⟨" --data", List.mem_singleton_self _, namesOption_iff.mpr rfl⟩

/-- A configuration is refused for a name, and what is shown of it is not its message alone. -/
def RefusedWithHint (text : String) : Prop :=
  ∃ message, Config.read text = .error (.config message) ∧
    (Fault.config message).display = message ++ Fault.dataHint ∧
    (Fault.config message).display ≠ message

theorem refusedWithHint_of_name {text name : String} {fault : NameFault}
    (hfault : Config.nameFault? text = some fault) (hname : name ∈ fault.names)
    (hoption : contains "--data".toList name.toList = true) : RefusedWithHint text := by
  have hnames : NamesOption fault.message.toList :=
    fault.namesOption_message_iff.mpr ⟨name, hname, namesOption_iff.mpr hoption⟩
  refine ⟨fault.message, Config.read_eq_config_iff.mpr ⟨fault, hfault, rfl⟩, ?_, ?_⟩
  · exact Fault.display_config_eq_hint_iff.mpr hnames
  · rw [ne_eq, Fault.display_config_eq_self_iff, not_not]
    exact hnames

/-- The name of a type, the name of an attribute and a stray default bring the hint up. -/
theorem hint_for_names :
    RefusedWithHint "[types.' --data']" ∧
      RefusedWithHint "[types.t]\nattributes = ['--data x']" ∧
      RefusedWithHint "[types.t.defaults]\n--data = ''" := by
  have htype : Config.nameFault? "[types.' --data']" = some (.badType " --data") := by cbv
  have hattribute : Config.nameFault? "[types.t]\nattributes = ['--data x']" =
      some (.badAttribute "--data x" "t") := by cbv
  have hdefault : Config.nameFault? "[types.t.defaults]\n--data = ''" =
      some (.strayDefault "--data" "t") := by cbv
  exact ⟨refusedWithHint_of_name htype List.mem_cons_self rfl,
    refusedWithHint_of_name hattribute List.mem_cons_self rfl,
    refusedWithHint_of_name hdefault List.mem_cons_self rfl⟩

end InlineTag
