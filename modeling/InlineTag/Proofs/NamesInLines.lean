import Mathlib
import InlineTag.Display
import InlineTag.Proofs.Configured
import InlineTag.Proofs.Validity

/-!
# InlineTag.Proofs.NamesInLines

How the names of a configuration stand in what is printed. The name of an attribute has no white
space in it and never breaks a line. The name of a type has none at its ends, but may have some
inside, and the list of the types and the display of a tag break where a newline is among it.

* `TypeSummary.count_newline_list`: the newlines of the list.
* `Tag.typeLine_iff`: the line that shows the type of a tag.
* `Config.names_in_lines`: the names of a configuration that was read, and the lines they make.
-/

namespace InlineTag

open Text

/-- The display of a tag begins with a line that shows the whole of its type. -/
def Tag.TypeLine (tag : Tag) : Prop :=
  ∃ rest, cutAt '\n' tag.display.toList = some (("type: " ++ tag.type).toList, rest)

theorem Tag.typeLine_iff {tag : Tag} : tag.TypeLine ↔ '\n' ∉ tag.type.toList := by
  have hlabel : '\n' ∉ "type: ".toList := by decide
  constructor
  · rintro ⟨rest, hcut⟩ hmem
    refine (cutAt_some hcut).2 ?_
    rw [String.toList_append]
    exact List.mem_append_right _ hmem
  · intro htype
    have hline : '\n' ∉ ("type: " ++ tag.type).toList := by
      rw [String.toList_append, List.mem_append]
      exact not_or.mpr ⟨hlabel, htype⟩
    have hdisplay : tag.display.toList = ("type: " ++ tag.type).toList ++ '\n' ::
        (String.join (tag.lines.tail.map (· ++ "\n"))).toList := by
      simp [display, lines, String.toList_join]
    exact ⟨_, hdisplay ▸ cutAt_append hline _⟩

/-! ## The list of the types -/

theorem not_mem_intercalate {mark : Char} {separator : List Char} {texts : List (List Char)}
    (hseparator : mark ∉ separator) (htexts : ∀ text ∈ texts, mark ∉ text) :
    mark ∉ separator.intercalate texts := by
  induction texts with
  | nil => simp
  | cons text rest ih =>
    have htext := htexts text List.mem_cons_self
    cases rest with
    | nil => rwa [List.intercalate_singleton]
    | cons next rest =>
      have hrest := ih fun other hmem => htexts other (List.mem_cons_of_mem _ hmem)
      rw [List.intercalate_cons_cons, List.mem_append, List.mem_append]
      exact not_or.mpr ⟨not_or.mpr ⟨htext, hseparator⟩, hrest⟩

namespace TypeSummary

theorem newline_not_mem_attributeText {summary : TypeSummary}
    (h : ∀ word ∈ summary.attributes, '\n' ∉ word.toList) :
    '\n' ∉ summary.attributeText.toList := by
  rw [attributeText]
  split
  · decide
  · rw [String.toList_intercalate]
    refine not_mem_intercalate (by decide) ?_
    intro text hmem
    obtain ⟨word, hword, rfl⟩ := List.mem_map.mp hmem
    exact h word hword

theorem count_newline_row (width : Nat) {summary : TypeSummary}
    (h : ∀ word ∈ summary.attributes, '\n' ∉ word.toList) :
    (summary.row width).toList.count '\n' = summary.name.toList.count '\n' + 1 := by
  have hpadding : ∀ n, (List.replicate n ' ').count '\n' = 0 := by
    intro n
    rw [List.count_replicate]
    rfl
  have hattributes := List.count_eq_zero.mpr (newline_not_mem_attributeText h)
  have hmark : (if summary.renderable then "" else "  (no handler)").toList.count '\n' = 0 := by
    split <;> decide
  simp only [row, String.toList_append, String.toList_ofList, List.count_append, hpadding,
    hattributes, hmark]
  rfl

theorem count_newline_join (width : Nat) {summaries : List TypeSummary}
    (h : ∀ summary ∈ summaries, ∀ word ∈ summary.attributes, '\n' ∉ word.toList) :
    (String.join (summaries.map (row width))).toList.count '\n' =
      (summaries.map fun summary => summary.name.toList.count '\n').sum + summaries.length := by
  induction summaries with
  | nil => rfl
  | cons summary rest ih =>
    have hrow := count_newline_row width (h summary List.mem_cons_self)
    have hrest := ih fun summary hmem => h summary (List.mem_cons_of_mem _ hmem)
    simp only [String.toList_join] at hrest ⊢
    simp only [List.map_cons, List.flatMap_cons, List.count_append, List.sum_cons,
      List.length_cons, hrow, hrest]
    omega

/-- The list has a line for each type, and one more for each newline in a name. -/
theorem count_newline_list {summaries : List TypeSummary}
    (h : ∀ summary ∈ summaries, ∀ word ∈ summary.attributes, '\n' ∉ word.toList) :
    (list summaries).toList.count '\n' =
      (summaries.map fun summary => summary.name.toList.count '\n').sum + summaries.length := by
  rw [list]
  split
  · rename_i hempty
    rw [List.isEmpty_iff.mp hempty]
    decide
  · exact count_newline_join _ h

end TypeSummary

/-! ## The names of a configuration -/

namespace Config

variable {source : String} {config : Config}

theorem summaries_eq (config : Config) :
    config.summaries = config.types.entries.map fun entry =>
      TypeSummary.ofType (entry.2.tagType entry.1) := by
  rw [summaries, Registry.summaries, entries_registry, List.map_map]
  rfl

theorem newline_not_mem_summary (hread : Config.read source = .ok config) {summary : TypeSummary}
    (hmem : summary ∈ config.summaries) : ∀ word ∈ summary.attributes, '\n' ∉ word.toList := by
  rw [summaries_eq] at hmem
  obtain ⟨⟨name, type⟩, hentry, rfl⟩ := List.mem_map.mp hmem
  have hvalid := valid_of_read hread (NameMap.get?_eq_some_iff.mpr hentry)
  intro word hword
  exact (hvalid.words word (mem_firstOccurrences.mp hword)).blank_not_mem (by decide)

/-- What is known of the names of a configuration that was read. The name of a type is one for a
source, and it is a word as the names of the attributes are unless white space stands inside it. The
list of the types has a line for each of them unless a newline stands in a name, and the display of
a tag has a line for its type unless a newline stands in it. -/
theorem names_in_lines (hread : Config.read source = .ok config) :
    (∀ name type, config.types.get? name = some type → type.Valid name ∧
      (IsWord name.toList ↔ ∀ c ∈ name.toList, isBlank c = false)) ∧
    ((TypeSummary.list config.summaries).toList.count '\n' = config.types.size ↔
      ∀ name ∈ config.types.names, '\n' ∉ name.toList) ∧
    (∀ tag : Tag, tag.TypeLine ↔ '\n' ∉ tag.type.toList) := by
  refine ⟨?_, ?_, fun tag => Tag.typeLine_iff⟩
  · intro name type hget
    have hvalid := valid_of_read hread hget
    refine ⟨hvalid, ?_⟩
    constructor
    · intro hword c hc
      exact (isWordChar_iff.mp (hword.chars c hc)).1
    · intro hsolid
      refine ⟨fun hnil => hvalid.name_ne (String.toList_eq_nil_iff.mp hnil), ?_⟩
      intro c hc
      refine isWordChar_iff.mpr ⟨hsolid c hc, ?_⟩
      rintro rfl
      exact hvalid.name_no_colon hc
  · have hcount := TypeSummary.count_newline_list fun _ hmem => newline_not_mem_summary hread hmem
    have hsize : config.summaries.length = config.types.size := by
      rw [summaries_eq, List.length_map, NameMap.size]
    have hnames : (config.summaries.map fun summary => summary.name.toList.count '\n') =
        config.types.names.map fun name => name.toList.count '\n' := by
      rw [summaries_eq, List.map_map, NameMap.names, List.map_map]
      rfl
    rw [hcount, hsize, hnames, Nat.add_eq_right, List.sum_eq_zero_iff]
    simp [List.count_eq_zero]

/-- A space inside the name of a type makes it no word, and breaks no line. -/
theorem names_in_lines_spaced :
    ∃ config : Config, read "[types.'a b']\nattributes = ['x', 'y']" = .ok config ∧
      ¬ IsWord "a b".toList ∧
      (TypeSummary.list config.summaries).toList.count '\n' = config.types.size := by
  let spaced : TypeConfig := { attributes := ["x", "y"] }
  let config : Config := { types := NameMap.ofList [("a b", spaced)] }
  have hread : read "[types.'a b']\nattributes = ['x', 'y']" = .ok config := by cbv
  have hget : config.types.get? "a b" = some spaced := by rfl
  have hnewline : ∀ name ∈ config.types.names, '\n' ∉ name.toList := by decide
  obtain ⟨hnames, hlist, -⟩ := names_in_lines hread
  refine ⟨config, hread, ?_, hlist.mpr hnewline⟩
  intro hword
  have hspace := (hnames "a b" spaced hget).2.mp hword ' ' (by decide)
  rw [isBlank_space] at hspace
  cases hspace

/-- A name with a newline inside is accepted, and breaks the list and the display of a tag. -/
theorem name_breaks_lines :
    ∃ (config : Config) (tag : Tag), read "[types.\"a\\nb\"]" = .ok config ∧
      "a\nb" ∈ config.types.names ∧ '\n' ∈ "a\nb".toList ∧ isBlank '\n' = true ∧
      TypeSummary.list config.summaries = "a\nb  -  (no handler)\n" ∧
      config.parse "a\nb: v" NameMap.empty = .ok tag ∧
      tag.display = "type: a\nb\nvalue: \"v\"\nattrs: (none)\n" := by
  let config : Config := { types := NameMap.ofList [("a\nb", {})] }
  let tag : Tag := { type := "a\nb", value := "v" }
  have hread : read "[types.\"a\\nb\"]" = .ok config := by cbv
  exact ⟨config, tag, hread, by decide, by decide, by decide, by cbv, by cbv, by cbv⟩

end Config
end InlineTag
