import Mathlib
import InlineTag.Data
import InlineTag.Display
import InlineTag.Service
import InlineTag.Proofs.QuotedTexts
import InlineTag.Proofs.Reading
import InlineTag.Proofs.WrittenStrings

/-!
# InlineTag.Proofs.Displays

What the display of a tag tells. Its type has no colon in it and its value stands in quotes, so both
can be cut off in front. Behind them stands one line for each attribute and each entry of the data,
and a line says where it ends, whatever text it shows.

* `Tag.toList_display`: the display, part by part.
* `Tag.selfDelimiting_attrLine` and `Tag.selfDelimiting_dataLine`: a line can be cut off in front,
  and tells the name and the text or value.
* `Tag.Printable.eq_of_display`: tags with the same display agree in all that it shows.
* `Tag.display_eq_iff`: so it is for the tags that reading gives with data of a command line.
-/

namespace InlineTag

open Text Toml

/-! ## The lines of a tag -/

/-- The line of a name and what is written behind it. -/
def entryLine (name : String) (shown : List Char) : List Char :=
  ' ' :: ' ' :: (name.toList ++ ' ' :: '=' :: ' ' :: (shown ++ ['\n']))

theorem entryLine_eq (name shown : String) :
    ("  " ++ name ++ " = " ++ shown ++ "\n").toList = entryLine name shown.toList := by
  have hindent : "  ".toList = [' ', ' '] := rfl
  have hequals : " = ".toList = [' ', '=', ' '] := rfl
  have hnewline : "\n".toList = ['\n'] := rfl
  simp only [String.toList_append, hindent, hequals, hnewline, entryLine, List.append_assoc,
    List.cons_append, List.nil_append]

namespace Tag

def attrLine (entry : String × String) : List Char :=
  entryLine entry.1 (quoted entry.2).toList

def dataLine (entry : String × Value) : List Char :=
  entryLine entry.1 entry.2.text.toList

/-- What stands behind `attrs:`. -/
def attrBlock : List (String × String) → List Char
  | [] => [' ', '(', 'n', 'o', 'n', 'e', ')', '\n']
  | entry :: rest => '\n' :: (entry :: rest).flatMap attrLine

def dataBlock : List (String × Value) → List Char
  | [] => []
  | entry :: rest => "data:\n".toList ++ (entry :: rest).flatMap dataLine

theorem toList_attrLines (tag : Tag) : (String.join (tag.attrLines.map (· ++ "\n"))).toList =
    "attrs:".toList ++ attrBlock tag.attrs.entries := by
  rw [attrLines]
  generalize tag.attrs.entries = entries
  cases entries with
  | nil => rfl
  | cons entry rest =>
    rw [List.map_cons, List.map_map, String.toList_join, List.flatMap_cons, List.flatMap_map,
      String.toList_append, List.append_assoc, attrBlock]
    simp only [Function.comp_apply, entryLine_eq]
    rfl

theorem toList_dataLines (tag : Tag) : (String.join (tag.dataLines.map (· ++ "\n"))).toList =
    dataBlock tag.data.entries := by
  rw [dataLines]
  generalize tag.data.entries = entries
  cases entries with
  | nil => rfl
  | cons entry rest =>
    rw [List.map_cons, List.map_map, String.toList_join, List.flatMap_cons, List.flatMap_map,
      String.toList_append, dataBlock]
    simp only [Function.comp_apply, entryLine_eq]
    rfl

theorem toList_display (tag : Tag) : tag.display.toList =
    "type: ".toList ++ ((tag.type.toList ++ "\nvalue".toList) ++ ':' :: ' ' ::
      ((quoted tag.value).toList ++ '\n' :: ("attrs:".toList ++
        (attrBlock tag.attrs.entries ++ dataBlock tag.data.entries)))) := by
  rw [display, lines, List.map_cons, List.map_cons, List.map_append, ← toList_dataLines,
    ← List.append_assoc "attrs:".toList, ← toList_attrLines]
  have hvalue : "value: ".toList = "value".toList ++ [':', ' '] := rfl
  have hline : "\nvalue".toList = '\n' :: "value".toList := rfl
  have hnewline : "\n".toList = ['\n'] := rfl
  simp only [String.toList_join, List.flatMap_cons, List.flatMap_append, String.toList_append,
    hvalue, hline, hnewline, List.append_assoc, List.cons_append, List.nil_append]

end Tag

/-! ## What a line tells -/

theorem append_mark_inj {mark : Char} {front other rest more : List Char} (hfront : mark ∉ front)
    (hother : mark ∉ other) (h : front ++ mark :: rest = other ++ mark :: more) :
    front = other ∧ rest = more := by
  have hcut := congrArg (cutAt mark) h
  rw [cutAt_append hfront, cutAt_append hother, Option.some.injEq, Prod.mk.injEq] at hcut
  exact hcut

theorem entryLine_append (name : String) (shown rest : List Char) :
    entryLine name shown ++ rest =
      ' ' :: ' ' :: (name.toList ++ ' ' :: '=' :: ' ' :: (shown ++ '\n' :: rest)) := by
  simp [entryLine]

theorem Toml.selfDelimiting_string : SelfDelimiting (fun _ => True)
    fun text : String => stringText text.toList ++ ['\n'] := by
  intro a b front back _ _ h
  have hends (rest : List Char) : StartsUnquoted ('\n' :: rest) := by
    rintro quote hquote ⟨⟩
    cases hquote
  have hread := congrArg string h
  rw [List.append_assoc, List.append_assoc, List.singleton_append, List.singleton_append,
    string_stringText _ (hends front), string_stringText _ (hends back), String.ofList_toList,
    String.ofList_toList, Option.some.injEq, Prod.mk.injEq, List.cons.injEq] at hread
  exact ⟨hread.1, hread.2.2⟩

namespace Tag

/-- An entry whose key and text come from a pair of the command line. -/
def FromPair (entry : String × Value) : Prop :=
  '=' ∉ entry.1.toList ∧ ∃ text, entry.2 = .string text

theorem selfDelimiting_attrLine :
    SelfDelimiting (fun entry => IsWord entry.1.toList) attrLine := by
  rintro ⟨name, text⟩ ⟨other, shown⟩ front back hword hother h
  rw [attrLine, attrLine, entryLine_append, entryLine_append, List.cons.injEq,
    List.cons.injEq] at h
  obtain ⟨hname, htext⟩ := append_mark_inj (hword.blank_not_mem isBlank_space)
    (hother.blank_not_mem isBlank_space) h.2.2
  rw [List.cons.injEq, List.cons.injEq] at htext
  obtain ⟨hshown, hends⟩ := selfDelimiting_quoted text shown _ _ trivial trivial htext.2.2
  cases String.toList_injective hname
  cases hshown
  exact ⟨rfl, (List.cons.inj hends).2⟩

theorem toList_text_string (text : String) :
    (Value.text (.string text)).toList = stringText text.toList := by
  rw [Value.text, Value.written, String.toList_ofList]
  simp

theorem selfDelimiting_dataLine : SelfDelimiting FromPair dataLine := by
  rintro ⟨key, value⟩ ⟨other, found⟩ front back ⟨hkey, text, htext⟩ ⟨hother, shown, hshown⟩ h
  subst htext
  subst hshown
  have hequals (name : String) (hname : '=' ∉ name.toList) : '=' ∉ name.toList ++ [' '] := by
    simpa using hname
  have hsplit (name : String) (rest : List Char) : name.toList ++ ' ' :: '=' :: ' ' :: rest =
      (name.toList ++ [' ']) ++ '=' :: ' ' :: rest := by simp
  rw [dataLine, dataLine, entryLine_append, entryLine_append, List.cons.injEq,
    List.cons.injEq, hsplit, hsplit] at h
  obtain ⟨hname, hrest⟩ := append_mark_inj (hequals key hkey) (hequals other hother) h.2.2
  have hname : key = other := String.toList_injective (List.append_cancel_right hname)
  rw [List.cons.injEq, toList_text_string, toList_text_string] at hrest
  have hline (text rest : List Char) : text ++ '\n' :: rest = (text ++ ['\n']) ++ rest := by simp
  rw [hline, hline (stringText shown.toList)] at hrest
  obtain ⟨rfl, hends⟩ := selfDelimiting_string text shown _ _ trivial trivial hrest.2
  cases hname
  exact ⟨rfl, hends⟩

/-! ## What a display tells -/

/-- A tag whose display can be taken apart. -/
structure Printable (tag : Tag) : Prop where
  type : ':' ∉ tag.type.toList
  names : ∀ entry ∈ tag.attrs.entries, IsWord entry.1.toList
  data : ∀ entry ∈ tag.data.entries, FromPair entry

theorem head?_dataBlock (entries : List (String × Value)) :
    (dataBlock entries).head? ≠ some ' ' := by
  cases entries with
  | nil => simp [dataBlock]
  | cons entry rest =>
    have hhead : "data:\n".toList = 'd' :: "ata:\n".toList := rfl
    rw [dataBlock, hhead]
    simp

theorem attrBlock_inj {attrs others : List (String × String)} {data found : List (String × Value)}
    (hattrs : ∀ entry ∈ attrs, IsWord entry.1.toList)
    (hothers : ∀ entry ∈ others, IsWord entry.1.toList)
    (h : attrBlock attrs ++ dataBlock data = attrBlock others ++ dataBlock found) :
    attrs = others ∧ dataBlock data = dataBlock found := by
  have hends (entries : List (String × Value)) (entry : String × String) (rest : List Char)
      (_ : IsWord entry.1.toList) : attrLine entry ++ rest ≠ dataBlock entries := by
    intro heq
    exact head?_dataBlock entries (by rw [← heq]; rfl)
  cases attrs with
  | nil =>
    cases others with
    | nil => exact ⟨rfl, List.append_cancel_left h⟩
    | cons entry rest => simp [attrBlock] at h
  | cons entry rest =>
    cases others with
    | nil => simp [attrBlock] at h
    | cons other more =>
      rw [attrBlock, attrBlock, List.cons_append, List.cons_append, List.cons.injEq] at h
      exact selfDelimiting_attrLine.flatMap (hends data) (hends found) hattrs hothers h.2

theorem dataBlock_inj {data found : List (String × Value)}
    (hdata : ∀ entry ∈ data, FromPair entry) (hfound : ∀ entry ∈ found, FromPair entry)
    (h : dataBlock data = dataBlock found) : data = found := by
  have hends (entry : String × Value) (rest : List Char) (_ : FromPair entry) :
      dataLine entry ++ rest ≠ [] := by
    simp [dataLine, entryLine]
  cases data with
  | nil =>
    cases found with
    | nil => rfl
    | cons entry rest => simp [dataBlock] at h
  | cons entry rest =>
    cases found with
    | nil => simp [dataBlock] at h
    | cons other more =>
      rw [dataBlock, dataBlock] at h
      have hlines := List.append_cancel_left h
      rw [← List.append_nil ((entry :: rest).flatMap dataLine),
        ← List.append_nil ((other :: more).flatMap dataLine)] at hlines
      exact (selfDelimiting_dataLine.flatMap hends hends hdata hfound hlines).1

theorem Printable.eq_of_display {tag other : Tag} (htag : tag.Printable)
    (hother : other.Printable) (h : tag.display = other.display) :
    tag.type = other.type ∧ tag.value = other.value ∧ tag.attrs = other.attrs ∧
      tag.data = other.data := by
  have hcolon (name : String) (hname : ':' ∉ name.toList) :
      ':' ∉ name.toList ++ "\nvalue".toList := by
    rw [List.mem_append, not_or]
    exact ⟨hname, by decide⟩
  have hlists := congrArg String.toList h
  rw [toList_display, toList_display] at hlists
  obtain ⟨htype, hrest⟩ := append_mark_inj (hcolon tag.type htag.type)
    (hcolon other.type hother.type) (List.append_cancel_left hlists)
  rw [List.cons.injEq] at hrest
  obtain ⟨hvalue, hrest⟩ := selfDelimiting_quoted _ _ _ _ trivial trivial hrest.2
  rw [List.cons.injEq] at hrest
  obtain ⟨hattrs, hblock⟩ := attrBlock_inj htag.names hother.names
    (List.append_cancel_left hrest.2)
  have hdata := dataBlock_inj htag.data hother.data hblock
  exact ⟨String.toList_injective (List.append_cancel_right htype), hvalue,
    NameMap.ext_entries hattrs, NameMap.ext_entries hdata⟩

theorem display_congr {tag other : Tag} (htype : tag.type = other.type)
    (hvalue : tag.value = other.value) (hattrs : tag.attrs = other.attrs)
    (hdata : tag.data = other.data) : tag.display = other.display := by
  rw [display, display, lines, lines, attrLines, attrLines, dataLines, dataLines, htype, hvalue,
    hattrs, hdata]

end Tag

/-! ## Data of the command line -/

theorem fromPair_of_splitPair {pair key text : String} (h : splitPair pair = .ok (key, text)) :
    Tag.FromPair (key, .string text) := by
  rw [splitPair] at h
  split at h
  · cases h
  · rename_i front rest hcut
    split at h
    · cases h
    · cases h
      refine ⟨fun hmem => ?_, _, rfl⟩
      rw [String.toList_ofList] at hmem
      exact (cutAt_some hcut).2 (mem_of_mem_trim hmem)

theorem fromPair_of_addPairs {bag data : Bag} {pairs : List String}
    (h : addPairs bag pairs = .ok data) (hbag : ∀ entry ∈ bag.entries, Tag.FromPair entry) :
    ∀ entry ∈ data.entries, Tag.FromPair entry := by
  induction pairs generalizing bag with
  | nil =>
    cases h
    exact hbag
  | cons pair pairs ih =>
    rw [addPairs] at h
    split at h
    · cases h
    · rename_i key text hpair
      refine ih h fun entry hentry => ?_
      rcases NameMap.mem_insertEntry hentry with rfl | hentry
      · exact fromPair_of_splitPair hpair
      · exact hbag entry hentry

namespace Tag

/-- A tag that `parse` gives with data from pairs of the command line. -/
def Parsed (tag : Tag) : Prop :=
  ∃ config raw pairs data, dataBag pairs = .ok data ∧
    (Service.ofConfig config).parse raw data = .ok tag

theorem Parsed.printable {tag : Tag} (h : tag.Parsed) : tag.Printable := by
  obtain ⟨config, raw, pairs, data, hpairs, hparse⟩ := h
  have hok : config.registry.parse raw data config.options = .ok tag := by
    rw [Service.parse, Service.ofConfig] at hparse
    cases hresult : config.registry.parse raw data config.options with
    | error fault =>
      rw [hresult] at hparse
      cases hparse
    | ok found =>
      rw [hresult] at hparse
      cases hparse
      rfl
  have hreads := reads_parse config.registry raw data config.options
  rw [hok] at hreads
  cases hreads with
  | @known name text type _ hsplits hsome htype hread hdata hoptions =>
    refine ⟨?_, ?_, ?_⟩
    · obtain ⟨front, hname, hfront⟩ := hsplits
      have hcolon : ':' ∉ front := by
        rcases hfront with ⟨-, hcolon⟩ | ⟨-, hcolon, -⟩ <;> exact hcolon
      rw [htype, hname, String.toList_ofList]
      exact fun hmem => hcolon (mem_of_mem_trim hmem)
    · rintro ⟨word, content⟩ hentry
      obtain ⟨i, hmark⟩ := (hread.names word).mp ⟨content, NameMap.get?_eq_some_iff.mpr hentry⟩
      exact hmark.isWord
    · rw [hdata]
      exact fromPair_of_addPairs hpairs (by simp [NameMap.empty])

/-- The display of a parsed tag tells its type, its value, its attributes and its data, and nothing
else. -/
theorem display_eq_iff {tag other : Tag} (htag : tag.Parsed) (hother : other.Parsed) :
    tag.display = other.display ↔ tag.type = other.type ∧ tag.value = other.value ∧
      tag.attrs = other.attrs ∧ tag.data = other.data := by
  constructor
  · exact htag.printable.eq_of_display hother.printable
  · rintro ⟨htype, hvalue, hattrs, hdata⟩
    exact display_congr htype hvalue hattrs hdata

/-- A text of the data that looks like the end of its line and a further entry is told apart from
two entries. -/
theorem display_eq_iff_forged : ∃ tag other : Tag, tag.Parsed ∧ other.Parsed ∧
    tag.data.get? "y" = none ∧ other.data.get? "y" = some (.string "2") ∧
    tag.display ≠ other.display := by
  let config : Config := { types := NameMap.ofList [("t", {})] }
  let forged : Bag := NameMap.ofList [("x", .string "1\"\n  y = \"2")]
  let honest : Bag := NameMap.ofList [("x", .string "1"), ("y", .string "2")]
  let tag (data : Bag) : Tag := { type := "t", value := "v", data }
  have hforged : (tag forged).Parsed :=
    ⟨config, "t: v", ["x=1\"\n  y = \"2"], forged, by rfl, by cbv⟩
  have hhonest : (tag honest).Parsed :=
    ⟨config, "t: v", ["x=1", "y=2"], honest, by rfl, by cbv⟩
  refine ⟨tag forged, tag honest, hforged, hhonest, by rfl, by rfl, fun h => ?_⟩
  have hdata : forged = honest := ((display_eq_iff hforged hhonest).mp h).2.2.2
  have hnone : honest.get? "y" = none := hdata ▸ (by rfl : forged.get? "y" = none)
  cases hnone

end Tag
end InlineTag
