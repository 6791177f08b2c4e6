import Mathlib
import InlineTag.Text.Bytes
import InlineTag.Proofs.ByteOrder
import InlineTag.Proofs.Vocabulary

/-!
# InlineTag.Proofs.MarkerSpans

Reading a tag by places in the bytes of its text. A scan finds where each marker begins and ends, and
the value and the texts of the attributes are then cut out of the text between these places. A cut
can fail: there is none between places that are not in order, that are behind the text or that lie
inside a character. No cut does, and the tag is the one that the outline gives.

* `Span`, `spans`: the markers of a text, by their places in its bytes.
* `slice?`, `TagType.cut?`, `Registry.cut?`: reading by cuts.
* `spans_eq`: the scan finds the markers of the outline.
* `Span.Placed`: how a marker stands in the bytes of a text.
* `MarkerAt.apart`: white space stands between two markers.
* `cuts_placed`: every marker is placed, they stand apart, and no cut fails.
-/

namespace InlineTag

open Text Toml

/-- A marker by its places: where its word begins, and where its colon ends. -/
structure Span where
  word : List Char
  start : Nat
  stop : Nat
  deriving DecidableEq, Repr

/-- The markers of a text that stands at some place of a longer one. `atStart` says whether a word
may begin at its front. -/
def spansFrom (declared : List Char → Bool) (atStart : Bool) (place : Nat) (text : List Char) :
    List Span :=
  match text with
  | [] => []
  | c :: rest =>
    if atStart then
      match _h : candidate? (c :: rest) with
      | some (word, after) =>
        let stop := place + byteLength word + 1
        let later := spansFrom declared false stop after
        if declared word then ⟨word, place, stop⟩ :: later else later
      | none => spansFrom declared (isBlank c) (place + c.utf8Size) rest
    else spansFrom declared (isBlank c) (place + c.utf8Size) rest
termination_by text.length
decreasing_by
  · exact candidate?_shorter _h
  · exact Nat.lt_succ_self _
  · exact Nat.lt_succ_self _

/-- The markers of a text, from left to right. -/
def spans (declared : List Char → Bool) (text : List Char) : List Span :=
  spansFrom declared true 0 text

/-- The text between two places; none if they are not in order or not both places of the text. -/
def slice? (text : List Char) (start stop : Nat) : Option (List Char) :=
  if start ≤ stop then bytesBetween start stop text else none

/-- Where the stretch of text in front of the given markers ends. -/
def stretchEnd (text : List Char) : List Span → Nat
  | [] => byteLength text
  | next :: _ => next.start

/-- The markers with the texts behind them, each up to the next marker. -/
def cutFragments? (text : List Char) : List Span → Option (List Fragment)
  | [] => some []
  | span :: rest =>
    (slice? text span.stop (stretchEnd text rest)).bind fun stretch =>
      (cutFragments? text rest).map (⟨span.word, stretch⟩ :: ·)

/-- The tag of a text, cut out of it; none if a cut fails. -/
def TagType.cut? (type : TagType) (name : String) (text : List Char) (data options : Bag) :
    Option Tag :=
  if allBlank text then some { type := name, value := "", data, options }
  else
    (slice? text 0 (stretchEnd text (spans type.declares text))).bind fun lead =>
      (cutFragments? text (spans type.declares text)).map fun fragments =>
        { type := name
          value := String.ofList (clean lead)
          attrs := NameMap.ofList (fragments.map Fragment.entry)
          data, options }

/-- Reads a tag from its source by cuts. -/
def Registry.cut? (registry : Registry) (raw : String) (data options : Bag) :
    Option (Except TagFault Tag) :=
  match registry.lookup (sourceType raw) with
  | none => some (.error (.undefinedType (sourceType raw)))
  | some type => (type.cut? (sourceType raw) (sourceRest raw) data options).map .ok

/-- How a marker stands in the bytes of a text. -/
structure Span.Placed (text : String) (span : Span) : Prop where
  start_lt_stop : span.start < span.stop
  stop_le : span.stop ≤ text.utf8ByteSize
  /-- No place lies inside a character. -/
  start_valid : String.Pos.Raw.IsValid text ⟨span.start⟩
  stop_valid : String.Pos.Raw.IsValid text ⟨span.stop⟩
  word_bytes : ((bytes text).take (span.stop - 1)).drop span.start = bytes (String.ofList span.word)
  colon_byte : (bytes text)[span.stop - 1]? = some ':'.toUInt8
  /-- A marker stands at the start or directly behind white space. -/
  behind : span.start = 0 ∨ ∃ front c back, text.toList = front ++ c :: back ∧
    isBlank c = true ∧ span.start = byteLength (front ++ [c])

/-- The places of a marker that is given by the position of its first character. -/
def Marker.span (text : List Char) (marker : Marker) : Span :=
  ⟨marker.word, byteLength (text.take marker.start),
    byteLength (text.take (marker.start + marker.word.length + 1))⟩

/-! ## Places -/

section Places

variable {text : List Char}

theorem bytes_append (front back : List Char) :
    bytes (String.ofList (front ++ back)) =
      bytes (String.ofList front) ++ bytes (String.ofList back) := by
  simp only [bytes_eq, String.toList_ofList, List.flatMap_append]

theorem length_bytes (text : List Char) : (bytes (String.ofList text)).length = byteLength text := by
  induction text with
  | nil => rfl
  | cons c rest ih =>
    rw [bytes_eq] at ih ⊢
    simp only [String.toList_ofList, List.flatMap_cons, List.length_append,
      String.length_utf8EncodeChar, byteLength] at ih ⊢
    rw [ih]

theorem byteLength_take_lt {i j : Nat} (h : i < j) (hj : j ≤ text.length) :
    byteLength (text.take i) < byteLength (text.take j) := by
  have hsplit : text.take j = text.take i ++ (text.take j).drop i := by
    rw [← List.take_append_drop i (text.take j), List.take_take, Nat.min_eq_left (Nat.le_of_lt h),
      List.drop_append_of_le_length, List.drop_take]
    all_goals simp
    all_goals omega
  cases hrest : (text.take j).drop i with
  | nil =>
    rw [List.drop_eq_nil_iff, List.length_take_of_le hj] at hrest
    omega
  | cons c rest =>
    have hpos := byteLength_cons_ne_zero c rest
    rw [hsplit, hrest, byteLength_append]
    omega

theorem valid_append (front back : List Char) :
    String.Pos.Raw.IsValid (String.ofList (front ++ back)) ⟨byteLength front⟩ := by
  refine String.Pos.Raw.isValid_ofList.mpr ⟨front.length, ?_⟩
  rw [List.take_left, utf8ByteSize_ofList]

theorem Marker.span_append (front word after : List Char) :
    Marker.span (front ++ (word ++ ':' :: after)) ⟨front.length, word⟩ =
      ⟨word, byteLength front, byteLength (front ++ word ++ [':'])⟩ := by
  have hstop : (front ++ (word ++ ':' :: after)).take (front.length + word.length + 1) =
      front ++ word ++ [':'] := by
    rw [List.append_cons, ← List.append_assoc, ← List.append_assoc]
    exact List.take_left' (by simp [Nat.add_assoc])
  rw [Marker.span, List.take_left, hstop]

theorem slice?_append (front part back : List Char) :
    slice? (front ++ (part ++ back)) (byteLength front) (byteLength (front ++ part)) =
      some part := by
  have hle : byteLength front ≤ byteLength (front ++ part) := by
    rw [byteLength_append]
    exact Nat.le_add_right _ _
  rw [slice?, if_pos hle, bytesBetween_append]

end Places

/-! ## The scan -/

section Scan

variable {declared : List Char → Bool} {text : List Char}

theorem spansFrom_of_candidate {c : Char} {rest word after : List Char}
    (h : candidate? (c :: rest) = some (word, after)) (place : Nat) :
    spansFrom declared true place (c :: rest) =
      if declared word then ⟨word, place, place + byteLength word + 1⟩ ::
        spansFrom declared false (place + byteLength word + 1) after
      else spansFrom declared false (place + byteLength word + 1) after := by
  rw [spansFrom, if_pos rfl]
  split
  · rename_i hcand
    rw [h] at hcand
    cases hcand
    rfl
  · rename_i hcand
    rw [h] at hcand
    cases hcand

theorem spansFrom_of_none {atStart : Bool} {c : Char} {rest : List Char}
    (h : atStart = true → candidate? (c :: rest) = none) (place : Nat) :
    spansFrom declared atStart place (c :: rest) =
      spansFrom declared (isBlank c) (place + c.utf8Size) rest := by
  rw [spansFrom]
  split
  · rename_i hstart
    split
    · rename_i hcand
      rw [h hstart] at hcand
      cases hcand
    · rfl
  · rfl

theorem Outline.markersFrom_mark (start : Nat) (word : List Char) (outline : Outline) :
    markersFrom (start + (outline.mark word).lead.length) (outline.mark word).fragments =
      ⟨start, word⟩ :: markersFrom (start + word.length + 1 + outline.lead.length)
        outline.fragments := by
  simp [mark, markersFrom, Fragment.source, Nat.add_assoc, Nat.add_comm, Nat.add_left_comm]

/-- A character that begins no marker is a character more in front of the rest. -/
theorem spansFrom_push {atStart : Bool} {front rest : List Char} {c : Char} {outline : Outline}
    (h : spansFrom declared atStart (byteLength (front ++ [c])) rest =
      (Outline.markersFrom ((front ++ [c]).length + outline.lead.length) outline.fragments).map
        (Marker.span (front ++ [c] ++ rest))) :
    spansFrom declared atStart (byteLength front + c.utf8Size) rest =
      (Outline.markersFrom (front.length + (outline.push c).lead.length)
        (outline.push c).fragments).map (Marker.span (front ++ c :: rest)) := by
  have hplace : byteLength (front ++ [c]) = byteLength front + c.utf8Size := byteLength_append _ _
  rw [hplace, ← List.append_cons] at h
  rw [h]
  simp [Outline.push, Nat.add_right_comm, ← Nat.add_assoc]

/-- The scan finds the markers of the outline. The induction is over the text behind some front,
since all places are places of the whole. -/
theorem spansFrom_eq (declared : List Char → Bool) (atStart : Bool) (front text : List Char) :
    spansFrom declared atStart (byteLength front) text =
      (Outline.markersFrom
        (front.length + ((Outline.scan atStart text).absorb declared).lead.length)
        ((Outline.scan atStart text).absorb declared).fragments).map
          (Marker.span (front ++ text)) := by
  fun_induction Outline.scan atStart text generalizing front with
  | case1 atStart => simp [spansFrom, Outline.absorb, Outline.absorbFragments, Outline.markersFrom]
  | case2 c rest word after hcand ih =>
    have htext := eq_of_candidate? hcand
    have hplace : byteLength (front ++ word ++ [':']) = byteLength front + byteLength word + 1 := by
      rw [byteLength_append, byteLength_append]
      rfl
    have hwhole : front ++ word ++ [':'] ++ after = front ++ (word ++ ':' :: after) := by simp
    have hafter := ih (front ++ word ++ [':'])
    rw [hplace, hwhole] at hafter
    rw [spansFrom_of_candidate hcand, hafter, htext]
    cases hdeclared : declared word with
    | true =>
      rw [if_pos rfl, Outline.absorb_mark hdeclared, Outline.markersFrom_mark, List.map_cons,
        Marker.span_append, hplace, List.length_append, List.length_append]
      rfl
    | false =>
      rw [if_neg Bool.false_ne_true, Outline.absorb_mark_undeclared hdeclared, Outline.prepend]
      simp [Nat.add_assoc, Nat.add_comm, Nat.add_left_comm]
  | case3 c rest hcand ih =>
    rw [spansFrom_of_none fun _ => hcand]
    exact spansFrom_push (ih (front ++ [c]))
  | case4 atStart c rest hstart ih =>
    rw [spansFrom_of_none fun h => absurd h hstart]
    exact spansFrom_push (ih (front ++ [c]))

theorem spans_eq (declared : List Char → Bool) (text : List Char) :
    spans declared text =
      ((Outline.ofText text).absorb declared).markers.map (Marker.span text) := by
  have h := spansFrom_eq declared true [] text
  rwa [List.length_nil, Nat.zero_add] at h

end Scan

/-! ## Cuts -/

theorem stretchEnd_markersFrom (front : List Char) (fragments : List Fragment) :
    stretchEnd (front ++ fragments.flatMap Fragment.source)
      ((Outline.markersFrom front.length fragments).map
        (Marker.span (front ++ fragments.flatMap Fragment.source))) = byteLength front := by
  cases fragments with
  | nil => simp [Outline.markersFrom, stretchEnd]
  | cons fragment rest =>
    rw [Outline.markersFrom, List.map_cons, stretchEnd, Marker.span, List.take_left]

/-- No cut behind a marker fails, and the cuts are the texts of the fragments. -/
theorem cutFragments?_markersFrom (front : List Char) (fragments : List Fragment) :
    cutFragments? (front ++ fragments.flatMap Fragment.source)
      ((Outline.markersFrom front.length fragments).map
        (Marker.span (front ++ fragments.flatMap Fragment.source))) = some fragments := by
  induction fragments generalizing front with
  | nil => rfl
  | cons fragment rest ih =>
    obtain ⟨word, body⟩ := fragment
    have hend := stretchEnd_markersFrom (front ++ Fragment.source ⟨word, body⟩) rest
    have hrest := ih (front ++ Fragment.source ⟨word, body⟩)
    have hslice := slice?_append (front ++ word ++ [':']) body (rest.flatMap Fragment.source)
    have hspan := Marker.span_append front word (body ++ rest.flatMap Fragment.source)
    simp only [Fragment.source, List.flatMap_cons, List.length_append, List.append_assoc,
      List.cons_append, List.nil_append, Outline.markersFrom, List.map_cons, cutFragments?]
      at hend hrest hslice hspan ⊢
    rw [hspan, hend, hslice, hrest]
    rfl

/-- No cut of a text fails, and the tag is the one that the outline gives. -/
theorem TagType.cut?_eq_some (type : TagType) (name : String) (text : List Char)
    (data options : Bag) :
    type.cut? name text data options = some (type.read name text data options) := by
  rw [cut?, read]
  split
  · rfl
  · have hflatten : (type.outline text).lead ++
        (type.outline text).fragments.flatMap Fragment.source = text :=
      (type.outlined text).flatten_eq
    have hspans : spans type.declares text =
        (Outline.markersFrom (type.outline text).lead.length (type.outline text).fragments).map
          (Marker.span text) := spans_eq _ _
    have hend := stretchEnd_markersFrom (type.outline text).lead (type.outline text).fragments
    have hcuts := cutFragments?_markersFrom (type.outline text).lead (type.outline text).fragments
    have hlead := slice?_append [] (type.outline text).lead
      ((type.outline text).fragments.flatMap Fragment.source)
    rw [hflatten, ← hspans] at hend hcuts
    rw [List.nil_append, List.nil_append, hflatten] at hlead
    rw [hend, show slice? text 0 _ = some _ from hlead, hcuts]
    rfl

theorem Registry.cut?_eq_some (registry : Registry) (raw : String) (data options : Bag) :
    registry.cut? raw data options = some (registry.parse raw data options) := by
  rw [cut?, parse]
  cases registry.lookup (sourceType raw) with
  | none => rfl
  | some type => simp only [type.cut?_eq_some, Option.map_some]

/-! ## Places of markers -/

section MarkerAt

variable {declared : List Char → Bool} {atStart : Bool} {text word other : List Char} {i j : Nat}

/-- White space stands between two markers. -/
theorem MarkerAt.apart (h : MarkerAt declared atStart text i word)
    (h' : MarkerAt declared atStart text j other) (hij : i < j) : i + word.length + 1 < j := by
  obtain ⟨hword, -, -, after, hstands⟩ := h
  by_contra hle
  obtain ⟨k, rfl⟩ := Nat.exists_eq_add_of_lt hij
  obtain ⟨c, hc, hblank⟩ := h'.starts
  have hstart : WordStart atStart (word ++ ':' :: after) (k + 1) := by
    refine ⟨c, ?_, hblank⟩
    rw [← hstands, List.getElem?_drop, hc]
  exact hword.no_start (by omega) hstart

/-- A word with a colon is placed behind a front that lets a word begin. -/
theorem Span.placed_append {front after : List Char}
    (h : WordStart true (front ++ word ++ ':' :: after) front.length) :
    Span.Placed (String.ofList (front ++ word ++ ':' :: after))
      ⟨word, byteLength front, byteLength (front ++ word) + 1⟩ where
  start_lt_stop := by
    rw [byteLength_append]
    exact Nat.lt_succ_of_le (Nat.le_add_right _ _)
  stop_le := by
    have hcolon : byteLength (':' :: after) = 1 + byteLength after := rfl
    rw [utf8ByteSize_ofList, byteLength_append _ (':' :: after), hcolon, ← Nat.add_assoc]
    exact Nat.le_add_right _ _
  start_valid := by
    rw [List.append_assoc]
    exact valid_append front _
  stop_valid := by
    have hvalid := valid_append (front ++ word ++ [':']) after
    rwa [byteLength_append _ [':'], ← List.append_cons] at hvalid
  word_bytes := by
    rw [Nat.add_sub_cancel, ← length_bytes, ← length_bytes, bytes_append (front ++ word),
      List.take_left, bytes_append, List.drop_left]
  colon_byte := by
    have hcolon : bytes (String.ofList (':' :: after)) =
        ':'.toUInt8 :: bytes (String.ofList after) := bytes_append [':'] after
    rw [Nat.add_sub_cancel, ← length_bytes, bytes_append (front ++ word), hcolon,
      List.getElem?_append_right (Nat.le_refl _), Nat.sub_self, List.getElem?_cons_zero]
  behind := by
    rcases List.eq_nil_or_concat front with rfl | ⟨front, c, rfl⟩
    · exact .inl rfl
    · rw [List.concat_eq_append] at h ⊢
      rw [List.length_append, List.length_singleton] at h
      obtain ⟨d, hd, hblank⟩ := h
      have hc : c = d := by simpa using hd
      exact .inr ⟨front, c, word ++ ':' :: after, by simp, hc ▸ hblank, rfl⟩

theorem MarkerAt.placed (h : MarkerAt declared true text i word) :
    (Marker.span text ⟨i, word⟩).Placed (String.ofList text) := by
  have hbound := h.bound
  obtain ⟨-, -, hstarts, after, hstands⟩ := h
  obtain ⟨front, rfl, rfl⟩ : ∃ front, text = front ++ (word ++ ':' :: after) ∧ front.length = i :=
    ⟨text.take i, by rw [← hstands, List.take_append_drop], List.length_take_of_le (by omega)⟩
  rw [Marker.span_append, byteLength_append _ [':'], ← List.append_assoc]
  rw [← List.append_assoc] at hstarts
  exact Span.placed_append hstarts

end MarkerAt

/-- The markers that the scan finds stand in the bytes of the text one behind the other: no place lies
inside a character or behind the text, between the places of a marker are its word and a colon, and
the next marker begins behind the colon and behind white space. So no cut of a source fails, and
reading by cuts gives the tag or the fault that reading gives. -/
theorem cuts_placed :
    (∀ (declared : List Char → Bool) (text : List Char),
      (∀ span ∈ spans declared text, span.Placed (String.ofList text)) ∧
      (spans declared text).Pairwise fun span next => span.stop < next.start) ∧
    ∀ (registry : Registry) (raw : String) (data options : Bag),
      registry.cut? raw data options = some (registry.parse raw data options) := by
  refine ⟨fun declared text => ?_, Registry.cut?_eq_some⟩
  have hmarks : ∀ marker ∈ ((Outline.ofText text).absorb declared).markers,
      MarkerAt declared true text marker.start marker.word := fun marker hmem =>
    (outlined_scan declared true text).mem_markers_iff.mp hmem
  rw [spans_eq]
  constructor
  · intro span hmem
    obtain ⟨marker, hmarker, rfl⟩ := List.mem_map.mp hmem
    exact (hmarks marker hmarker).placed
  · refine List.pairwise_map.mpr ((Outline.markersFrom_ordered _ _).imp_of_mem ?_)
    intro marker next hmarker hnext hlt
    have hbound := (hmarks next hnext).bound
    exact byteLength_take_lt ((hmarks marker hmarker).apart (hmarks next hnext) hlt) (by omega)

/-- White space of three bytes and of two before markers, and longer characters around them. -/
theorem cuts_placed_wide :
    ∃ (type : TagType) (registry : Registry) (tag : Tag),
      spans type.declares "é\u3000a: ß\u00a0b:日".toList = [⟨['a'], 5, 7⟩, ⟨['b'], 12, 14⟩] ∧
      Span.Placed (String.ofList "é\u3000a: ß\u00a0b:日".toList) ⟨['b'], 12, 14⟩ ∧
      registry.cut? "t:é\u3000a: ß\u00a0b:日" NameMap.empty NameMap.empty = some (.ok tag) ∧
      tag.value = "é" ∧ tag.attrs = NameMap.ofList [("a", "ß"), ("b", "日")] := by
  let type := TagType.declare "t" ["a", "b"] none
  let registry := Registry.empty.register type
  let tag : Tag :=
    { type := "t", value := "é", attrs := NameMap.ofList [("a", "ß"), ("b", "日")] }
  have hspans : spans type.declares "é\u3000a: ß\u00a0b:日".toList =
      [⟨['a'], 5, 7⟩, ⟨['b'], 12, 14⟩] := by cbv
  have hparse : registry.parse "t:é\u3000a: ß\u00a0b:日" NameMap.empty NameMap.empty = .ok tag := by
    cbv
  obtain ⟨hplaced, hcut⟩ := cuts_placed
  refine ⟨type, registry, tag, hspans, ?_, ?_, rfl, rfl⟩
  · exact (hplaced type.declares _).1 _ (hspans ▸ by simp)
  · rw [hcut, hparse]

end InlineTag
