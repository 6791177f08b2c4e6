import InlineTag.Template
import InlineTag.Text.Cut

/-!
# InlineTag.Proofs.Placeholders

Filling a template as a substitution, said without a scan.

* `PlaceholderAt`: the placeholders of a text as a set of positions.
* `Filled`: a text with the placeholders replaced that show something, and all else as it stands.
* `pieces_append`: a placeholder is found wherever it stands, whatever braces stand before it.
* `filled_iff`: rendering a template fills it, and there is no other way to.
-/

namespace InlineTag

open Text

/-- A name that can stand in a placeholder: not empty, without braces or white space in it. -/
structure IsName (name : List Char) : Prop where
  ne_nil : name ≠ []
  chars : ∀ c ∈ name, Template.isNameChar c = true

/-- At position `i` of a text stands a name in braces. -/
structure PlaceholderAt (text : List Char) (i : Nat) (name : List Char) : Prop where
  isName : IsName name
  stands : ∃ after, text.drop i = '{' :: (name ++ '}' :: after)

/-- The second text is the first with every placeholder that shows something replaced by what it
shows. -/
inductive Filled (shows : String → String → Prop) : List Char → List Char → Prop where
  | rest {text : List Char}
      (htext : ∀ i name shown, PlaceholderAt text i name → ¬ shows (String.ofList name) shown) :
      Filled shows text text
  | next {before name after filled : List Char} {shown : String}
      (hbefore : ∀ i other shown, PlaceholderAt before i other →
        ¬ shows (String.ofList other) shown)
      (hname : IsName name) (hshows : shows (String.ofList name) shown)
      (hafter : Filled shows after filled) :
      Filled shows (before ++ '{' :: (name ++ '}' :: after)) (before ++ shown.toList ++ filled)

/-! ## Names and positions -/

theorem isNameChar_iff {c : Char} :
    Template.isNameChar c = true ↔ c ≠ '{' ∧ c ≠ '}' ∧ isBlank c = false := by
  simp [Template.isNameChar, and_assoc]

theorem IsName.open_not_mem {name : List Char} (h : IsName name) : '{' ∉ name := by
  intro hmem
  exact (isNameChar_iff.mp (h.chars _ hmem)).1 rfl

theorem placeholder?_eq_some_iff {text name after : List Char} :
    Template.placeholder? text = some (name, after) ↔
      IsName name ∧ text = name ++ '}' :: after := by
  constructor
  · intro h
    refine ⟨?_, Template.eq_of_placeholder? h⟩
    unfold Template.placeholder? at h
    split at h
    · rename_i c rest htake hdrop
      cases h
      refine ⟨List.cons_ne_nil _ _, ?_⟩
      have hall := List.all_takeWhile (p := Template.isNameChar) (l := text)
      rw [htake] at hall
      exact List.all_eq_true.mp hall
    · cases h
  · rintro ⟨hname, rfl⟩
    have hclose : Template.isNameChar '}' = false := by decide
    obtain ⟨htake, hdrop⟩ := takeWhile_append_mark hname.chars hclose after
    unfold Template.placeholder?
    rw [htake, hdrop]
    cases hcons : name with
    | nil => exact absurd hcons hname.ne_nil
    | cons c rest => rfl

section Positions

variable {text name : List Char} {i : Nat}

theorem placeholderAt_zero_iff :
    PlaceholderAt text 0 name ↔
      ∃ rest after, text = '{' :: rest ∧ Template.placeholder? rest = some (name, after) := by
  constructor
  · rintro ⟨hname, after, h⟩
    exact ⟨_, after, h, placeholder?_eq_some_iff.mpr ⟨hname, rfl⟩⟩
  · rintro ⟨rest, after, rfl, h⟩
    obtain ⟨hname, rfl⟩ := placeholder?_eq_some_iff.mp h
    exact ⟨hname, after, rfl⟩

theorem placeholderAt_succ_iff {c : Char} :
    PlaceholderAt (c :: text) (i + 1) name ↔ PlaceholderAt text i name :=
  ⟨fun ⟨hname, h⟩ => ⟨hname, h⟩, fun ⟨hname, h⟩ => ⟨hname, h⟩⟩

theorem PlaceholderAt.prepend (h : PlaceholderAt text i name) (front : List Char) :
    PlaceholderAt (front ++ text) (front.length + i) name := by
  obtain ⟨hname, after, h⟩ := h
  exact ⟨hname, after, by rw [List.drop_length_add_append, h]⟩

theorem PlaceholderAt.append (h : PlaceholderAt text i name) (more : List Char) :
    PlaceholderAt (text ++ more) i name := by
  obtain ⟨hname, after, h⟩ := h
  have hlt : i < text.length := by
    rcases Nat.lt_or_ge i text.length with hlt | hge
    · exact hlt
    · rw [List.drop_eq_nil_of_le hge] at h
      cases h
  refine ⟨hname, after ++ more, ?_⟩
  rw [List.drop_append_of_le_length (Nat.le_of_lt hlt), h]
  simp

/-- No placeholder reaches over an opening brace. -/
theorem PlaceholderAt.of_append {front back : List Char}
    (h : PlaceholderAt (front ++ '{' :: back) i name) (hi : i < front.length) :
    PlaceholderAt front i name := by
  obtain ⟨hname, after, h⟩ := h
  refine ⟨hname, ?_⟩
  rw [List.drop_append_of_le_length (Nat.le_of_lt hi), List.drop_eq_getElem_cons hi,
    List.cons_append, List.append_cons name] at h
  obtain ⟨hopen, h⟩ := List.cons.inj h
  rw [List.drop_eq_getElem_cons hi, hopen]
  have hinner : '{' ∉ name ++ ['}'] := by
    intro hmem
    rcases List.mem_append.mp hmem with hmem | hmem
    · exact hname.open_not_mem hmem
    · simp at hmem
  obtain ⟨rest, hrest⟩ := append_of_mark_not_mem hinner h
  exact ⟨rest, by simp [hrest]⟩

end Positions

/-! ## Pieces -/

namespace Template

theorem pieces_placeholder {name : List Char} (h : IsName name) (after : List Char) :
    pieces ('{' :: (name ++ '}' :: after)) = .placeholder name :: pieces after := by
  have hsome : placeholder? (name ++ '}' :: after) = some (name, after) :=
    placeholder?_eq_some_iff.mpr ⟨h, rfl⟩
  rw [pieces, if_pos rfl]
  split
  · rename_i found rest hfound
    rw [hsome] at hfound
    cases hfound
    rfl
  · rename_i hnone
    rw [hsome] at hnone
    cases hnone

theorem pieces_plain {c : Char} {rest : List Char}
    (h : ∀ name, ¬ PlaceholderAt (c :: rest) 0 name) :
    pieces (c :: rest) = .plain c :: pieces rest := by
  rw [pieces]
  split
  · rename_i hopen
    split
    · rename_i name after hsome
      exact absurd (placeholderAt_zero_iff.mpr ⟨rest, after, by rw [hopen], hsome⟩) (h name)
    · rfl
  · rfl

theorem not_placeholderAt_nil {i : Nat} {name : List Char} : ¬ PlaceholderAt [] i name := by
  rintro ⟨-, after, hstands⟩
  rw [List.drop_nil] at hstands
  cases hstands

theorem not_placeholderAt_zero {c : Char} {rest name : List Char} (h : c ≠ '{') :
    ¬ PlaceholderAt (c :: rest) 0 name := by
  rintro ⟨-, after, hstands⟩
  exact h (List.cons.inj hstands).1

theorem not_placeholderAt_of_none {rest : List Char} (h : placeholder? rest = none)
    (name : List Char) : ¬ PlaceholderAt ('{' :: rest) 0 name := by
  intro hplace
  obtain ⟨rest', after, hrest, hsome⟩ := placeholderAt_zero_iff.mp hplace
  cases hrest
  rw [h] at hsome
  cases hsome

/-- What stands before an opening brace does not change how the text from there on is read. -/
theorem pieces_append (front back : List Char) :
    pieces (front ++ '{' :: back) = pieces front ++ pieces ('{' :: back) := by
  fun_induction pieces front with
  | case1 => rfl
  | case2 rest name after hsome ih =>
    obtain ⟨hname, rfl⟩ := placeholder?_eq_some_iff.mp hsome
    rw [List.cons_append, List.append_assoc, List.cons_append, pieces_placeholder hname, ih,
      List.cons_append]
  | case3 rest hnone ih =>
    rw [List.cons_append, pieces_plain, ih, List.cons_append]
    intro name hplace
    have hshort : PlaceholderAt ('{' :: rest) 0 name := hplace.of_append (Nat.succ_pos _)
    exact not_placeholderAt_of_none hnone name hshort
  | case4 c rest hc ih =>
    rw [List.cons_append, pieces_plain fun name => not_placeholderAt_zero hc, ih, List.cons_append]

theorem exists_placeholderAt {text name : List Char} (h : .placeholder name ∈ pieces text) :
    ∃ i, PlaceholderAt text i name := by
  fun_induction pieces text with
  | case1 => cases h
  | case2 rest other after hsome ih =>
    obtain ⟨hname, rfl⟩ := placeholder?_eq_some_iff.mp hsome
    rcases List.mem_cons.mp h with heq | h
    · cases heq
      exact ⟨0, hname, after, rfl⟩
    · obtain ⟨i, hplace⟩ := ih h
      rw [List.append_cons other]
      exact ⟨_, hplace.prepend ('{' :: (other ++ ['}']))⟩
  | case3 rest hnone ih =>
    rcases List.mem_cons.mp h with heq | h
    · cases heq
    · obtain ⟨i, hplace⟩ := ih h
      exact ⟨i + 1, placeholderAt_succ_iff.mpr hplace⟩
  | case4 c rest hc ih =>
    rcases List.mem_cons.mp h with heq | h
    · cases heq
    · obtain ⟨i, hplace⟩ := ih h
      exact ⟨i + 1, placeholderAt_succ_iff.mpr hplace⟩

/-- What a text is turned into is told by its placeholders. -/
theorem flatMap_pieces_congr {text : List Char} {f g : Piece → List Char}
    (hplain : ∀ c, f (.plain c) = g (.plain c))
    (hplace : ∀ i name, PlaceholderAt text i name → f (.placeholder name) = g (.placeholder name)) :
    (pieces text).flatMap f = (pieces text).flatMap g := by
  have hpiece : ∀ piece ∈ pieces text, f piece = g piece := by
    intro piece hmem
    cases piece with
    | plain c => exact hplain c
    | placeholder name =>
      obtain ⟨i, h⟩ := exists_placeholderAt hmem
      exact hplace i name h
  rw [List.flatMap_def, List.flatMap_def, List.map_congr_left hpiece]

/-- A text in which nothing is shown stays as it is. -/
theorem flatMap_fill_of_none {template : Template} {tag : Tag} {text : List Char}
    (h : ∀ i name, PlaceholderAt text i name → template.resolve tag (String.ofList name) = none) :
    (pieces text).flatMap (template.fill tag) = text := by
  calc (pieces text).flatMap (template.fill tag)
      = (pieces text).flatMap Piece.source := by
        refine flatMap_pieces_congr (fun c => rfl) fun i name hplace => ?_
        rw [fill, h i name hplace]
    _ = text := flatMap_source_pieces text

end Template

/-! ## Filled texts -/

namespace Filled

variable {shows : String → String → Prop} {text filled : List Char}

/-- A character that begins no placeholder with something to show stays. -/
theorem cons {c : Char}
    (hnone : ∀ name shown, PlaceholderAt (c :: text) 0 name → ¬ shows (String.ofList name) shown)
    (h : Filled shows text filled) : Filled shows (c :: text) (c :: filled) := by
  cases h with
  | rest htext =>
    refine .rest fun i name shown hplace => ?_
    cases i with
    | zero => exact hnone name shown hplace
    | succ i => exact htext i name shown (placeholderAt_succ_iff.mp hplace)
  | @next before name after filled shown hbefore hname hshows hafter =>
    have hfront : ∀ i other shown, PlaceholderAt (c :: before) i other →
        ¬ shows (String.ofList other) shown := by
      intro i other shown hplace
      cases i with
      | zero => exact hnone other shown (hplace.append _)
      | succ i => exact hbefore i other shown (placeholderAt_succ_iff.mp hplace)
    exact .next hfront hname hshows hafter

/-- A text without an opening brace stays. -/
theorem append {front : List Char} (hfront : '{' ∉ front) (h : Filled shows text filled) :
    Filled shows (front ++ text) (front ++ filled) := by
  induction front with
  | nil => exact h
  | cons c front ih =>
    refine (ih fun hmem => hfront (List.mem_cons_of_mem _ hmem)).cons fun name shown hplace => ?_
    exact absurd hplace (Template.not_placeholderAt_zero fun hc => hfront (hc ▸ List.mem_cons_self))

end Filled

namespace Template

/-- What a template shows in the place of a name: the text that a tag has for it. -/
def Shows (template : Template) (tag : Tag) (name shown : String) : Prop :=
  template.resolve tag name = some shown

variable {template : Template} {tag : Tag}

theorem fill_placeholder {name : List Char} {shown : String}
    (h : template.Shows tag (String.ofList name) shown) :
    template.fill tag (.placeholder name) = shown.toList := by
  rw [Shows] at h
  rw [fill, h]

theorem filled_flatMap (template : Template) (tag : Tag) (text : List Char) :
    Filled (template.Shows tag) text ((pieces text).flatMap (template.fill tag)) := by
  fun_induction pieces text with
  | case1 =>
    refine .rest fun i name shown hplace => ?_
    exact absurd hplace not_placeholderAt_nil
  | case2 rest name after hsome ih =>
    obtain ⟨hname, rfl⟩ := placeholder?_eq_some_iff.mp hsome
    rw [List.flatMap_cons, fill]
    split
    · rename_i shown hshows
      have hbefore : ∀ i other shown, PlaceholderAt [] i other →
          ¬ template.Shows tag (String.ofList other) shown := by
        intro i other shown hplace
        exact absurd hplace not_placeholderAt_nil
      exact .next hbefore hname hshows ih
    · rename_i hnone
      -- an unknown placeholder stays, and no other begins inside it
      have hunknown : ∀ other shown, PlaceholderAt ('{' :: (name ++ '}' :: after)) 0 other →
          ¬ template.Shows tag (String.ofList other) shown := by
        intro other shown hplace hshows
        obtain ⟨rest, after', hrest, hsome'⟩ := placeholderAt_zero_iff.mp hplace
        cases hrest
        rw [hsome] at hsome'
        cases hsome'
        rw [Shows, hnone] at hshows
        cases hshows
      have hclose := ih.cons (c := '}') fun other shown hplace =>
        absurd hplace (not_placeholderAt_zero (by decide))
      have hopen := (hclose.append hname.open_not_mem).cons hunknown
      simpa [Piece.source] using hopen
  | case3 rest hnone ih =>
    exact ih.cons fun name shown hplace => absurd hplace (not_placeholderAt_of_none hnone name)
  | case4 c rest hc ih =>
    exact ih.cons fun name shown hplace => absurd hplace (not_placeholderAt_zero hc)

/-- A placeholder is filled by itself, whatever stands around it. -/
theorem flatMap_fill_append {name : List Char} {shown : String} (hname : IsName name)
    (hshows : template.Shows tag (String.ofList name) shown) (before after : List Char) :
    (pieces (before ++ '{' :: (name ++ '}' :: after))).flatMap (template.fill tag) =
      (pieces before).flatMap (template.fill tag) ++ shown.toList ++
        (pieces after).flatMap (template.fill tag) := by
  rw [pieces_append, pieces_placeholder hname, List.flatMap_append, List.flatMap_cons,
    fill_placeholder hshows, List.append_assoc]

theorem flatMap_fill_of_filled {text filled : List Char}
    (h : Filled (template.Shows tag) text filled) :
    (pieces text).flatMap (template.fill tag) = filled := by
  have hnone : ∀ {text : List Char}, (∀ i name shown, PlaceholderAt text i name →
      ¬ template.Shows tag (String.ofList name) shown) →
      (pieces text).flatMap (template.fill tag) = text := by
    intro text htext
    refine flatMap_fill_of_none fun i name hplace => Option.eq_none_iff_forall_ne_some.mpr ?_
    intro shown hshows
    exact htext i name shown hplace hshows
  induction h with
  | rest htext => exact hnone htext
  | next hbefore hname hshows hafter ih =>
    rw [flatMap_fill_append hname hshows, hnone hbefore, ih]

/-- Rendering fills the template, and there is one way to fill it. -/
theorem filled_iff {output : String} :
    Filled (template.Shows tag) template.text.toList output.toList ↔
      template.render tag = output := by
  constructor
  · intro h
    rw [render, flatMap_fill_of_filled h, String.ofList_toList]
  · rintro rfl
    rw [render, String.toList_ofList]
    exact filled_flatMap template tag _

end Template
end InlineTag
