import Mathlib
import InlineTag.Proofs.ConfigRendering

/-!
# InlineTag.Proofs.Substitution

Rendering a template as one substitution, made at all its placeholders at once and said position by
position. No position of the template looks at what another one gives.

* `PlaceholderAt.apart`: two placeholders of a text do not overlap.
* `Substituted`: every position gives its part of the result, a placeholder at its opening brace.
* `Substituted.append`, `Substituted.unique`: a text can be cut outside of its placeholders, and
  there is one result.
* `Template.render_substitutes`: rendering gives that result, and what it depends on.
-/

namespace InlineTag

open Text

/-- Position `i` of a text lies strictly inside a placeholder, behind its opening brace. -/
def Inside (text : List Char) (i : Nat) : Prop :=
  ∃ j name, PlaceholderAt text j name ∧ j < i ∧ i < j + (name.length + 2)

/-- What stands in the place of a placeholder: what is shown for its name, or else the placeholder
as it was written. -/
inductive InPlace (shows : String → String → Prop) (name : List Char) : List Char → Prop where
  | shown {shown : String} (hshows : shows (String.ofList name) shown) :
      InPlace shows name shown.toList
  | unknown (hnone : ∀ shown, ¬ shows (String.ofList name) shown) :
      InPlace shows name ('{' :: (name ++ ['}']))

/-- What position `i` of a text gives to the result. The opening brace of a placeholder gives what
stands in its place, and the rest of it gives nothing. -/
inductive PartAt (shows : String → String → Prop) (text : List Char) (i : Nat) :
    List Char → Prop where
  | placeholder {name part : List Char} (hplace : PlaceholderAt text i name)
      (hpart : InPlace shows name part) : PartAt shows text i part
  | inside (hinside : Inside text i) : PartAt shows text i []
  | plain {c : Char} (hchar : text[i]? = some c) (hnone : ∀ name, ¬ PlaceholderAt text i name)
      (houtside : ¬ Inside text i) : PartAt shows text i [c]

/-- The second text is made of the parts that the positions of the first give, in order. -/
def Substituted (shows : String → String → Prop) (text output : List Char) : Prop :=
  ∃ parts : List (List Char), parts.length = text.length ∧
    (∀ i part, parts[i]? = some part → PartAt shows text i part) ∧ output = parts.flatten

/-! ## Placeholders apart from each other -/

section Apart

variable {text front back name other : List Char} {i j : Nat}

theorem PlaceholderAt.name_eq (h : PlaceholderAt text i name) (h' : PlaceholderAt text i other) :
    name = other := by
  obtain ⟨hname, after, hstands⟩ := h
  obtain ⟨hother, after', hstands'⟩ := h'
  have hsame : name ++ '}' :: after = other ++ '}' :: after' :=
    (List.cons.inj (hstands.symm.trans hstands')).2
  have hfound : Template.placeholder? (name ++ '}' :: after) = some (name, after) :=
    placeholder?_eq_some_iff.mpr ⟨hname, rfl⟩
  have hfound' : Template.placeholder? (name ++ '}' :: after) = some (other, after') :=
    placeholder?_eq_some_iff.mpr ⟨hother, hsame⟩
  rw [hfound] at hfound'
  cases hfound'
  rfl

/-- A placeholder ends before the next one begins. -/
theorem PlaceholderAt.apart (h : PlaceholderAt text i name) (h' : PlaceholderAt text j other)
    (hij : i < j) : i + (name.length + 2) ≤ j := by
  obtain ⟨k, rfl⟩ := Nat.exists_eq_add_of_lt hij
  obtain ⟨hname, after, hstands⟩ := h
  obtain ⟨-, after', hstands'⟩ := h'
  -- the later opening brace, found again in the text of the earlier placeholder
  have hopen : (name ++ '}' :: after)[k]? = some '{' := by
    have hat : (text.drop i)[k + 1]? = (text.drop (i + k + 1))[0]? := by
      rw [List.getElem?_drop, List.getElem?_drop]
      rfl
    rw [hstands, hstands', List.getElem?_cons_succ] at hat
    exact hat
  refine Nat.le_of_not_lt fun hshort => ?_
  rcases Nat.lt_or_ge k name.length with hk | hk
  · rw [List.getElem?_append_left hk] at hopen
    exact hname.open_not_mem (List.mem_of_getElem? hopen)
  · have hclose : k = name.length := by omega
    subst hclose
    simp at hopen

theorem PlaceholderAt.not_inside (h : PlaceholderAt text i name) : ¬ Inside text i := by
  rintro ⟨j, other, hother, hlt, hend⟩
  have hapart := hother.apart h hlt
  omega

theorem placeholderAt_prepend_iff (front : List Char) :
    PlaceholderAt (front ++ text) (front.length + i) name ↔ PlaceholderAt text i name := by
  constructor
  · rintro ⟨hname, after, hstands⟩
    rw [List.drop_length_add_append] at hstands
    exact ⟨hname, after, hstands⟩
  · intro h
    exact h.prepend front

/-- A placeholder that ends in the front of a text is one of the front. -/
theorem PlaceholderAt.of_front (h : PlaceholderAt (front ++ back) i name)
    (hend : i + (name.length + 2) ≤ front.length) : PlaceholderAt front i name := by
  obtain ⟨hname, after, hstands⟩ := h
  rw [List.drop_append_of_le_length (by omega), List.append_cons name, ← List.cons_append]
    at hstands
  have hfront : '{' :: (name ++ ['}']) <+: front.drop i := by
    refine List.prefix_of_prefix_length_le ⟨after, hstands.symm⟩ ⟨back, rfl⟩ ?_
    simp only [List.length_cons, List.length_append, List.length_drop, List.length_nil]
    omega
  obtain ⟨rest, hrest⟩ := hfront
  exact ⟨hname, rest, by rw [← hrest]; simp⟩

/-! ## Cuts outside of placeholders -/

/-- No placeholder reaches over an opening brace, so before one a text can be cut. -/
theorem not_inside_open (front back : List Char) :
    ¬ Inside (front ++ '{' :: back) front.length := by
  rintro ⟨j, name, hplace, hlt, hend⟩
  obtain ⟨-, after, hstands⟩ := hplace.of_append hlt
  have hlength := congrArg List.length hstands
  simp only [List.length_drop, List.length_cons, List.length_append] at hlength
  omega

/-- Where no placeholder reaches over the cut, one that begins before it ends before it. -/
theorem PlaceholderAt.ends (hcut : ¬ Inside (front ++ back) front.length)
    (h : PlaceholderAt (front ++ back) i name) (hi : i < front.length) :
    i + (name.length + 2) ≤ front.length := by
  refine Nat.le_of_not_lt fun hlong => ?_
  exact hcut ⟨i, name, h, hi, by omega⟩

theorem inside_front_iff (hcut : ¬ Inside (front ++ back) front.length) (hi : i < front.length) :
    Inside (front ++ back) i ↔ Inside front i := by
  constructor
  · rintro ⟨j, name, hplace, hlt, hend⟩
    exact ⟨j, name, hplace.of_front (hplace.ends hcut (by omega)), hlt, hend⟩
  · rintro ⟨j, name, hplace, hlt, hend⟩
    exact ⟨j, name, hplace.append back, hlt, hend⟩

theorem inside_back_iff (hcut : ¬ Inside (front ++ back) front.length) :
    Inside (front ++ back) (front.length + i) ↔ Inside back i := by
  constructor
  · rintro ⟨j, name, hplace, hlt, hend⟩
    have hj : front.length ≤ j := by
      refine Nat.le_of_not_lt fun hfront => ?_
      have hends := hplace.ends hcut (by omega)
      omega
    obtain ⟨k, rfl⟩ := Nat.exists_eq_add_of_le hj
    exact ⟨k, name, (placeholderAt_prepend_iff front).mp hplace, by omega, by omega⟩
  · rintro ⟨j, name, hplace, hlt, hend⟩
    exact ⟨front.length + j, name, hplace.prepend front, by omega, by omega⟩

end Apart

section Parts

variable {shows : String → String → Prop} {text front back part other : List Char} {i : Nat}

theorem PartAt.append (hcut : ¬ Inside (front ++ back) front.length) (hi : i < front.length)
    (h : PartAt shows front i part) : PartAt shows (front ++ back) i part := by
  cases h with
  | placeholder hplace hpart => exact .placeholder (hplace.append back) hpart
  | inside hinside => exact .inside ((inside_front_iff hcut hi).mpr hinside)
  | plain hchar hnone houtside =>
    refine .plain ?_ ?_ fun hinside => houtside ((inside_front_iff hcut hi).mp hinside)
    · rw [List.getElem?_append_left hi, hchar]
    · intro name hplace
      exact hnone name (hplace.of_front (hplace.ends hcut hi))

theorem PartAt.prepend (hcut : ¬ Inside (front ++ back) front.length)
    (h : PartAt shows back i part) : PartAt shows (front ++ back) (front.length + i) part := by
  cases h with
  | placeholder hplace hpart => exact .placeholder (hplace.prepend front) hpart
  | inside hinside => exact .inside ((inside_back_iff hcut).mpr hinside)
  | plain hchar hnone houtside =>
    refine .plain ?_ ?_ fun hinside => houtside ((inside_back_iff hcut).mp hinside)
    · rw [List.getElem?_append_right (Nat.le_add_right _ _), Nat.add_sub_cancel_left, hchar]
    · intro name hplace
      exact hnone name ((placeholderAt_prepend_iff front).mp hplace)

theorem InPlace.unique (hshows : ∀ name a b, shows name a → shows name b → a = b)
    {name : List Char} (h : InPlace shows name part) (h' : InPlace shows name other) :
    part = other := by
  cases h with
  | shown hshown =>
    cases h' with
    | shown hshown' => rw [hshows _ _ _ hshown hshown']
    | unknown hnone => exact absurd hshown (hnone _)
  | unknown hnone =>
    cases h' with
    | shown hshown' => exact absurd hshown' (hnone _)
    | unknown => rfl

theorem PartAt.unique (hshows : ∀ name a b, shows name a → shows name b → a = b)
    (h : PartAt shows text i part) (h' : PartAt shows text i other) : part = other := by
  cases h with
  | placeholder hplace hpart =>
    cases h' with
    | placeholder hplace' hpart' =>
      obtain rfl := hplace.name_eq hplace'
      exact hpart.unique hshows hpart'
    | inside hinside => exact absurd hinside hplace.not_inside
    | plain hchar hnone houtside => exact absurd hplace (hnone _)
  | inside hinside =>
    cases h' with
    | placeholder hplace hpart => exact absurd hinside hplace.not_inside
    | inside => rfl
    | plain hchar hnone houtside => exact absurd hinside houtside
  | plain hchar hnone houtside =>
    cases h' with
    | placeholder hplace hpart => exact absurd hplace (hnone _)
    | inside hinside => exact absurd hinside houtside
    | plain hchar' =>
      rw [hchar] at hchar'
      cases hchar'
      rfl

end Parts

/-! ## The result of a substitution -/

namespace Substituted

variable {shows : String → String → Prop} {text front back output other : List Char}

theorem nil : Substituted shows [] [] := by
  refine ⟨[], rfl, ?_, rfl⟩
  intro i part hpart
  simp at hpart

/-- The parts of a text cut outside of its placeholders are those of its two pieces. -/
theorem append (hcut : ¬ Inside (front ++ back) front.length) (h : Substituted shows front output)
    (h' : Substituted shows back other) :
    Substituted shows (front ++ back) (output ++ other) := by
  obtain ⟨parts, hlength, hparts, rfl⟩ := h
  obtain ⟨later, hlength', hlater, rfl⟩ := h'
  refine ⟨parts ++ later, by simp [hlength, hlength'], ?_, by simp⟩
  intro i part hpart
  rcases Nat.lt_or_ge i front.length with hi | hi
  · rw [List.getElem?_append_left (by omega)] at hpart
    exact (hparts i part hpart).append hcut hi
  · obtain ⟨k, rfl⟩ := Nat.exists_eq_add_of_le hi
    rw [List.getElem?_append_right (by omega), hlength, Nat.add_sub_cancel_left] at hpart
    exact (hlater k part hpart).prepend hcut

theorem unique (hshows : ∀ name a b, shows name a → shows name b → a = b)
    (h : Substituted shows text output) (h' : Substituted shows text other) : output = other := by
  obtain ⟨parts, hlength, hparts, rfl⟩ := h
  obtain ⟨others, hlength', hothers, rfl⟩ := h'
  refine congrArg List.flatten (List.ext_getElem (hlength.trans hlength'.symm) ?_)
  intro i hi hi'
  have hpart := hparts i _ (List.getElem?_eq_getElem hi)
  exact hpart.unique hshows (hothers i _ (List.getElem?_eq_getElem hi'))

/-- A placeholder gives what stands in its place. -/
theorem placeholder {name part : List Char} (hname : IsName name)
    (hpart : InPlace shows name part) : Substituted shows ('{' :: (name ++ ['}'])) part := by
  have hplace : PlaceholderAt ('{' :: (name ++ ['}'])) 0 name := ⟨hname, [], rfl⟩
  refine ⟨part :: List.replicate (name.length + 1) [], by simp, ?_, by simp⟩
  intro i found hfound
  cases i with
  | zero =>
    cases hfound
    exact .placeholder hplace hpart
  | succ i =>
    rw [List.getElem?_cons_succ, List.getElem?_replicate] at hfound
    split at hfound
    · rename_i hi
      cases hfound
      exact .inside ⟨0, name, hplace, Nat.succ_pos i, by omega⟩
    · cases hfound

/-- A character outside of placeholders stays. -/
theorem plain {c : Char} : Substituted shows [c] [c] := by
  have hnone : ∀ i name, ¬ PlaceholderAt [c] i name := by
    rintro i name ⟨hname, after, hstands⟩
    have hlength := congrArg List.length hstands
    simp only [List.length_drop, List.length_cons, List.length_append, List.length_nil] at hlength
    omega
  refine ⟨[[c]], rfl, ?_, rfl⟩
  intro i part hpart
  cases i with
  | zero =>
    cases hpart
    refine .plain rfl (hnone 0) ?_
    rintro ⟨j, name, hplace, -⟩
    exact hnone j name hplace
  | succ i => simp at hpart

end Substituted

/-! ## Rendering -/

namespace Template

/-- The entry of a configuration that has the template. -/
def entry (template : Template) : TypeConfig :=
  { attributes := template.attributes
    template := some template.text
    defaults := template.defaults }

variable {template : Template} {tag : Tag} {text front back : List Char}

theorem shows_eq_tagShows (template : Template) (tag : Tag) :
    template.Shows tag = template.entry.TagShows tag := by
  funext name shown
  have hshows : (template.entry.templateOf template.text).Shows tag name shown ↔
      template.entry.TagShows tag name shown := TypeConfig.shows_iff_tagShows
  exact propext hshows

theorem shows_unique (template : Template) (tag : Tag) (name a b : String)
    (h : template.Shows tag name a) (h' : template.Shows tag name b) : a = b :=
  Option.some.inj (h.symm.trans h')

theorem inPlace_fill (template : Template) (tag : Tag) (name : List Char) :
    InPlace (template.Shows tag) name (template.fill tag (.placeholder name)) := by
  cases hresolve : template.resolve tag (String.ofList name) with
  | none =>
    rw [fill, hresolve]
    refine .unknown fun shown hshows => ?_
    rw [Shows, hresolve] at hshows
    cases hshows
  | some shown =>
    rw [fill_placeholder hresolve]
    exact .shown hresolve

/-- Filling piece by piece is the substitution: the scan finds every placeholder of the text. -/
theorem substituted_flatMap (template : Template) (tag : Tag) (text : List Char) :
    Substituted (template.Shows tag) text ((pieces text).flatMap (template.fill tag)) := by
  have hstart : ∀ {c : Char} {rest : List Char}, (∀ name, ¬ PlaceholderAt (c :: rest) 0 name) →
      ¬ Inside ([c] ++ rest) [c].length := by
    rintro c rest hnone ⟨j, name, hplace, hlt, -⟩
    obtain rfl : j = 0 := Nat.lt_one_iff.mp hlt
    exact hnone name hplace
  fun_induction pieces text with
  | case1 => exact .nil
  | case2 rest name after hsome ih =>
    obtain ⟨hname, rfl⟩ := placeholder?_eq_some_iff.mp hsome
    rw [List.flatMap_cons, List.append_cons name, ← List.cons_append]
    refine Substituted.append ?_ (.placeholder hname (inPlace_fill template tag name)) ih
    rintro ⟨j, other, hother, hlt, hend⟩
    have hplace : PlaceholderAt ('{' :: (name ++ ['}']) ++ after) 0 name := ⟨hname, after, by simp⟩
    simp only [List.length_cons, List.length_append, List.length_nil] at hlt hend
    -- the placeholder over the end of this one would begin with it, or inside it
    rcases Nat.eq_zero_or_pos j with rfl | hj
    · rw [hplace.name_eq hother] at hend
      omega
    · have hapart := hplace.apart hother hj
      omega
  | case3 rest hnone ih =>
    exact Substituted.append (hstart (not_placeholderAt_of_none hnone)) .plain ih
  | case4 c rest hc ih =>
    exact Substituted.append (hstart fun name => not_placeholderAt_zero hc) .plain ih

theorem render_eq_iff_substituted {output : String} :
    template.render tag = output ↔
      Substituted (template.Shows tag) template.text.toList output.toList := by
  have hrender := substituted_flatMap template tag template.text.toList
  constructor
  · rintro rfl
    rw [render, String.toList_ofList]
    exact hrender
  · intro h
    rw [render, hrender.unique (shows_unique template tag) h, String.ofList_toList]

/-- Of a tag only the type, the value and the listed attributes matter. -/
theorem render_congr {other : Tag} (htype : other.type = tag.type)
    (hvalue : other.value = tag.value)
    (hattributes : ∀ word ∈ template.attributes, other.get? word = tag.get? word) :
    template.render other = template.render tag := by
  have hresolve : ∀ name, template.resolve other name = template.resolve tag name := by
    intro name
    rw [resolve, resolve, htype, hvalue]
    by_cases hmem : name ∈ template.attributes
    · rw [Tag.attr, Tag.attr, hattributes name hmem]
    · rw [if_neg hmem, if_neg hmem]
  refine congrArg String.ofList (flatMap_pieces_congr (fun c => rfl) fun i name hplace => ?_)
  rw [fill, fill, hresolve]

/-- Rendering substitutes at every placeholder at once. The placeholders lie apart, so a template
can be cut outside of them and its pieces rendered each on its own, and of a tag only the type, the
value and the listed attributes matter. -/
theorem render_substitutes (template : Template) (tag : Tag) :
    (∀ i j name other, PlaceholderAt template.text.toList i name →
      PlaceholderAt template.text.toList j other →
      i = j ∧ name = other ∨ i + (name.length + 2) ≤ j ∨ j + (other.length + 2) ≤ i) ∧
    (∀ output, template.render tag = output ↔
      Substituted (template.entry.TagShows tag) template.text.toList output.toList) ∧
    (∀ front back, template.text = front ++ back →
      ¬ Inside template.text.toList front.toList.length →
      template.render tag =
        { template with text := front }.render tag ++ { template with text := back }.render tag) ∧
    (∀ other : Tag, other.type = tag.type → other.value = tag.value →
      (∀ word ∈ template.attributes, other.get? word = tag.get? word) →
      template.render other = template.render tag) := by
  refine ⟨?_, ?_, ?_, ?_⟩
  · intro i j name other h h'
    rcases Nat.lt_trichotomy i j with hij | rfl | hij
    · exact .inr (.inl (h.apart h' hij))
    · exact .inl ⟨rfl, h.name_eq h'⟩
    · exact .inr (.inr (h'.apart h hij))
  · intro output
    rw [← shows_eq_tagShows]
    exact render_eq_iff_substituted
  · intro front back htext hcut
    rw [htext, String.toList_append] at hcut
    have hfront : Substituted (Shows { template with text := front } tag) front.toList
        ({ template with text := front }.render tag).toList := render_eq_iff_substituted.mp rfl
    have hback : Substituted (Shows { template with text := back } tag) back.toList
        ({ template with text := back }.render tag).toList := render_eq_iff_substituted.mp rfl
    rw [render_eq_iff_substituted, htext, String.toList_append, String.toList_append]
    exact Substituted.append hcut hfront hback
  · intro other
    exact render_congr

/-- Braces around a placeholder and before it, and a text with a placeholder in it. -/
theorem render_substitutes_braces :
    ∃ (template : Template) (tag : Tag),
      template.text = "\x7b\x7ba\x7d\x7d|\x7bx" ++ "\x7bb\x7d" ∧
      PlaceholderAt template.text.toList 1 ['a'] ∧ PlaceholderAt template.text.toList 8 ['b'] ∧
      (1 = 8 ∧ ['a'] = ['b'] ∨ 1 + 3 ≤ 8 ∨ 8 + 3 ≤ 1) ∧
      template.render tag = "\x7b\x7bb\x7d\x7d|\x7bxd" ∧
      Substituted (template.entry.TagShows tag) template.text.toList
        "\x7b\x7bb\x7d\x7d|\x7bxd".toList ∧
      template.render tag = { template with text := "\x7b\x7ba\x7d\x7d|\x7bx" }.render tag ++
        { template with text := "\x7bb\x7d" }.render tag ∧
      template.render (tag.withAttr "c" "e") = template.render tag := by
  let template : Template :=
    { text := "\x7b\x7ba\x7d\x7d|\x7bx" ++ "\x7bb\x7d"
      attributes := ["a", "b"]
      defaults := NameMap.ofList [("b", "d")] }
  let tag : Tag := { type := "t", value := "v", attrs := NameMap.ofList [("a", "\x7bb\x7d")] }
  have hisName : ∀ c, isNameChar c = true → IsName [c] := by
    intro c hc
    exact ⟨List.cons_ne_nil _ _, by simpa using hc⟩
  have ha : PlaceholderAt template.text.toList 1 ['a'] :=
    ⟨hisName 'a' (by decide), "\x7d|\x7bx\x7bb\x7d".toList, by decide⟩
  have hb : PlaceholderAt template.text.toList 8 ['b'] :=
    ⟨hisName 'b' (by decide), [], by decide⟩
  have hopen : ¬ Inside template.text.toList "\x7b\x7ba\x7d\x7d|\x7bx".toList.length := by
    have htext : template.text.toList =
        "\x7b\x7ba\x7d\x7d|\x7bx".toList ++ '{' :: "b\x7d".toList := by decide
    rw [htext]
    exact not_inside_open _ _
  have hrender : template.render tag = "\x7b\x7bb\x7d\x7d|\x7bxd" := by cbv
  have hattributes : ∀ word ∈ template.attributes,
      (tag.withAttr "c" "e").get? word = tag.get? word := by decide
  obtain ⟨hapart, hsubstituted, hcut, hcongr⟩ := render_substitutes template tag
  exact ⟨template, tag, rfl, ha, hb, hapart 1 8 _ _ ha hb, hrender, (hsubstituted _).mp hrender,
    hcut _ _ rfl hopen, hcongr (tag.withAttr "c" "e") rfl rfl hattributes⟩

end Template
end InlineTag
