import Mathlib
import InlineTag.Proofs.ConfigRendering
import InlineTag.Proofs.Validity

/-!
# InlineTag.Proofs.DeclaredAttributes

Which attributes a template can show. Two names always stand for the tag's own type and value, also
where an attribute has one of them, and a name with a brace in it is never read as a placeholder.
Every other attribute is shown wherever its name stands in braces.

* `Config.render_attribute`: what a template shows for an attribute, and that its default shows.
* `Config.unshown_attributes`: a configuration with two attributes that its template cannot show.
-/

namespace InlineTag

open Text Toml

theorem IsWord.isName {word : List Char} (h : IsWord word) (hopen : '{' ∉ word)
    (hclose : '}' ∉ word) : IsName word := by
  refine ⟨h.ne_nil, fun c hc => isNameChar_iff.mpr ⟨?_, ?_, ?_⟩⟩
  · rintro rfl
    exact hopen hc
  · rintro rfl
    exact hclose hc
  · exact (isWordChar_iff.mp (h.chars c hc)).1

namespace TypeConfig

variable {type : TypeConfig} {name word : String}

/-- The name of a type is a source of its own, with nothing behind it. -/
theorem Valid.splits (h : type.Valid name) : Splits name name [] := by
  refine ⟨name.toList, ?_, .inr ⟨rfl, h.name_no_colon, rfl⟩⟩
  rw [h.name_trimmed, String.ofList_toList]

theorem exists_tagShows (hmem : word ∈ type.attributes) (tag : Tag) :
    ∃ shown, type.TagShows tag word shown := by
  by_cases htype : word = "type"
  · subst htype
    exact ⟨tag.type, .type⟩
  by_cases hvalue : word = "value"
  · subst hvalue
    exact ⟨tag.value, .value⟩
  cases hget : tag.get? word with
  | some shown => exact ⟨shown, .present htype hvalue hmem hget⟩
  | none =>
    cases hdefault : type.defaults.get? word with
    | some shown => exact ⟨shown, .fallback htype hvalue hmem hget hdefault⟩
    | none => exact ⟨"", .absent htype hvalue hmem hget hdefault⟩

theorem render_placeholder {tag : Tag} {shown : String} (hname : IsName word.toList)
    (hshows : type.TagShows tag word shown) (before after : String) :
    (type.templateOf (before ++ ("\x7b" ++ word ++ "\x7d") ++ after)).render tag =
      (type.templateOf before).render tag ++ shown ++ (type.templateOf after).render tag := by
  let template := type.templateOf (before ++ ("\x7b" ++ word ++ "\x7d") ++ after)
  have hshows : template.Shows tag (String.ofList word.toList) shown := by
    rw [String.ofList_toList]
    exact shows_iff_tagShows.mpr hshows
  have htext : template.text.toList =
      before.toList ++ '{' :: (word.toList ++ '}' :: after.toList) := by
    simp [template, templateOf]
  have hfill := Template.flatMap_fill_append hname hshows before.toList after.toList
  rw [← htext] at hfill
  refine String.toList_injective ?_
  rw [String.toList_append, String.toList_append]
  simp only [Template.render, String.toList_ofList]
  exact hfill

end TypeConfig

namespace Config

/-- A template shows a declared attribute wherever its name stands in braces, unless the name is
taken or has a brace in it. The default is then shown for the name of the type as a source. -/
theorem render_attribute {source : String} {config : Config} (hread : read source = .ok config)
    {name : String} {type : TypeConfig} (hsome : config.types.get? name = some type)
    {word : String} (hmem : word ∈ type.attributes)
    (hopen : '{' ∉ word.toList) (hclose : '}' ∉ word.toList) {before after : String}
    (htemplate : type.template = some (before ++ ("\x7b" ++ word ++ "\x7d") ++ after)) :
    (∀ tag : Tag, tag.type = name → ∃ shown, type.TagShows tag word shown ∧
      config.registry.render tag = .ok ((type.templateOf before).render tag ++ shown ++
        (type.templateOf after).render tag)) ∧
    (∀ shown data, word ≠ "type" → word ≠ "value" → type.defaults.get? word = some shown →
      ∃ tag, config.parse name data = .ok tag ∧ tag.get? word = none ∧
        config.render name data = .ok ((type.templateOf before).render tag ++ shown ++
          (type.templateOf after).render tag)) := by
  have hvalid := valid_of_read hread hsome
  have hname := (hvalid.words word hmem).isName hopen hclose
  have hrender : ∀ (tag : Tag) shown, tag.type = name → type.TagShows tag word shown →
      config.registry.render tag = .ok ((type.templateOf before).render tag ++ shown ++
        (type.templateOf after).render tag) := by
    intro tag shown htype hshows
    rw [render_tag (htype ▸ hsome), TypeConfig.renderTag, htemplate]
    exact congrArg Except.ok (TypeConfig.render_placeholder hname hshows before after)
  refine ⟨?_, ?_⟩
  · intro tag htype
    obtain ⟨shown, hshows⟩ := TypeConfig.exists_tagShows hmem tag
    exact ⟨shown, hshows, hrender tag shown htype hshows⟩
  · intro shown data htypeWord hvalueWord hdefault
    obtain ⟨tag, hparse, htype, hreadOff⟩ := exists_parse hvalid.splits hsome data
    have hget : tag.get? word = none :=
      hreadOff.get?_eq_none_iff.mpr fun i => not_markerAt_nil
    refine ⟨tag, hparse, hget, ?_⟩
    rw [render_of_parse hparse]
    exact hrender tag shown htype (.fallback htypeWord hvalueWord hmem hget hdefault)

/-- An attribute with a text of its own, and with its default. -/
theorem render_attribute_marked :
    ∃ (config : Config) (type : TypeConfig) (tag : Tag),
      read "[types.t]\nattributes = ['a']\ntemplate = '<\x7ba\x7d>'\ndefaults.a = 'd'" =
        .ok config ∧
      config.types.get? "t" = some type ∧
      config.parse "t: v a: x" NameMap.empty = .ok tag ∧
      (∃ shown, type.TagShows tag "a" shown ∧ config.registry.render tag =
        .ok ((type.templateOf "<").render tag ++ shown ++ (type.templateOf ">").render tag)) ∧
      config.registry.render tag = .ok "<x>" ∧ config.render "t" NameMap.empty = .ok "<d>" := by
  let type : TypeConfig :=
    { attributes := ["a"], template := some "<\x7ba\x7d>", defaults := NameMap.ofList [("a", "d")] }
  let config : Config := { types := NameMap.ofList [("t", type)] }
  let tag : Tag := { type := "t", value := "v", attrs := NameMap.ofList [("a", "x")] }
  have hread : read "[types.t]\nattributes = ['a']\ntemplate = '<\x7ba\x7d>'\ndefaults.a = 'd'" =
      .ok config := by cbv
  have hsome : config.types.get? "t" = some type := by rfl
  have htemplate : type.template = some ("<" ++ ("\x7b" ++ "a" ++ "\x7d") ++ ">") := by rfl
  have hparse : config.parse "t: v a: x" NameMap.empty = .ok tag := by cbv
  obtain ⟨hshown, -⟩ :=
    render_attribute hread hsome (List.mem_singleton.mpr rfl) (by decide) (by decide) htemplate
  exact ⟨config, type, tag, hread, hsome, hparse, hshown tag rfl, by cbv, by cbv⟩

/-- Two attributes that have a text in a tag, and that the template does not show. -/
theorem unshown_attributes :
    ∃ (config : Config) (type : TypeConfig) (tag : Tag),
      read "[types.t]\nattributes = ['type', '\x7bx']\ntemplate = '\x7btype\x7d\x7b\x7bx\x7d'" =
        .ok config ∧
      config.types.get? "t" = some type ∧ type.attributes = ["type", "\x7bx"] ∧
      type.template = some (("\x7b" ++ "type" ++ "\x7d") ++ ("\x7b" ++ "\x7bx" ++ "\x7d")) ∧
      config.parse "t: v type: a \x7bx: b" NameMap.empty = .ok tag ∧
      tag.get? "type" = some "a" ∧ tag.get? "\x7bx" = some "b" ∧
      config.registry.render tag = .ok "t\x7b\x7bx\x7d" := by
  let type : TypeConfig :=
    { attributes := ["type", "\x7bx"], template := some "\x7btype\x7d\x7b\x7bx\x7d" }
  let config : Config := { types := NameMap.ofList [("t", type)] }
  let tag : Tag :=
    { type := "t", value := "v", attrs := NameMap.ofList [("type", "a"), ("\x7bx", "b")] }
  exact ⟨config, type, tag, by cbv, by cbv, rfl, by cbv, by cbv, by cbv, by cbv, by cbv⟩

end Config
end InlineTag
