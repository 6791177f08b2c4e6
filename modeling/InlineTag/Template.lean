import InlineTag.Tag
import InlineTag.Text.Blank

/-!
# InlineTag.Template

Templates with placeholders. A placeholder is a word between braces, without braces or white space
in it. A template is first taken apart into placeholders and single characters (`pieces`), and
each piece is then filled on its own, so what a tag puts into a template is never read again.
-/

namespace InlineTag

open Text

/-- A template for the tags of one type. The attributes are the names that may stand in its
placeholders, and a default is the text of an attribute that a tag lacks. -/
structure Template where
  text : String
  attributes : List String
  defaults : NameMap String := NameMap.empty
  deriving Inhabited

namespace Template

inductive Piece where
  | plain (c : Char)
  | placeholder (name : List Char)
  deriving DecidableEq, Repr

/-- The text that a piece is read from. -/
def Piece.source : Piece → List Char
  | .plain c => [c]
  | .placeholder name => '{' :: (name ++ ['}'])

def isNameChar (c : Char) : Bool :=
  c != '{' && c != '}' && !isBlank c

/-- The placeholder whose opening brace stands before the text, with what follows it. -/
def placeholder? (text : List Char) : Option (List Char × List Char) :=
  match text.takeWhile isNameChar, text.dropWhile isNameChar with
  | c :: name, '}' :: rest => some (c :: name, rest)
  | _, _ => none

theorem placeholder?_shorter {text name rest : List Char}
    (h : placeholder? text = some (name, rest)) : rest.length < text.length := by
  unfold placeholder? at h
  split at h
  · rename_i hdrop
    cases h
    have := (List.dropWhile_sublist (l := text) isNameChar).length_le
    rw [hdrop] at this
    exact this
  · cases h

theorem eq_of_placeholder? {text name rest : List Char}
    (h : placeholder? text = some (name, rest)) : text = name ++ '}' :: rest := by
  unfold placeholder? at h
  split at h
  · rename_i htake hdrop
    cases h
    rw [← htake, ← hdrop, List.takeWhile_append_dropWhile]
  · cases h

def pieces (text : List Char) : List Piece :=
  match text with
  | [] => []
  | c :: rest =>
    if c = '{' then
      match _h : placeholder? rest with
      | some (name, after) => .placeholder name :: pieces after
      | none => .plain c :: pieces rest
    else .plain c :: pieces rest
termination_by text.length
decreasing_by
  · exact Nat.lt_succ_of_lt (placeholder?_shorter _h)
  · exact Nat.lt_succ_self _
  · exact Nat.lt_succ_self _

/-- No character of a template is lost in its pieces. -/
theorem flatMap_source_pieces (text : List Char) :
    (pieces text).flatMap Piece.source = text := by
  fun_induction pieces text with
  | case1 => rfl
  | case2 rest name after h ih =>
    rw [List.flatMap_cons, ih, Piece.source, eq_of_placeholder? h]
    simp
  | case3 rest h ih => rw [List.flatMap_cons, ih]; rfl
  | case4 c rest hc ih => rw [List.flatMap_cons, ih]; rfl

/-- The text that a tag has for a name: its type, its value, or an attribute of the template. -/
def resolve (template : Template) (tag : Tag) (name : String) : Option String :=
  if name = "type" then some tag.type
  else if name = "value" then some tag.value
  else if name ∈ template.attributes then
    some (tag.attr name ((template.defaults.get? name).getD ""))
  else none

/-- A piece with the tag filled in. An unknown placeholder stays as it is. -/
def fill (template : Template) (tag : Tag) : Piece → List Char
  | .plain c => [c]
  | .placeholder name =>
    match template.resolve tag (String.ofList name) with
    | some text => text.toList
    | none => (Piece.placeholder name).source

/-- The template with the tag filled in. -/
def render (template : Template) (tag : Tag) : String :=
  String.ofList ((pieces template.text.toList).flatMap (template.fill tag))

end Template
end InlineTag
