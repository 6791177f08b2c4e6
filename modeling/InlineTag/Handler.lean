import InlineTag.Template

/-!
# InlineTag.Handler

Handlers turn a tag into the text to show for it. Besides templates there are a few handlers that
show a tag's parts as they are.
-/

namespace InlineTag

open Toml

abbrev Handler := Tag → String

namespace Handler

def ofTemplate (template : Template) : Handler :=
  template.render

/-- The value alone. -/
def echo : Handler := fun tag => tag.value

/-- The value and the attributes `a` and `b`, joined by hyphens. -/
def hyphenated : Handler := fun tag =>
  "test: " ++ tag.value ++ "-" ++ tag.attr "a" "" ++ "-" ++ tag.attr "b" ""

/-- Every attribute with its text in angle brackets, in the order of names. -/
def attributes : Handler := fun tag =>
  String.join (tag.attrs.entries.map fun (name, text) => name ++ "=<" ++ text ++ ">;")

/-- The text under a key of a bag, or a hyphen. -/
def bagText (bag : Bag) (key : String) : String :=
  ((bag.get? key).bind Value.asText).getD "-"

/-- The value behind the `base` of the options and the `page` of the data. -/
def context : Handler := fun tag =>
  bagText tag.options "base" ++ bagText tag.data "page" ++ "/" ++ tag.value

end Handler
end InlineTag
