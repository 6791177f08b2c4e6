import InlineTag.Toml.Value

/-!
# InlineTag.Tag

A tag: its type, its value, its attributes, and two bags of named values that no part of the
engine looks into, the data of the page and the options of the site. An attribute that is absent
differs from one with an empty text.
-/

namespace InlineTag

open Toml

structure Tag where
  type : String
  value : String
  attrs : NameMap String := NameMap.empty
  data : Bag := NameMap.empty
  options : Bag := NameMap.empty
  deriving Inhabited

namespace Tag

/-- The text of an attribute; none when the attribute is absent. -/
def get? (tag : Tag) (name : String) : Option String :=
  tag.attrs.get? name

/-- The text of an attribute, or the fallback when the attribute is absent. -/
def attr (tag : Tag) (name fallback : String) : String :=
  (tag.get? name).getD fallback

/-- Sets an attribute, replacing an earlier text. -/
def withAttr (tag : Tag) (name text : String) : Tag :=
  { tag with attrs := tag.attrs.insert name text }

/-- Equality of tags in all five parts. -/
def same (a b : Tag) : Bool :=
  a.type == b.type && a.value == b.value && a.attrs.entries == b.attrs.entries &&
    a.data.same b.data && a.options.same b.options

end Tag
end InlineTag
