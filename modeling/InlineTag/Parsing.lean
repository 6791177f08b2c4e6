import InlineTag.Event
import InlineTag.Fault
import InlineTag.Outline
import InlineTag.Registry
import InlineTag.Text.Cut

/-!
# InlineTag.Parsing

Reading a tag from its source, such as `image: cat.png alt: A cat`. The text before the first colon
names the type. In the rest, every candidate that the type declares as an attribute is a marker:
what stands before the first marker is the value, and what stands behind a marker, up to the next,
is the text of its attribute. A text loses at most one space at its front and all white space at
its end. Of two markers with one name the later gives the text.
-/

namespace InlineTag

open Text Toml

/-- A text as it goes into a tag. -/
def clean : List Char → List Char
  | ' ' :: rest => trimEnd rest
  | text => trimEnd text

/-- The type and the rest of a source. Without a colon all of it is the type. -/
def splitSource (raw : List Char) : List Char × List Char :=
  match cutAt ':' raw with
  | some (front, rest) => (trim front, rest)
  | none => (trim raw, [])

/-- The name of the type that a source asks for. -/
def sourceType (raw : String) : String :=
  String.ofList (splitSource raw.toList).1

/-- What follows the first colon of a source. -/
def sourceRest (raw : String) : List Char :=
  (splitSource raw.toList).2

namespace TagType

/-- Whether a word is an attribute of the type. -/
def declares (type : TagType) (word : List Char) : Bool :=
  type.hasAttribute (String.ofList word)

/-- The value and the attributes that a text gives to a tag of the type. -/
def outline (type : TagType) (text : List Char) : Outline :=
  (Outline.ofText text).absorb type.declares

/-- The tag of a text, which is read as blank without a look at its words if it is blank. -/
def read (type : TagType) (name : String) (text : List Char) (data options : Bag) : Tag :=
  if allBlank text then { type := name, value := "", data, options }
  else
    let outline := type.outline text
    { type := name
      value := String.ofList (clean outline.lead)
      attrs := NameMap.ofList <| outline.fragments.map fun fragment =>
        (String.ofList fragment.word, String.ofList (clean fragment.text))
      data, options }

end TagType

namespace Registry

/-- Reads a tag from its source. -/
def parse (registry : Registry) (raw : String) (data options : Bag) : Except TagFault Tag :=
  match registry.lookup (sourceType raw) with
  | none => .error (.undefinedType (sourceType raw))
  | some type => .ok (type.read (sourceType raw) (sourceRest raw) data options)

/-- What reading a tag reports: nothing for an unknown type, otherwise every absorbed word in order
and then the tag. -/
def parseEvents (registry : Registry) (raw : String) : List Event :=
  match registry.lookup (sourceType raw) with
  | none => []
  | some type =>
    let text := sourceRest raw
    if allBlank text then [.parsedBlank (sourceType raw)]
    else
      let tag := type.read (sourceType raw) text NameMap.empty NameMap.empty
      let absorbed := (Outline.ofText text).words.filter fun word => !type.declares word
      absorbed.map (fun word => .absorbed (String.ofList word)) ++
        [.parsed tag.type tag.value tag.attrs.size]

theorem parse_of_lookup_none {registry : Registry} {raw : String}
    (h : registry.lookup (sourceType raw) = none) (data options : Bag) :
    registry.parse raw data options = .error (.undefinedType (sourceType raw)) := by
  rw [parse, h]

theorem parse_of_lookup_some {registry : Registry} {raw : String} {type : TagType}
    (h : registry.lookup (sourceType raw) = some type) (data options : Bag) :
    registry.parse raw data options =
      .ok (type.read (sourceType raw) (sourceRest raw) data options) := by
  rw [parse, h]

end Registry
end InlineTag
