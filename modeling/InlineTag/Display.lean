import InlineTag.Tag
import InlineTag.Text.Quoted
import InlineTag.Toml.Written

/-!
# InlineTag.Display

A tag as lines of text: its type, its value in quotes, its attributes, and its data if it has any.
The options are not shown.
-/

namespace InlineTag

open Text

namespace Tag

def attrLines (tag : Tag) : List String :=
  match tag.attrs.entries with
  | [] => ["attrs: (none)"]
  | entries =>
    "attrs:" :: entries.map fun (name, text) => "  " ++ name ++ " = " ++ quoted text

def dataLines (tag : Tag) : List String :=
  match tag.data.entries with
  | [] => []
  | entries => "data:" :: entries.map fun (key, value) => "  " ++ key ++ " = " ++ value.text

/-- The lines of a tag; a text with newlines in it may take several lines of the result. -/
def lines (tag : Tag) : List String :=
  ("type: " ++ tag.type) :: ("value: " ++ quoted tag.value) :: (tag.attrLines ++ tag.dataLines)

/-- The lines of a tag, each ended by a newline. -/
def display (tag : Tag) : String :=
  String.join (tag.lines.map (· ++ "\n"))

end Tag
end InlineTag
