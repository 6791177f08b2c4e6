import InlineTag.Config.Shape
import InlineTag.Config.Validity
import InlineTag.Toml.Document

/-!
# InlineTag.Config.Reading

Reading a configuration from its text: the text must be a document, the document must have the
shape of a configuration, and the names in it must be allowed, in this order.
-/

namespace InlineTag
namespace Config

open Toml

/-- The configuration of a text. -/
def read (text : String) : Except Fault Config :=
  match Toml.read text with
  | none => .error (.document .malformed)
  | some entries =>
    match ofEntries entries with
    | .error fault => .error (.document fault)
    | .ok config =>
      match config.fault? with
      | some fault => .error fault.toFault
      | none => .ok config

end Config
end InlineTag
