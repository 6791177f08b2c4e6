import InlineTag.Listing
import InlineTag.Rendering

/-!
# InlineTag.Config

A configuration declares tag types, with templates for those that can be shown, and the options
handed to every tag. From it come the table of types and, over that table, the three things that
can be done with a configuration: to parse a source, to render it, and to list the types.
-/

namespace InlineTag

open Toml

structure TypeConfig where
  attributes : List String := []
  template : Option String := none
  defaults : NameMap String := NameMap.empty
  deriving Inhabited

structure Config where
  types : NameMap TypeConfig := NameMap.empty
  options : Bag := NameMap.empty
  deriving Inhabited

namespace TypeConfig

/-- The tag type of an entry. The template has its names from the list as it was written. -/
def tagType (type : TypeConfig) (name : String) : TagType :=
  TagType.declare name type.attributes <| type.template.map fun text =>
    Handler.ofTemplate ⟨text, type.attributes, type.defaults⟩

end TypeConfig

namespace Config

/-- The tag types of a configuration, in ascending order of names. -/
def tagTypes (config : Config) : List TagType :=
  config.types.entries.map fun (name, type) => type.tagType name

/-- The table of a configuration's types. -/
def registry (config : Config) : Registry :=
  config.tagTypes.foldl Registry.register Registry.empty

/-- What filling a table reports. -/
def registerEvents : Registry → List TagType → List Event
  | _, [] => []
  | registry, type :: rest =>
    registry.registerEvents type ++ registerEvents (registry.register type) rest

/-- What filling the table of a configuration reports. -/
def registryEvents (config : Config) : List Event :=
  registerEvents Registry.empty config.tagTypes

/-! ## What can be done with a configuration -/

/-- Reads a tag, which takes the options of the configuration. -/
def parse (config : Config) (raw : String) (data : Bag) : Except TagFault Tag :=
  config.registry.parse raw data config.options

/-- Reads a tag and shows it. -/
def render (config : Config) (raw : String) (data : Bag) : Except TagFault String :=
  config.registry.parseAndRender raw data config.options

/-- The types of the configuration. -/
def summaries (config : Config) : List TypeSummary :=
  config.registry.summaries

end Config
end InlineTag
