import InlineTag.Parsing

/-!
# InlineTag.Rendering

Showing a tag by the handler of its type. What the handler gives is the result, unchanged.
-/

namespace InlineTag

open Toml

namespace Registry

/-- The handler of a type; none also when there is no such type. -/
def handler? (registry : Registry) (type : String) : Option Handler :=
  (registry.lookup type).bind (·.handler)

def render (registry : Registry) (tag : Tag) : Except TagFault String :=
  match registry.handler? tag.type with
  | none => .error (.noHandler tag.type)
  | some handler => .ok (handler tag)

def renderEvents (registry : Registry) (tag : Tag) : List Event :=
  match registry.handler? tag.type with
  | none => [.noHandler tag.type]
  | some _ => [.rendering tag.type]

/-- Reads a tag and shows it, by one and the same table. -/
def parseAndRender (registry : Registry) (raw : String) (data options : Bag) :
    Except TagFault String :=
  match registry.parse raw data options with
  | .error fault => .error fault
  | .ok tag => registry.render tag

def parseAndRenderEvents (registry : Registry) (raw : String) (data options : Bag) :
    List Event :=
  registry.parseEvents raw ++
    match registry.parse raw data options with
    | .error _ => []
    | .ok tag => registry.renderEvents tag

/-- What registering a type reports. -/
def registerEvents (registry : Registry) (type : TagType) : List Event :=
  .registering type.name type.attributes type.hasHandler ::
    if registry.contains type.name then [.replaced type.name] else []

end Registry
end InlineTag
