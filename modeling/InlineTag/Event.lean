import InlineTag.Text.Quoted

/-!
# InlineTag.Event

What the engine reports while it works. An event has a level, a place in the program that it comes
from, a message and named fields; a field is either a text, which a log line shows in quotes, or
something that is shown as it is.
-/

namespace InlineTag

open Text

/-- How much an event matters, from the least to the most. -/
inductive Level where
  | trace
  | debug
  | info
  | warn
  | error
  deriving DecidableEq, Repr, Inhabited

namespace Level

def name : Level → String
  | .trace => "TRACE"
  | .debug => "DEBUG"
  | .info => "INFO"
  | .warn => "WARN"
  | .error => "ERROR"

def rank : Level → Nat
  | .trace => 0
  | .debug => 1
  | .info => 2
  | .warn => 3
  | .error => 4

end Level

inductive Event where
  | registering (type : String) (attributes : List String) (hasHandler : Bool)
  | replaced (type : String)
  | absorbed (word : String)
  | parsedBlank (type : String)
  | parsed (type value : String) (attributes : Nat)
  | rendering (type : String)
  | noHandler (type : String)
  | loading (path : String)
  | failed (fault : String)
  deriving DecidableEq, Repr, Inhabited

structure Field where
  name : String
  text : String
  /-- Whether a log line shows the text in quotes. -/
  inQuotes : Bool
  deriving DecidableEq, Repr

namespace Event

/-- Absorbed words are reported for tracing only, everything else for debugging. -/
def level : Event → Level
  | .absorbed _ => .trace
  | _ => .debug

/-- The part of the program that an event comes from, as a filter of the log names it. -/
def origin : Event → String
  | .registering .. => "macrotag::domain::registry"
  | .replaced _ => "macrotag::domain::registry"
  | .absorbed _ => "macrotag::domain::parser"
  | .parsedBlank _ => "macrotag::domain::parser"
  | .parsed .. => "macrotag::domain::parser"
  | .rendering _ => "macrotag::domain::renderer"
  | .noHandler _ => "macrotag::domain::renderer"
  | .loading _ => "macrotag::infrastructure::config"
  | .failed _ => "macrotag"

def message : Event → String
  | .registering .. => "registering tag type"
  | .replaced _ => "replaced existing tag type definition"
  | .absorbed _ => "absorbing undeclared attribute marker"
  | .parsedBlank _ => "parsed tag with empty remainder"
  | .parsed .. => "parsed tag"
  | .rendering _ => "rendering tag"
  | .noHandler _ => "no render handler available"
  | .loading _ => "loading config"
  | .failed _ => "command failed"

def fields : Event → List Field
  | .registering type attributes hasHandler =>
    [⟨"tag_type", type, false⟩, ⟨"attributes", quotedList attributes, false⟩,
      ⟨"has_handler", toString hasHandler, false⟩]
  | .replaced type => [⟨"tag_type", type, false⟩]
  | .absorbed word => [⟨"fragment", word, true⟩]
  | .parsedBlank type => [⟨"tag_type", type, true⟩]
  | .parsed type value attributes =>
    [⟨"tag_type", type, true⟩, ⟨"value", value, false⟩,
      ⟨"attributes", toString attributes, false⟩]
  | .rendering type => [⟨"tag_type", type, true⟩]
  | .noHandler type => [⟨"tag_type", type, true⟩]
  | .loading path => [⟨"path", path, false⟩]
  | .failed fault => [⟨"error", fault, false⟩]

end Event
end InlineTag
