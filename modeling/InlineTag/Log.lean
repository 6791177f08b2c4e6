import InlineTag.Log.Directive

/-!
# InlineTag.Log

Which events go into the log, and how they look there. A filter is a list of directives. Each gives a
level for the events of some part of the program, or for those that have some field; of the
directives that fit an event the most specific one decides. Without a filter only warnings are
logged, or everything from debugging upwards if asked for.
-/

namespace InlineTag
namespace Log

open Text

abbrev Filter := List Directive

/-! ## Reading of a filter -/

/-- A filter: directives between commas. An empty one lets errors through. -/
def readFilter (text : List Char) : Except Misread Filter :=
  match ((pieces ',' text).filter fun piece => !piece.isEmpty).mapM readDirective with
  | .error misread => .error misread
  | .ok [] => .ok [⟨[], .everything, some .error⟩]
  | .ok directives => .ok directives

def defaultFilter (verbose : Bool) : Filter :=
  [⟨[], .everything, some (if verbose then .debug else .warn)⟩]

/-- The filter of a run: the given one if it can be read, which a text that is torn cannot. -/
def filter (given : Option String) (verbose : Bool) : Filter :=
  match given with
  | none => defaultFilter verbose
  | some text =>
    match readFilter text.toList with
    | .error _ => defaultFilter verbose
    | .ok filter => filter

/-! ## What a filter lets through -/

/-- The names of the fields of an event, of which the message is one. -/
def fieldNames (event : Event) : List String :=
  "message" :: event.fields.map (·.name)

def Scope.fits (event : Event) : Scope → Bool
  | .everything => true
  | .field name => (fieldNames event).contains (String.ofList name)
  | .span => false

def Directive.fits (event : Event) (directive : Directive) : Bool :=
  directive.target.isPrefixOf event.origin.toList && directive.scope.fits event

/-- The name of the field that a directive asks for; empty if it asks for none. -/
def Directive.fieldName (directive : Directive) : List Char :=
  match directive.scope with
  | .field name => name
  | _ => []

/-- Whether one directive is more specific than another that fits the same event: its target is
longer, or else it asks for a field and the other for none or for one with an earlier name. -/
def Directive.moreSpecific (directive other : Directive) : Bool :=
  other.target.length < directive.target.length ||
    (other.target.length = directive.target.length && other.fieldName < directive.fieldName)

/-- The most specific of the directives that fit an event, and of equally specific ones the last. -/
def deciding (event : Event) : Filter → Option Directive
  | [] => none
  | directive :: rest =>
    match deciding event rest with
    | none => if directive.fits event then some directive else none
    | some other =>
      if directive.fits event && directive.moreSpecific other then some directive else some other

def Filter.admits (filter : Filter) (event : Event) : Bool :=
  match deciding event filter with
  | none => false
  | some directive => directive.threshold.admits event

/-! ## Lines -/

def fieldText (field : Field) : String :=
  field.name ++ "=" ++ (if field.inQuotes then quoted field.text else field.text)

/-- The name of a level, filled with spaces in front. -/
def levelText (level : Level) : String :=
  String.ofList (List.replicate (5 - level.name.length) ' ') ++ level.name

/-- The line of an event, behind the time at which it was reported. -/
def line (stamp : String) (event : Event) : String :=
  " ".intercalate (stamp :: levelText event.level :: event.message :: event.fields.map fieldText) ++
    "\n"

/-- The log of a list of events. -/
def lines (stamp : String) (filter : Filter) (events : List Event) : List String :=
  (events.filter filter.admits).map (line stamp)

end Log
end InlineTag
