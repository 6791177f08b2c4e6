import InlineTag.Event
import InlineTag.Fault

/-!
# InlineTag.Logged

Results together with the events that were reported on the way to them. Events are kept in order,
and a fault ends the work but loses no event.
-/

namespace InlineTag

structure Logged (α : Type) where
  events : List Event
  result : Except Fault α

namespace Logged

variable {α β : Type}

def done (value : α) : Logged α :=
  ⟨[], .ok value⟩

def fail (fault : Fault) : Logged α :=
  ⟨[], .error fault⟩

/-- Goes on with a result; a fault ends the work. -/
def andThen (first : Logged α) (next : α → Logged β) : Logged β :=
  match first.result with
  | .error fault => ⟨first.events, .error fault⟩
  | .ok value => ⟨first.events ++ (next value).events, (next value).result⟩

/-- A step of the engine, with what it reports. -/
def ofTagStep (events : List Event) : Except TagFault α → Logged α
  | .error fault => ⟨events, .error (.tag fault)⟩
  | .ok value => ⟨events, .ok value⟩

end Logged
end InlineTag
