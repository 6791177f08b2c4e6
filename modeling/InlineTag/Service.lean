import InlineTag.Config
import InlineTag.Fault

/-!
# InlineTag.Service

What the program does for a command, as a service. A service has a table of its own and the options
that its tags take, either those of a configuration or given ones, and can be asked any number of
times. Its faults are the program's, so what goes wrong in the engine comes out wrapped.
-/

namespace InlineTag

open Toml

structure Service where
  registry : Registry
  options : Bag

namespace Service

def ofConfig (config : Config) : Service :=
  ⟨config.registry, config.options⟩

/-- Reads a tag. -/
def parse (service : Service) (raw : String) (data : Bag) : Except Fault Tag :=
  (service.registry.parse raw data service.options).mapError .tag

/-- Reads a tag and shows it. -/
def render (service : Service) (raw : String) (data : Bag) : Except Fault String := do
  let tag ← (service.registry.parse raw data service.options).mapError .tag
  (service.registry.render tag).mapError .tag

/-- The types, each looked up by its name. -/
def list (service : Service) : List TypeSummary :=
  (service.registry.names.filterMap service.registry.lookup).map .ofType

end Service
end InlineTag
