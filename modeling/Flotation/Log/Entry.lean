import Flotation.Decimal.Fixed
import Flotation.Log.Level
import Flotation.Text

/-! Log entries, and the part of the simulation that each comes from. -/
namespace Flotation

/-- Where an entry comes from: a component, perhaps of some entity. -/
structure Context where
  entity : String := ""
  component : String := ""
  deriving DecidableEq, Repr

namespace Context

def path (c : Context) : String := Text.dotted c.entity c.component

/-- An entity alone makes no context. -/
def hasComponent (c : Context) : Bool := !c.component.isEmpty

end Context

/-- One line of the log. The time is that of the simulation, in seconds. -/
structure Entry where
  level : Level
  time : Float
  message : String
  context : Context

namespace Entry

/-- The time as log lines show it, to the millisecond. -/
def stamp (e : Entry) : String := Decimal.fixed 3 e.time

/-- The plain line of an entry, with or without its context. -/
def text (withContext : Bool) (e : Entry) : String :=
  "[" ++ e.stamp ++ "] [" ++ e.level.letters ++ "] " ++
    (if withContext && e.context.hasComponent then "[" ++ e.context.path ++ "] " else "") ++ e.message

end Entry
end Flotation
