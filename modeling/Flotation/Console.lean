import Flotation.Log.Entry

/-! Consoles: lines filtered by level and painted if colours are on. -/
namespace Flotation

inductive Colour where
  | reset
  | dim
  | red
  | green
  | yellow
  | cyan
  | white
  | gray
  | redGround
  deriving DecidableEq, Repr

namespace Colour

/-- The number by which a terminal knows the colour. -/
def code : Colour → Nat
  | .reset => 0
  | .dim => 2
  | .red => 31
  | .green => 32
  | .yellow => 33
  | .cyan => 36
  | .white => 37
  | .gray => 90
  | .redGround => 41

/-- The sequence that switches a terminal to the colour. -/
def escape (c : Colour) : String := "\x1b[" ++ toString c.code ++ "m"

end Colour

/-- The colour of a level's tag. -/
def Level.colour : Level → Colour
  | .trace => .gray
  | .debug => .cyan
  | .info => .white
  | .event => .green
  | .warning => .yellow
  | .error => .red
  | .fatal => .redGround

/-- The settings of a console: whether it paints, and the level its own lines need. -/
structure Console where
  colours : Bool := false
  level : Level := .info
  deriving DecidableEq, Repr

namespace Console

/-- Paint a text and switch back after it; without colours the text is left alone. -/
def paint (c : Console) (colour : Colour) (text : String) : String :=
  if c.colours then colour.escape ++ text ++ Colour.reset.escape else text

/-- The line for a message at a level, unless the console drops that level. -/
def line? (c : Console) (level : Level) (message : String) : Option String :=
  if level < c.level then none
  else some (c.paint level.colour ("[" ++ level.letters ++ "]") ++ " " ++ message)

end Console

/-- The line of an entry with its parts painted, its message left alone. -/
def Entry.render (c : Console) (e : Entry) : String :=
  let stamp := c.paint .dim ("[" ++ e.stamp ++ "]") ++ " "
  let tag := c.paint e.level.colour ("[" ++ e.level.letters ++ "]") ++ " "
  let context :=
    if e.context.hasComponent then c.paint .cyan ("[" ++ e.context.path ++ "]") ++ " " else ""
  stamp ++ tag ++ context ++ e.message

end Flotation
