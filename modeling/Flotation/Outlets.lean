import Flotation.Console
import Flotation.Directory
import Flotation.Log.Sink

/-! Outlets: everything outside a log service that its sinks and its user write to. -/
namespace Flotation

/-- A console in place. It writes to the standard output or keeps its own text. -/
structure Terminal where
  console : Console
  standard : Bool
  captured : String := ""
  deriving DecidableEq, Repr

/-- What a recording sink was handed. -/
inductive Receipt where
  | entry (tag : String) (entry : Entry)
  | batch (tag : String) (entries : List Entry)
  | height (tag : String) (height : Float)

/-- The journal holds the receipts of all recording sinks, the latest first. -/
structure Outlets where
  standard : String := ""
  consoles : List (ConsoleId × Terminal) := []
  directory : Directory := {}
  journal : List Receipt := []

namespace Outlets

def console? (o : Outlets) (id : ConsoleId) : Option Terminal := o.consoles.lookup id

/-- Put up a console, in place of one of the same identity. -/
def addConsole (o : Outlets) (id : ConsoleId) (terminal : Terminal) : Outlets :=
  { o with consoles := o.consoles.filter (·.1 ≠ id) ++ [(id, terminal)] }

def removeConsole (o : Outlets) (id : ConsoleId) : Outlets :=
  { o with consoles := o.consoles.filter (·.1 ≠ id) }

/-- Change the settings of a console. -/
def configure (o : Outlets) (id : ConsoleId) (f : Console → Console) : Outlets :=
  { o with consoles := o.consoles.map fun (other, terminal) =>
      if other = id then (other, { terminal with console := f terminal.console })
      else (other, terminal) }

/-- Write a text to the standard output. -/
def say (o : Outlets) (text : String) : Outlets := { o with standard := o.standard ++ text }

/-- Write a text through a console. -/
def print (o : Outlets) (id : ConsoleId) (text : Console → String) : Outlets :=
  match o.console? id with
  | none => o
  | some terminal =>
    if terminal.standard then o.say (text terminal.console)
    else
      { o with consoles := o.consoles.map fun (other, terminal) =>
          if other = id then
            (other, { terminal with captured := terminal.captured ++ text terminal.console })
          else (other, terminal) }

/-- Each text as a line of its own. -/
def lines (texts : List String) : String :=
  texts.foldl (fun done text => done ++ text ++ "\n") ""

/-- Deliver a batch to its target. Consoles get rendered lines and files plain ones. -/
def receive (o : Outlets) (batch : List Entry) : Target → Outlets
  | .console id => o.print id (fun console => lines (batch.map (Entry.render console)))
  | .file path =>
    { o with directory := o.directory.append path (lines (batch.map (Entry.text true))) }
  | .nowhere => o
  | .entries tag => { o with journal := (batch.map (Receipt.entry tag)).reverse ++ o.journal }
  | .batches tag => { o with journal := .batch tag batch :: o.journal }

/-- Note a height in the journal, if it is recorded at all. -/
def noteHeight (o : Outlets) (tag : Option String) (height : Float) : Outlets :=
  match tag with
  | none => o
  | some tag => { o with journal := .height tag height :: o.journal }

/-- Forget all text written and all receipts. Consoles and files stay. -/
def drain (o : Outlets) : Outlets :=
  { o with
    standard := ""
    consoles := o.consoles.map fun (id, terminal) => (id, { terminal with captured := "" })
    journal := [] }

end Outlets
end Flotation
