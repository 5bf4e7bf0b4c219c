import Flotation.Action
import Flotation.Log.Service
import Flotation.Outlets

/-! Stations: a log service at work, with the context in force and the outlets it writes to.
Sinks are served in order, and the first that refuses a batch keeps it from the later ones. -/
namespace Flotation

/-- The service used here, the current context, the outlets, and the number of simulators that
have put up their console so far. -/
structure Station where
  service : Service := {}
  context : Context := {}
  outlets : Outlets := {}
  serials : Nat := 0

/-- How a batch fared: the complaint that ended its delivery, if any, and what it left. -/
structure Delivery where
  complaint : Option String
  slots : List Slot
  outlets : Outlets

/-- Put back a slot that comes before the ones of a delivery. -/
def Delivery.behind (d : Delivery) (slot : Slot) : Delivery :=
  { d with slots := slot :: d.slots }

/-- Hand each sink the entries it admits, but never an empty batch. A sink that refuses its
batch writes nothing. -/
def deliver (batch : List Entry) : List Slot → Outlets → Delivery
  | [], outlets => ⟨none, [], outlets⟩
  | slot :: rest, outlets =>
    let admitted := slot.admitted batch
    if admitted.isEmpty then (deliver batch rest outlets).behind slot
    else
      let slot := slot.handed admitted
      match slot.complaint with
      | some reason => ⟨some reason, slot :: rest, outlets⟩
      | none => (deliver batch rest (outlets.receive admitted slot.sink.target)).behind slot

namespace Station

/-- Change the settings of the service. -/
def onService (f : Service → Service) : Action Station Unit :=
  .update fun st => { st with service := f st.service }

@[simp] theorem run_onService (f : Service → Service) (st : Station) :
    (onService f).run st = (.returned (), { st with service := f st.service }) := rfl

/-- Change the outlets. -/
def onOutlets (f : Outlets → Outlets) : Action Station Unit :=
  .update fun st => { st with outlets := f st.outlets }

/-- The station after a delivery. -/
def delivered (st : Station) (d : Delivery) : Station :=
  { st with service := { st.service with slots := d.slots }, outlets := d.outlets }

/-- Deliver a batch to the sinks of the service. -/
def dispatch (batch : List Entry) : Action Station Unit := ⟨fun st =>
  let d := deliver batch st.service.slots st.outlets
  match d.complaint with
  | some reason => (.raised (.sink reason), st.delivered d)
  | none => (.returned (), st.delivered d)⟩

/-- Log an entry unless its level is below the threshold: accept it, then hold it or deliver it
at once. -/
def logEntry (entry : Entry) : Action Station Unit := do
  let service ← .read Station.service
  if service.accepts entry.level then
    onService (·.enter entry)
    if service.buffering then onService (·.hold entry) else dispatch [entry]

/-- Log a message under the current context. -/
def log (level : Level) (time : Float) (message : String) : Action Station Unit := do
  let context ← .read Station.context
  logEntry ⟨level, time, message, context⟩

/-- Deliver the entries held as one batch. They are held until every sink has accepted. -/
def flush : Action Station Unit := do
  let service ← .read Station.service
  if !service.held.isEmpty then
    dispatch service.pending
    onService (·.dropHeld)

/-- Start buffering and give back whether the service was buffering before. -/
def openScope : Action Station Bool := do
  let service ← .read Station.service
  onService (·.buffer true)
  return service.buffering

/-- Deliver what is held, then go back to the former way. -/
def closeScope (before : Bool) : Action Station Unit := do
  flush
  onService (·.buffer before)

/-- Install a context and give back the one it replaces. -/
def enter (context : Context) : Action Station Context := do
  let before ← .read Station.context
  .update fun st => { st with context }
  return before

def leave (before : Context) : Action Station Unit := .update fun st => { st with context := before }

/-- Log a fault at the level of its severity. The entry has the current entity, and the
component is the fault's category unless one is given. -/
def report (fault : Fault) (time : Float) (component : String) : Action Station Unit := do
  let context ← .read Station.context
  let component := if component.isEmpty then fault.category else component
  logEntry ⟨fault.severity.level, time, fault.message, ⟨context.entity, component⟩⟩

/-- Log a fault, then raise it. If a sink refuses the entry, its complaint is raised instead. -/
def reject {α : Type} (fault : Fault) (time : Float) (component : String) : Action Station α := do
  report fault time component
  .raise (.fault fault)

/-- Open a log file to add to it. -/
def openLog (path : String) : Action Station Unit := do
  let outlets ← .read Station.outlets
  match outlets.directory.openAppend? path with
  | none => .raise (.fault (.unwritableLog path))
  | some directory => onOutlets fun o => { o with directory }

end Station
end Flotation
