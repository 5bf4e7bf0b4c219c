import Flotation.Session.Perform

/-! The reports of a session: what each request answered, raised and wrote, and how it left the
service and the simulator it concerned. -/
namespace Flotation

/-- The receipts are in order. Consoles that nothing was written to are left out. -/
structure Report where
  outcome : Outcome Answer
  receipts : List Receipt
  standard : String
  captured : List (String × String)
  console : Option Console
  simulator : Option (Simulator Float)
  service : Service

namespace Session

/-- The text that named consoles have kept. -/
def captured (o : Outlets) : List (String × String) :=
  o.consoles.filterMap fun
    | (.named name, terminal) =>
      if terminal.captured.isEmpty then none else some (name, terminal.captured)
    | (.simulator _, _) => none

/-- The report on a request, made of the session that it left. -/
def report (r : Request) (outcome : Outcome Answer) (s : Session) : Report where
  outcome := outcome
  receipts := s.station.outlets.journal.reverse
  standard := s.station.outlets.standard
  captured := captured s.station.outlets
  console := r.console.bind s.console?
  simulator := s.simulators.get? r.simulator
  service := s.service r.service

/-- Answer requests one after the other. Each starts with nothing written, and an aborted one
is the last. -/
def run (s : Session) : List Request → List Report
  | [] => []
  | r :: rest =>
    let station := { s.station with outlets := s.station.outlets.drain }
    match (perform r).run { s with station } with
    | (.aborted, s) => [report r .aborted s]
    | (outcome, s) => report r outcome s :: s.run rest

/-- The reports of a session that starts with nothing. -/
def reports (requests : List Request) : List Report := run {} requests

end Session
end Flotation
