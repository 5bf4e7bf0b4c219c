import Flotation.Simulator.Rig

/-! Sessions: a station with any number of further log services, simulators, open scopes and
contexts. -/
namespace Flotation

/-- The station works for the service that all simulators share. Of the scopes and contexts the
one opened last comes first; a scope remembers its service and how that was buffering, and a
context is kept as the one to go back to. -/
structure Session where
  station : Station := {}
  services : Named Service := {}
  simulators : Named (Simulator Float) := {}
  scopes : List (String × Bool) := []
  contexts : List Context := []
  snapshots : Named (Scene Float) := {}

namespace Session
variable {β : Type}

/-- The name of the service that simulators and reported faults use. -/
def sharedService : String := "global"

/-- The service of a name, made when it is first asked for. -/
def service (s : Session) (name : String) : Service :=
  if name = sharedService then s.station.service else (s.services.get? name).getD {}

/-- An action on the station. -/
def atStation : Action Station β → Action Session β :=
  .onPart Session.station fun station s => { s with station }

/-- The station while it works for the service of a name. -/
def stationFor (name : String) (s : Session) : Station :=
  { s.station with service := s.service name }

/-- Take back a station that has worked for the service of a name. -/
def settle (name : String) (station : Station) (s : Session) : Session :=
  if name = sharedService then { s with station }
  else
    { s with
      station := { station with service := s.station.service }
      services := s.services.put name station.service }

/-- An action on the station while it works for the service of a name. -/
def atService (name : String) : Action Station β → Action Session β :=
  .onPart (stationFor name) (settle name)

end Session
end Flotation
