import Flotation.Proofs.Session.Course
import Flotation.Proofs.Simulator.Chronicle

/-! The moves of a session as one of its simulators has them: what it is asked itself, and whatever else is
requested in the meantime. -/
namespace Flotation
open Flotation.Action

inductive Move where
  | ask (call : Call Float)
  | other (request : Request)

/-- The command is put to the simulator of its request, or makes or ends it. -/
def Command.addresses : Command → Bool
  | .newSimulator _ | .destroy | .describe | .step .. | .run | .reset | .adoptTime _ | .restore _
  | .adoptScene _ | .addObserver _ | .clearObservers => true
  | _ => false

/-- A scope is opened or closed. -/
def Command.scoping : Command → Bool
  | .openScope | .closeScope => true
  | _ => false

/-- What else is requested is not for the simulator of this name. -/
def Move.Spares (name : String) : Move → Prop
  | .ask _ => True
  | .other request => request.simulator ≠ name

namespace Session

/-- The answer to a call has the count of ticks if it is a run. -/
def reply : Call Float → Action (Rig Float) Answer
  | .run => do
    let ticks ← Rig.run
    return .ticks ticks
  | call => quietly (Rig.answer call)

def make (name : String) : Move → Action Session Answer
  | .ask call => atSimulator name (reply call)
  | .other request => perform request

/-- The session after some moves, unless one of them aborts the program. Whatever they raise is caught. -/
def follow (name : String) (s : Session) : List Move → Option Session
  | [] => some s
  | move :: rest =>
    match (make name move).run s with
    | (.aborted, _) => none
    | (_, t) => t.follow name rest

variable {name : String} {s : Session}

theorem follow_cons {move : Move} (h : ((make name move).run s).1 ≠ .aborted) (rest : List Move) :
    s.follow name (move :: rest) = ((make name move).run s).2.follow name rest := by
  rw [follow]
  rcases hr : (make name move).run s with ⟨_ | _ | _, t⟩
  · rfl
  · rfl
  · rw [hr] at h
    exact absurd rfl h

theorem run_atSimulator {simulator : Simulator Float} (h : s.simulators.get? name = some simulator)
    (x : Action (Rig Float) Answer) :
    (atSimulator name x).run s = ((x.run ⟨simulator, s.station⟩).1,
      { s with
        station := (x.run ⟨simulator, s.station⟩).2.station
        simulators := s.simulators.put name (x.run ⟨simulator, s.station⟩).2.simulator }) := by
  rw [atSimulator, run_bind_returned (run_read _ s), h]
  rfl

theorem run_atSimulator_none (h : s.simulators.get? name = none) (x : Action (Rig Float) Answer) :
    (atSimulator name x).run s = (.returned .nothing, s) := by
  rw [atSimulator, run_bind_returned (run_read _ s), h]
  rfl

/-- A call is put to the simulator at the station, and the simulator keeps its name. -/
theorem ask_run {simulator : Simulator Float} (h : s.simulators.get? name = some simulator)
    (call : Call Float) :
    ((make name (.ask call)).run s).1 = ((reply call).run ⟨simulator, s.station⟩).1 ∧
      ((make name (.ask call)).run s).2.simulators.get? name =
        some ((reply call).run ⟨simulator, s.station⟩).2.simulator := by
  rw [make, run_atSimulator h]
  exact ⟨rfl, Named.get?_put_self _ _ _⟩

/-- A view in which a request cannot be seen. It shows nothing of the services, the contexts and the snapshots.
Neither does it show the simulator that the request is put to, or the scopes if one is opened or closed. -/
structure Unseen {ν : Type} (r : Request) (view : Session → ν) : Prop where
  station : ∀ s station, view { s with station } = view s
  services : ∀ s services, view { s with services } = view s
  contexts : ∀ s contexts, view { s with contexts } = view s
  snapshots : ∀ s snapshots, view { s with snapshots } = view s
  simulators : r.command.addresses = true → ∀ s simulators,
    (∀ other, r.simulator ≠ other → simulators.get? other = s.simulators.get? other) →
      view { s with simulators } = view s
  scopes : r.command.scoping = true → ∀ s scopes, view { s with scopes } = view s

namespace Unseen
variable {ν β : Type} {r : Request} {view : Session → ν}

theorem atStation (h : Unseen r view) (x : Action Station β) : Leaves view (Session.atStation x) :=
  .onPart fun s st => h.station s st

theorem atService (h : Unseen r view) (service : String) (x : Action Station β) :
    Leaves view (Session.atService service x) := by
  refine .onPart fun s st => ?_
  unfold settle
  split
  · exact h.station s st
  · exact (h.services { s with station := _ } _).trans (h.station s _)

theorem atSimulator (h : Unseen r view) (ha : r.command.addresses = true) (x : Action (Rig Float) Answer) :
    Leaves view (Session.atSimulator r.simulator x) := by
  refine .bind (.read _) fun simulator => ?_
  cases simulator with
  | none => exact .pure _
  | some simulator =>
    refine .onPart fun s rig => ?_
    exact (h.simulators ha { s with station := rig.station } _ fun other hn => s.simulators.get?_put_of_ne _ hn).trans
      (h.station s _)

theorem quietly {x : Action Session Unit} (hx : Leaves view x) : Leaves view (Session.quietly x) :=
  .bind hx fun _ => .pure _

theorem newSimulator (h : Unseen r view) (ha : r.command.addresses = true) (blueprint : Blueprint) :
    Leaves view (Session.newSimulator r.simulator blueprint) := by
  cases hb : blueprint.read with
  | error fault =>
    intro s
    rw [newSimulator_unread hb]
  | ok setup =>
    rw [newSimulator_read hb]
    refine .bind (.pure setup) fun setup => .bind (h.atStation _) fun simulator => .bind (.read _) fun old => ?_
    refine .bind (.update fun s => h.simulators ha s _ fun other hn => s.simulators.get?_put_of_ne _ hn) fun _ => ?_
    cases old with
    | none => exact .pure ()
    | some old => exact h.atStation _

theorem destroy (h : Unseen r view) (ha : r.command.addresses = true) :
    Leaves view (Session.destroy r.simulator) := by
  refine .bind (.read _) fun old => ?_
  cases old with
  | none => exact .pure ()
  | some old =>
    exact .bind (.update fun s => h.simulators ha s _ fun other hn => s.simulators.get?_erase_of_ne hn)
      fun _ => h.atStation _

theorem closeScope (h : Unseen r view) (hs : r.command.scoping = true) : Leaves view Session.closeScope := by
  refine .bind (.read _) fun scopes => ?_
  match scopes with
  | [] => exact .pure ()
  | (service, before) :: scopes =>
    exact .bind (.update fun s => h.scopes hs s _) fun _ => .closing (.pure ()) (h.atService _ _)

theorem popContext (h : Unseen r view) : Leaves view Session.popContext := by
  refine .bind (.read _) fun contexts => ?_
  match contexts with
  | [] => exact .pure ()
  | before :: contexts => exact .bind (.update fun s => h.contexts s _) fun _ => h.atStation _

theorem restore (h : Unseen r view) (ha : r.command.addresses = true) (snapshot : String) :
    Leaves view (Session.restore r.simulator snapshot) := by
  refine .bind (.read _) fun scene => ?_
  cases scene with
  | none => exact .pure _
  | some scene => exact h.atSimulator ha _

theorem perform (h : Unseen r view) : Leaves view (Session.perform r) := by
  obtain ⟨service, simulator, console, command⟩ := r
  cases command with
  | log level time message context =>
    cases context <;> exact quietly (h.atService _ _)
  | inspect => exact .pure _
  | buffer | setThreshold | attachSink | detachSinks | flush | dropHeld | newLedger =>
    exact quietly (h.atService _ _)
  | openScope => exact quietly (.bind (h.atService _ _) fun _ => .update fun s => h.scopes rfl s _)
  | closeScope => exact quietly (h.closeScope rfl)
  | pushContext =>
    exact .bind (.bind (h.atStation _) fun _ => .update fun s => h.contexts s _) fun _ => .read _
  | popContext => exact .bind h.popContext fun _ => .read _
  | showPending | showContext | paint | render | showFile => exact .read _
  | report | reject | setColours | setConsoleLevel | consoleLog | consoleLine | placeFile =>
    exact quietly (h.atStation _)
  | newConsole => exact .bind (h.atStation _) fun _ => .pure _
  | newSimulator blueprint => exact quietly (h.newSimulator rfl blueprint)
  | destroy => exact quietly (h.destroy rfl)
  | step elapsed times => cases elapsed <;> exact h.atSimulator rfl _
  | describe | run | reset | adoptTime | adoptScene | addObserver | clearObservers => exact h.atSimulator rfl _
  | save snapshot =>
    refine quietly (.update fun s => ?_)
    dsimp only
    split
    · rfl
    · exact h.snapshots s _
  | restore snapshot => exact h.restore rfl snapshot

end Unseen

/-- The simulator of the name is left alone. -/
abbrev Apart (name : String) {β : Type} (x : Action Session β) : Prop :=
  Leaves (fun s => s.simulators.get? name) x

/-- What is not put to a simulator leaves them all alone. -/
theorem apart_unaddressed {r : Request} (h : r.command.addresses = false) : Apart name (perform r) :=
  Unseen.perform
    { station := fun _ _ => rfl, services := fun _ _ => rfl, contexts := fun _ _ => rfl, snapshots := fun _ _ => rfl
      simulators := fun ha => absurd ha (ne_true_of_eq_false h), scopes := fun _ _ _ => rfl }

/-- A request for another simulator, or for none, leaves the one of the name alone. -/
theorem apart_perform {r : Request} (h : r.simulator ≠ name) : Apart name (perform r) :=
  Unseen.perform
    { station := fun _ _ => rfl, services := fun _ _ => rfl, contexts := fun _ _ => rfl, snapshots := fun _ _ => rfl
      simulators := fun _ _ _ hs => hs name h, scopes := fun _ _ _ => rfl }

/-- The open scopes stay open if no scope is opened or closed. -/
theorem scopes_perform {r : Request} (h : r.command.scoping = false) : Leaves Session.scopes (perform r) :=
  Unseen.perform
    { station := fun _ _ => rfl, services := fun _ _ => rfl, contexts := fun _ _ => rfl, snapshots := fun _ _ => rfl
      simulators := fun _ _ _ _ => rfl, scopes := fun hs => absurd hs (ne_true_of_eq_false h) }

end Session
end Flotation
