import Flotation.Proofs.Session.Moves
import Flotation.Proofs.Session.Wiring
import Flotation.Proofs.Simulator.Telling

/-! Quiet requests. What has nothing to do with which sinks and which simulators there are does not know of a
relic, and leaves the wiring as it is. -/
namespace Flotation
open Flotation.Action Simulator

namespace Rig
variable {α : Type} [Scalar α] {β : Type} {relic : Relic}

def withRelic (relic : Relic) (rig : Rig α) : Rig α := { rig with station := rig.station.withRelic relic }

def fittings (rig : Rig α) : (List (Sink × Level) × Nat) × Nat := (rig.station.fittings, rig.simulator.serial)

abbrev Ignores (relic : Relic) (x : Action (Rig α) β) : Prop :=
  Unaware (withRelic relic) fittings (fun view => Spares relic.serial view.1.1) x

/-- A relic is no more than a difference between stations. -/
theorem Impartial.ignores {x : Action (Rig α) β} (hx : Impartial x)
    (hn : ∀ rig, rig.station.service.Compliant → (x.run rig).1 ≠ .aborted) : Ignores relic x := by
  intro rig h
  have hc := Service.compliant_of_lineup fun place hm => (h place hm).1
  have ht : Twins (Station.Haunted relic rig.station.fittings) rig.simulator.serial rig.simulator.serial rig
      (rig.withRelic relic) := .mk rig.simulator rfl ⟨rfl, rfl⟩
  obtain ⟨ho, ht⟩ := hx.twins (Station.congruence_haunted h) ht
  have hlast := hn rig hc
  rcases hr : x.run rig with ⟨outcome, after⟩
  rcases hr' : x.run (rig.withRelic relic) with ⟨outcome', after'⟩
  rw [hr, hr'] at ho ht
  rw [hr] at hlast
  obtain ⟨s, hm, hv, rfl⟩ := ht
  cases ho
  refine ⟨hlast, Prod.ext hv hm, ?_⟩
  rw [← hm]
  rfl

theorem ignores_step (elapsed : α) : Ignores relic (step elapsed) := by
  refine (impartial_step elapsed).ignores fun rig _ => ?_
  by_cases h : ¬ Scalar.isFinite elapsed ∨ elapsed < 0.0
  · exact (step_rejects h rig).1
  · obtain ⟨hf, hn⟩ := not_or.mp h
    exact (step_commits (not_not.mp hf) hn rig).1

theorem ignores_stepNominal : Ignores relic (stepNominal : Action (Rig α) Unit) :=
  .reading (fun _ => ignores_step _) fun _ => rfl

theorem ignores_run : Ignores relic (run : Action (Rig α) Nat) := by
  refine impartial_run.ignores fun rig hc => ?_
  by_cases hl : rig.simulator.hasTimeLeft = true
  · have hp : Station.Ledgered rig.station.service.threshold rig.station.service.ledger [] rig.station :=
      ⟨hc, rfl, rfl⟩
    obtain ⟨k, last, ht, -⟩ := run_tells (Station.Ledgered.diary _ _) hp hl
    exact ht.not_aborted
  · rw [run_idle hl]
    exact nofun

theorem ignores_reset : Ignores relic (reset : Action (Rig α) Unit) := by
  refine impartial_reset.ignores fun rig _ => ?_
  rw [reset, run_bind_returned (run_read _ rig)]
  cases rig.simulator.setup.build with
  | error fault => rintro ⟨⟩
  | ok scene => exact (keeps_log .info "Simulator reset" _).1

theorem ignores_adoptScene (scene : Scene α) : Ignores relic (adoptScene scene) := by
  refine (impartial_adoptScene scene).ignores fun rig _ => ?_
  rw [adoptScene]
  split_ifs <;> rintro ⟨⟩

theorem ignores_adoptTime (time : α) : Ignores relic (adoptTime time) := by
  refine (impartial_adoptTime time).ignores fun rig _ => ?_
  rw [adoptTime]
  split_ifs <;> rintro ⟨⟩

theorem ignores_addObserver (observer : Option (HeightSink α)) : Ignores relic (addObserver observer) := by
  refine (impartial_addObserver observer).ignores fun rig _ => ?_
  cases observer <;> exact nofun

theorem ignores_clearObservers : Ignores relic (clearObservers : Action (Rig α) Unit) :=
  impartial_clearObservers.ignores fun _ _ => nofun

end Rig

namespace Session
variable {relic : Relic} {β : Type}

def withRelic (relic : Relic) (s : Session) : Session := { s with station := s.station.withRelic relic }

def wiring (s : Session) : Wiring where
  serials := s.station.serials
  alive := fun name => (s.simulators.get? name).map (·.serial)
  lineup := fun name => (s.service name).lineup

abbrev Ignores (relic : Relic) (x : Action Session β) : Prop :=
  Unaware (withRelic relic) wiring (fun w => ∀ name, Spares relic.serial (w.lineup name)) x

theorem wiring_settle (name : String) (st : Station) (s : Session) :
    (settle name st s).wiring = { s.wiring.refit name st.service.lineup with serials := st.serials } := by
  have hl (other : String) : ((settle name st s).service other).lineup =
      (s.wiring.refit name st.service.lineup).lineup other := by
    rw [Wiring.refit]
    dsimp only
    split
    · rename_i ho
      rw [ho, service_settle]
    · rename_i ho
      rw [service_settle_of_ne ho]
      rfl
  have hst : (settle name st s).station.serials = st.serials ∧ (settle name st s).simulators = s.simulators := by
    unfold settle
    split
    · exact ⟨rfl, rfl⟩
    · exact ⟨rfl, rfl⟩
  rw [wiring, hst.1, hst.2, funext hl]
  rfl

theorem wiring_station (st : Station) (s : Session) :
    wiring { s with station := st } =
      { s.wiring.refit sharedService st.service.lineup with serials := st.serials } := by
  rw [← wiring_settle, settle, if_pos rfl]

theorem wiring_of_fittings {st : Station} {s : Session} (h : st.fittings = s.station.fittings) :
    wiring { s with station := st } = s.wiring := by
  obtain ⟨hl, hn⟩ := Prod.mk.inj h
  have hs : s.station.service.lineup = s.wiring.lineup sharedService := by
    change _ = (s.service sharedService).lineup
    rw [service, if_pos rfl]
  rw [wiring_station, hl, hn, hs]
  exact s.wiring.refit_self sharedService

/-- Only the simulator of one name is another, or there is none any more. -/
theorem wiring_simulators {name : String} {s : Session} {simulators : Named (Simulator Float)}
    (h : ∀ other, name ≠ other → simulators.get? other = s.simulators.get? other) :
    wiring { s with simulators } = s.wiring.staff name ((simulators.get? name).map (·.serial)) := by
  have ha (other : String) : (simulators.get? other).map (·.serial) =
      (s.wiring.staff name ((simulators.get? name).map (·.serial))).alive other := by
    rw [Wiring.staff]
    dsimp only
    split
    · rename_i ho
      rw [ho]
    · rename_i ho
      rw [h other (Ne.symm ho)]
      rfl
  exact congrArg (Wiring.mk _ · _) (funext ha)

theorem wiring_put (name : String) (a : Simulator Float) (s : Session) :
    wiring { s with simulators := s.simulators.put name a } = s.wiring.staff name (some a.serial) := by
  rw [wiring_simulators fun _ => Named.get?_put_of_ne _ a, Named.get?_put_self]
  rfl

theorem wiring_erase (name : String) (s : Session) :
    wiring { s with simulators := s.simulators.erase name } = s.wiring.staff name none := by
  rw [wiring_simulators fun _ => Named.get?_erase_of_ne _, Named.get?_erase_self]
  rfl

theorem alive_eq {name : String} {s : Session} {a : Simulator Float} (h : s.simulators.get? name = some a) :
    s.wiring.alive name = some a.serial := by
  rw [wiring]
  dsimp only
  rw [h]
  rfl

theorem settle_withRelic (name : String) (st : Station) (s : Session) :
    settle name (st.withRelic relic) (s.withRelic relic) = (settle name st s).withRelic relic := by
  unfold settle
  split <;> rfl

theorem ignores_atService (name : String) {x : Action Station β} (hx : Station.Ignores relic x) :
    Ignores relic (atService name x) := by
  refine .onPart hx (fun s h => h name) (fun s st hv => ?_) (fun s => rfl) fun s st => settle_withRelic name st s
  obtain ⟨hl, hn⟩ := Prod.mk.inj hv
  rw [wiring_settle, hl, hn]
  exact s.wiring.refit_self name

theorem ignores_atStation {x : Action Station β} (hx : Station.Ignores relic x) :
    Ignores relic (atStation x) := by
  rw [← atService_shared]
  exact ignores_atService _ hx

theorem ignores_atSimulator (name : String) {x : Action (Rig Float) Answer} (hx : Rig.Ignores relic x) :
    Ignores relic (atSimulator name x) := by
  intro s h
  cases hg : s.simulators.get? name with
  | none =>
    have hg' : (s.withRelic relic).simulators.get? name = none := hg
    rw [run_atSimulator_none hg, run_atSimulator_none hg']
    exact ⟨nofun, rfl, rfl⟩
  | some a =>
    have hg' : (s.withRelic relic).simulators.get? name = some a := hg
    obtain ⟨hn, hv, ha⟩ := hx ⟨a, s.station⟩ (h sharedService)
    change x.run ⟨a, (s.withRelic relic).station⟩ = _ at ha
    rw [run_atSimulator hg, run_atSimulator hg', ha]
    refine ⟨hn, ?_, rfl⟩
    obtain ⟨hf, hs⟩ := Prod.mk.inj hv
    rw [wiring_put name _ { s with station := _ }, wiring_of_fittings hf, hs, ← alive_eq hg]
    exact s.wiring.staff_self name

theorem ignores_quietly {x : Action Session Unit} (hx : Ignores relic x) : Ignores relic (quietly x) :=
  .bind hx fun _ => .pure _

theorem ignores_closeScope : Ignores relic closeScope := by
  refine .reading (fun scopes => ?_) fun _ => rfl
  match scopes with
  | [] => exact .pure ()
  | (name, before) :: scopes =>
    refine .bind (.update (fun _ => rfl) fun _ => rfl) fun _ =>
      .closing (.pure ()) (ignores_atService name (Station.ignores_closeScope before)) fun s h => ?_
    have hc : (stationFor name s).service.Compliant :=
      Service.compliant_of_lineup fun place hm => (h name place hm).1
    obtain ⟨st, hr, -⟩ := Station.closeScope_compliant hc before
    rw [run_atService, hr]

theorem ignores_popContext : Ignores relic popContext := by
  refine .reading (fun contexts => ?_) fun _ => rfl
  match contexts with
  | [] => exact .pure ()
  | before :: contexts =>
    exact .bind (.update (fun _ => rfl) fun _ => rfl) fun _ => ignores_atStation (Station.ignores_leave before)

theorem ignores_adoptScene (change : SceneChange) : Rig.Ignores relic (adoptScene change) := by
  refine .reading (fun simulator => .bind ?_ fun scene => Rig.ignores_adoptScene scene) fun _ => rfl
  cases changed simulator.scene change with
  | ok scene => exact .pure scene
  | error fault => exact .raise _

theorem ignores_save (simulator name : String) : Ignores relic (save simulator name) := by
  have hs (s : Session) : (s.withRelic relic).simulators.get? simulator = s.simulators.get? simulator := rfl
  refine .update (fun s => ?_) fun s => ?_
  · split <;> rfl
  · rw [hs]
    cases s.simulators.get? simulator <;> rfl

theorem ignores_restore (simulator name : String) : Ignores relic (restore simulator name) := by
  refine .reading (fun scene => ?_) fun _ => rfl
  cases scene with
  | none => exact .pure _
  | some scene => exact ignores_atSimulator _ (.bind (Rig.ignores_adoptScene scene) fun _ => .pure _)

/-- No simulator has a console with a name. -/
theorem named_ne (name : String) (serial : Nat) : ConsoleId.named name ≠ consoleId serial := nofun

theorem ignores_withConsole (name : String) (text : Console → String) :
    Ignores relic (withConsole name text) := by
  refine .read fun s => ?_
  rw [console?, withRelic, Station.withRelic]
  dsimp only
  rw [Outlets.console?_withRelic (named_ne name relic.serial)]
  rfl

theorem ignores_configure (name : String) (f : Console → Console) : Ignores relic (configure name f) :=
  ignores_atStation (Station.ignores_onOutlets fun _ =>
    Outlets.configure_withRelic (named_ne name relic.serial) f _)

theorem ignores_print (name : String) (text : Console → String) : Ignores relic (print name text) :=
  ignores_atStation (Station.ignores_onOutlets fun _ =>
    Outlets.print_withRelic (named_ne name relic.serial) text _)

end Session

/-- The request has nothing to do with which sinks and which simulators there are. -/
def Request.Quiet (r : Request) : Prop :=
  match r.command with
  | .attachSink .. | .detachSinks | .newSimulator _ | .destroy => False
  | _ => True

namespace Session
variable {relic : Relic}

theorem ignores_perform {r : Request} (hr : r.Quiet) : Ignores relic (perform r) := by
  obtain ⟨service, simulator, console, command⟩ := r
  cases command with
  | attachSink | detachSinks | newSimulator | destroy => cases hr
  | log level time message context =>
    cases context with
    | none => exact ignores_quietly (ignores_atService _ (Station.ignores_log _ _ _))
    | some context => exact ignores_quietly (ignores_atService _ (Station.ignores_logEntry _))
  | inspect => exact .pure _
  | buffer | setThreshold | dropHeld | newLedger =>
    exact ignores_quietly (ignores_atService _ (Station.ignores_onService fun _ => rfl))
  | flush => exact ignores_quietly (ignores_atService _ Station.ignores_flush)
  | openScope =>
    exact ignores_quietly (.bind (ignores_atService _ Station.ignores_openScope) fun _ =>
      .update (fun _ => rfl) fun _ => rfl)
  | closeScope => exact ignores_quietly ignores_closeScope
  | pushContext context =>
    exact .bind (.bind (ignores_atStation (Station.ignores_enter context)) fun _ =>
      .update (fun _ => rfl) fun _ => rfl) fun _ => .read fun _ => rfl
  | popContext => exact .bind ignores_popContext fun _ => .read fun _ => rfl
  | showPending | showContext | showFile => exact .read fun _ => rfl
  | report fault time component =>
    exact ignores_quietly (ignores_atStation (Station.ignores_report fault time component))
  | reject fault time component =>
    exact ignores_quietly (ignores_atStation (Station.ignores_reject fault time component))
  | newConsole =>
    exact .bind (ignores_atStation (Station.ignores_onOutlets fun _ =>
      Outlets.addConsole_withRelic (named_ne _ relic.serial) _ _)) fun _ => .pure _
  | setColours | setConsoleLevel => exact ignores_quietly (ignores_configure _ _)
  | consoleLog | consoleLine => exact ignores_quietly (ignores_print _ _)
  | paint name colour text => exact ignores_withConsole name fun c => c.paint colour text
  | render name entry => exact ignores_withConsole name fun c => entry.render c
  | describe => exact ignores_atSimulator _ (.read fun _ => rfl)
  | step elapsed times =>
    cases elapsed with
    | none => exact ignores_atSimulator _ (.bind (.times Rig.ignores_stepNominal times) fun _ => .pure _)
    | some elapsed =>
      exact ignores_atSimulator _ (.bind (.times (Rig.ignores_step elapsed) times) fun _ => .pure _)
  | run => exact ignores_atSimulator _ (.bind Rig.ignores_run fun _ => .pure _)
  | reset => exact ignores_atSimulator _ (.bind Rig.ignores_reset fun _ => .pure _)
  | adoptTime time => exact ignores_atSimulator _ (.bind (Rig.ignores_adoptTime time) fun _ => .pure _)
  | adoptScene change => exact ignores_atSimulator _ (.bind (ignores_adoptScene change) fun _ => .pure _)
  | addObserver observer =>
    exact ignores_atSimulator _ (.bind (Rig.ignores_addObserver observer) fun _ => .pure _)
  | clearObservers => exact ignores_atSimulator _ (.bind Rig.ignores_clearObservers fun _ => .pure _)
  | save name => exact ignores_quietly (ignores_save simulator name)
  | restore name => exact ignores_restore simulator name
  | placeFile => exact ignores_quietly (ignores_atStation (Station.ignores_onOutlets fun _ => rfl))

end Session
end Flotation
