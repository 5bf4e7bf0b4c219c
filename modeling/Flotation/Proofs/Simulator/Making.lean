import Flotation.Proofs.Log.Accounts
import Flotation.Simulator.Rig

/-! The making of a simulator: it is refused before anything has changed, or it takes the service over. -/
namespace Flotation
open Flotation.Action
variable {α : Type} [Scalar α]

/-- A log file is there once it has been opened. -/
theorem Station.openLog_run (path : String) (st : Station) :
    (openLog path).run st =
      if st.outlets.directory.opens path then
        (.returned (), { st with outlets :=
          { st.outlets with directory := st.outlets.directory.append path "" } })
      else (.raised (.fault (.unwritableLog path)), st) := by
  rw [openLog, run_bind_returned (run_read _ st), Directory.openAppend?]
  cases st.outlets.directory.opens path with
  | true => rfl
  | false => rfl

theorem Station.openLog_cases (path : String) (st : Station) :
    (openLog path).run st = (.raised (.fault (.unwritableLog path)), st) ∨
      ∃ outlets, (openLog path).run st = (.returned (), { st with outlets }) := by
  rw [openLog_run]
  cases st.outlets.directory.opens path with
  | true => exact .inr ⟨_, rfl⟩
  | false => exact .inl rfl

namespace Simulator

/-- The sinks that a simulator puts up: its console and, if that is enabled, its file. -/
def ownSlots (settings : LogSettings) (console : ConsoleId) : List Slot :=
  ⟨.into (.console console), settings.consoleLevel, []⟩ ::
    if settings.fileEnabled then [⟨.into (.file settings.filePath), settings.fileLevel, []⟩] else []

theorem served_eq (settings : LogSettings) (console : ConsoleId) (service : Service) :
    served settings console service =
      { service with
        slots := ownSlots settings console
        ledger := []
        threshold := settings.lowestLevel } := by
  rw [served, ownSlots]
  split
  · rfl
  · rfl

theorem ownSlots_compliant (settings : LogSettings) (console : ConsoleId) :
    ∀ slot ∈ ownSlots settings console, slot.Compliant := by
  intro slot hm received
  rw [ownSlots] at hm
  split at hm
  · rcases List.mem_pair.mp hm with rfl | rfl <;> rfl
  · rw [List.mem_singleton.mp hm]
    rfl

theorem served_compliant (settings : LogSettings) (console : ConsoleId) (service : Service) :
    (served settings console service).Compliant := by
  rw [served_eq]
  exact ownSlots_compliant settings console

theorem takeOver_cases (settings : LogSettings) (st : Station) :
    (takeOver settings).run st = (.raised (.fault (.unwritableLog settings.filePath)), st) ∨
      ∃ outlets, (takeOver settings).run st = (.returned st.serials,
        { st with
          service := served settings (consoleId st.serials) st.service
          serials := st.serials + 1
          outlets }) := by
  rw [takeOver]
  cases settings.fileEnabled with
  | false => exact .inr ⟨_, rfl⟩
  | true =>
    rcases Station.openLog_cases settings.filePath st with hr | ⟨outlets, hr⟩
    · exact .inl (run_bind_raised hr _)
    · exact .inr ⟨_, run_bind_returned hr _⟩

/-- What a new simulator logs. -/
def readyEntry (setup : SimulatorSetup α) (scene : Scene α) (context : Context) : Entry :=
  ⟨.info, Scalar.toFloat setup.start, readyText setup.name scene, context⟩

/-- A setup that cannot be built is refused before anything else is looked at. -/
theorem create_of_build_error {setup : SimulatorSetup α} {fault : Fault} (h : setup.build = .error fault)
    (st : Station) : (create setup).run st = (.raised (.fault fault), st) := by
  rw [create, h]
  rfl

/-- Once the service has been taken over, nothing keeps the simulator from being made: its own sinks take its
first entry without fail. -/
theorem create_of_takeOver {setup : SimulatorSetup α} {scene : Scene α} {st : Station} {outlets : Outlets}
    (hb : setup.build = .ok scene) (ht : (takeOver setup.logging).run st = (.returned st.serials,
      { st with
        service := served setup.logging (consoleId st.serials) st.service
        serials := st.serials + 1
        outlets })) :
    ∃ st', (create setup).run st = (.returned ⟨setup, scene, setup.start, 0, [], none, st.serials⟩, st') ∧
      st'.service = (served setup.logging (consoleId st.serials) st.service).logged
        (readyEntry setup scene st.context) := by
  let taken : Station := { st with
    service := served setup.logging (consoleId st.serials) st.service
    serials := st.serials + 1
    outlets }
  have hc : taken.service.Compliant := served_compliant _ _ _
  obtain ⟨st', hlog, hs⟩ := Station.logEntry_compliant hc (readyEntry setup scene st.context)
  refine ⟨st', ?_, hs.service_eq⟩
  rw [create, hb]
  exact (run_bind_returned ht _).trans (run_bind_returned hlog _)

/-- Either the setup is refused or the file cannot be opened, or the simulator is made. -/
theorem create_cases (setup : SimulatorSetup α) (st : Station) :
    (∃ fault, (create setup).run st = (.raised (.fault fault), st)) ∨
      ∃ scene st', setup.build = .ok scene ∧ (create setup).run st =
          (.returned ⟨setup, scene, setup.start, 0, [], none, st.serials⟩, st') ∧
        st'.service = (served setup.logging (consoleId st.serials) st.service).logged
          (readyEntry setup scene st.context) := by
  cases hb : setup.build with
  | error fault => exact .inl ⟨fault, create_of_build_error hb st⟩
  | ok scene =>
    rcases takeOver_cases setup.logging st with hr | ⟨outlets, hr⟩
    · rw [create, hb]
      exact .inl ⟨_, run_bind_raised hr _⟩
    · obtain ⟨st', hc, hs⟩ := create_of_takeOver hb hr
      exact .inr ⟨scene, st', rfl, hc, hs⟩

theorem service_of_create {setup : SimulatorSetup α} {st st' : Station} {new : Simulator α}
    (h : (create setup).run st = (.returned new, st')) :
    ∃ scene, st'.service = (served setup.logging (consoleId st.serials) st.service).logged
      (readyEntry setup scene st.context) := by
  rcases create_cases setup st with ⟨fault, hr⟩ | ⟨scene, made, -, hr, hs⟩
  · rw [hr] at h
    cases h
  · rw [hr] at h
    cases h
    exact ⟨scene, hs⟩

theorem compliant_of_create {setup : SimulatorSetup α} {st st' : Station} {new : Simulator α}
    (h : (create setup).run st = (.returned new, st')) : st'.service.Compliant := by
  obtain ⟨scene, hs⟩ := service_of_create h
  rw [hs]
  exact (served_compliant _ _ _).logged _

/-- A new simulator at its station. -/
def launched (setup : SimulatorSetup α) (st : Station) : Option (Rig α) :=
  match (create setup).run st with
  | (.returned s, st) => some ⟨s, st⟩
  | _ => none

theorem create_of_launched {setup : SimulatorSetup α} {st : Station} {rig : Rig α}
    (h : launched setup st = some rig) :
    (create setup).run st = (.returned rig.simulator, rig.station) := by
  rw [launched] at h
  rcases hr : (create setup).run st with ⟨_ | _ | _, st'⟩ <;> rw [hr] at h <;> cases h
  rfl

end Simulator
end Flotation
