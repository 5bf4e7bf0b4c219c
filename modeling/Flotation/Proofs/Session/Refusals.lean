import Flotation.Proofs.Session.Layout
import Flotation.Session.Report

/-! Refusals. Whether a simulator can be made is told from its blueprint and the layout of the files alone, and one
that cannot be made leaves no trace in the session. -/
namespace Flotation
open Flotation.Action

/-- Why a simulator cannot be made among some files: its setup is looked at first, and the log file only then. -/
def SimulatorSetup.refusal? (files : Directory) (setup : SimulatorSetup Float) : Option Fault :=
  match setup.build with
  | .error fault => some fault
  | .ok _ =>
    if setup.logging.fileEnabled && !files.opens setup.logging.filePath then
      some (.unwritableLog setup.logging.filePath)
    else none

/-- The setup has to be read before it is looked at. -/
def Blueprint.refusal? (files : Directory) (blueprint : Blueprint) : Option Fault :=
  match blueprint.read with
  | .error fault => some fault
  | .ok made => made.refusal? files

/-- Why a session refuses a request, if it is one to make a simulator that cannot be made. -/
def Session.refusal? (s : Session) (r : Request) : Option Fault :=
  match r.command with
  | .newSimulator blueprint => blueprint.refusal? s.station.outlets.directory
  | _ => none

/-- A request that a session does not refuse. -/
def Session.admits (s : Session) (r : Request) : Bool := (s.refusal? r).isNone

/-- The fault is one of a setup or of a file. -/
inductive Fault.OfMaking : Fault → Prop
  | setup (problem : SetupProblem) (origin : Origin) : OfMaking (.setup problem origin)
  | file (reason : String) (access : Option Access) : OfMaking (.file reason access)

variable {α β : Type} [Scalar α] [Scalar β]

namespace Fault.OfMaking

theorem of_sphere {radius mass height velocity : α} {fault : Fault}
    (h : Sphere.make radius mass height velocity = .error fault) : fault.OfMaking := by
  rw [Sphere.make] at h
  split at h
  · split at h
    · cases h
    · cases h
      exact .setup _ _
  · cases h
    exact .setup _ _

theorem of_water {density : α} {fault : Fault} (h : Water.make density = .error fault) : fault.OfMaking := by
  rw [Water.make] at h
  split at h
  · cases h
  · cases h
    exact .setup _ _

theorem of_sphereSetup {convert : β → α} {c : SphereSetup β} {fault : Fault}
    (h : c.build convert = .error fault) : fault.OfMaking := by
  rw [SphereSetup.build] at h
  split at h
  · exact of_sphere h
  · cases h
    exact .setup _ _

theorem of_sceneSetup {convert : β → α} {c : SceneSetup β} {fault : Fault}
    (h : c.build convert = .error fault) : fault.OfMaking := by
  rw [SceneSetup.build] at h
  split at h
  · cases hs : c.sphere.build convert with
    | error found =>
      rw [hs] at h
      cases h
      exact of_sphereSetup hs
    | ok sphere =>
      cases hw : c.water.build convert with
      | error found =>
        rw [hs, hw] at h
        cases h
        exact of_water hw
      | ok water =>
        rw [hs, hw] at h
        cases h
  · cases h
    exact .setup _ _

theorem of_simulatorSetup {c : SimulatorSetup β} {fault : Fault} (h : c.build = .error fault) :
    fault.OfMaking := by
  rw [SimulatorSetup.build] at h
  split at h
  · exact of_sceneSetup h
  · cases h
    exact .setup _ _

/-- What a loader raises is its own affair. -/
theorem of_refusal {blueprint : Blueprint} {files : Directory} {fault : Fault}
    (h : blueprint.refusal? files = some fault) : fault.OfMaking ∨ blueprint.read = .error fault := by
  rw [Blueprint.refusal?] at h
  split at h
  · rename_i hr
    cases h
    exact .inr hr
  · refine .inl ?_
    rw [SimulatorSetup.refusal?] at h
    split at h
    · rename_i hb
      cases h
      exact of_simulatorSetup hb
    · split at h
      · cases h
        exact .file _ _
      · cases h

end Fault.OfMaking

namespace Simulator
variable {settings : LogSettings} {setup : SimulatorSetup Float} {st : Station}

theorem takeOver_refused (he : settings.fileEnabled = true)
    (hn : st.outlets.directory.opens settings.filePath = false) :
    (takeOver settings).run st = (.raised (.fault (.unwritableLog settings.filePath)), st) := by
  have ho := Station.openLog_run settings.filePath st
  rw [hn, if_neg Bool.false_ne_true] at ho
  rw [takeOver, if_pos he]
  exact run_bind_raised ho _

theorem takeOver_returns (h : (settings.fileEnabled && !st.outlets.directory.opens settings.filePath) = false) :
    ∃ serial st', (takeOver settings).run st = (.returned serial, st') := by
  rw [takeOver]
  cases he : settings.fileEnabled with
  | false => exact ⟨_, _, rfl⟩
  | true =>
    rw [he, Bool.true_and, Bool.not_eq_false'] at h
    have ho := Station.openLog_run settings.filePath st
    rw [if_pos h] at ho
    exact ⟨_, _, run_bind_returned ho _⟩

/-- A setup that is refused leaves the station as it was. -/
theorem create_refused {fault : Fault} (h : setup.refusal? st.outlets.directory = some fault) :
    (create setup).run st = (.raised (.fault fault), st) := by
  rw [SimulatorSetup.refusal?] at h
  cases hb : setup.build with
  | error found =>
    rw [hb] at h
    cases h
    exact create_of_build_error hb st
  | ok scene =>
    rw [hb] at h
    dsimp only at h
    split at h
    · rename_i hf
      obtain ⟨he, hn⟩ := Bool.and_eq_true_iff.mp hf
      cases h
      rw [create, hb]
      exact run_bind_raised (takeOver_refused he (Bool.not_eq_true' _ ▸ hn)) _
    · cases h

/-- Any other makes a simulator, whatever the state of the service. -/
theorem create_returns (h : setup.refusal? st.outlets.directory = none) :
    ∃ new st', (create setup).run st = (.returned new, st') := by
  rw [SimulatorSetup.refusal?] at h
  cases hb : setup.build with
  | error found =>
    rw [hb] at h
    cases h
  | ok scene =>
    rw [hb] at h
    dsimp only at h
    split at h
    · cases h
    · rename_i hf
      obtain ⟨serial, taken, ht⟩ := takeOver_returns (Bool.eq_false_iff.mpr hf)
      rcases takeOver_cases setup.logging st with hr | ⟨outlets, hr⟩
      · rw [hr] at ht
        cases ht
      · obtain ⟨st', hc, -⟩ := create_of_takeOver hb hr
        exact ⟨_, st', hc⟩

/-- To take a simulator down may abort the program, but raises nothing. -/
theorem destroy_not_raised {α : Type} [Scalar α] (old : Simulator α) (st : Station) (failure : Failure) :
    (old.destroy.run st).1 ≠ .raised failure := by
  rw [destroy, closing]
  dsimp only [run_pure]
  split <;> rintro ⟨⟩

end Simulator

theorem Outlets.drain_drain (o : Outlets) : o.drain.drain = o.drain := by
  simp only [drain, List.map_map]
  rfl

namespace Session

/-- The session when all that was written has been taken note of. -/
def drained (s : Session) : Session :=
  { s with station := { s.station with outlets := s.station.outlets.drain } }

variable {s t : Session} {r : Request} {fault : Fault}

theorem run_drained (s : Session) (requests : List Request) : s.drained.run requests = s.run requests := by
  cases requests with
  | nil => rfl
  | cons r rest => simp only [run, drained, Outlets.drain_drain]

/-- It is the layout of the files that a session refuses anything for, not what is in them. -/
theorem refusal?_congr (h : s.layout = t.layout) : s.refusal? = t.refusal? := by
  have ho := Directory.opens_congr (d := s.station.outlets.directory) (e := t.station.outlets.directory) h
  funext r
  simp only [refusal?, Blueprint.refusal?, SimulatorSetup.refusal?, ho]

theorem admits_congr (h : s.layout = t.layout) : s.admits = t.admits := by
  funext r
  rw [admits, admits, refusal?_congr h]

theorem newSimulator_refused {blueprint : Blueprint} (h : blueprint.refusal? s.station.outlets.directory = some fault)
    (name : String) : (newSimulator name blueprint).run s = (.raised (.fault fault), s) := by
  rw [Blueprint.refusal?] at h
  cases hb : blueprint.read with
  | error found =>
    rw [hb] at h
    cases h
    exact newSimulator_unread hb name s
  | ok setup =>
    rw [hb] at h
    rw [newSimulator_read hb]
    exact newSimulator_raised (Simulator.create_refused h)

theorem refusal_of_newSimulator_raised {name : String} {blueprint : Blueprint} {failure : Failure}
    (h : (newSimulator name blueprint).run s = (.raised failure, t)) :
    ∃ fault, blueprint.refusal? s.station.outlets.directory = some fault := by
  rw [← Option.ne_none_iff_exists', Blueprint.refusal?]
  cases hb : blueprint.read with
  | error found => simp
  | ok setup =>
    rw [newSimulator_read hb] at h
    intro hn
    obtain ⟨new, st, hr⟩ := Simulator.create_returns hn
    cases hg : s.simulators.get? name with
    | none =>
      rw [newSimulator_run hg hr] at h
      cases h
    | some old =>
      rw [newSimulator_run_taken hg hr rfl] at h
      exact old.destroy_not_raised st failure (congrArg Prod.fst h)

theorem perform_refused (h : s.refusal? r = some fault) :
    (perform r).run s = (.raised (.fault fault), s) := by
  obtain ⟨service, name, console, command⟩ := r
  cases command with
  | newSimulator blueprint => exact quietly_raised (newSimulator_refused h name)
  | _ => cases h

/-- What a session admits after a request, it has admitted before. -/
theorem admits_of_perform {outcome : Outcome Answer} (h : (perform r).run s = (outcome, t)) : t.admits = s.admits := by
  have hl := settled_perform r s
  rw [h] at hl
  exact admits_congr hl

theorem refusal_of_not_admits (h : ¬s.admits r = true) : ∃ fault, s.refusal? r = some fault :=
  Option.ne_none_iff_exists'.mp fun hn => h (Option.isNone_iff_eq_none.mpr hn)

/-- The refusals among some requests can be left out: the others lead to the same session. -/
theorem after_filter_admits (s : Session) (requests : List Request) :
    s.after (requests.filter s.admits) = s.after requests := by
  induction requests generalizing s with
  | nil => rfl
  | cons r rest ih =>
    by_cases hr : s.admits r = true
    · rw [List.filter_cons_of_pos hr, after, after]
      rcases hp : (perform r).run s with ⟨_ | _ | _, t⟩
      · exact admits_of_perform hp ▸ ih t
      · exact admits_of_perform hp ▸ ih t
      · rfl
    · obtain ⟨fault, hf⟩ := refusal_of_not_admits hr
      rw [List.filter_cons_of_neg hr, after, perform_refused hf]
      exact ih s

theorem run_cons {outcome : Outcome Answer} (h : (perform r).run s.drained = (outcome, t)) (ho : outcome ≠ .aborted)
    (rest : List Request) : s.run (r :: rest) = report r outcome t :: t.run rest := by
  rw [drained] at h
  cases outcome with
  | returned | raised => simp only [run, h]
  | aborted => exact absurd rfl ho

theorem run_cons_aborted (h : (perform r).run s.drained = (.aborted, t)) (rest : List Request) :
    s.run (r :: rest) = [report r .aborted t] := by
  rw [drained] at h
  simp only [run, h]

/-- And they are answered by the same reports. -/
theorem run_filter_admits (s : Session) (requests : List Request) :
    s.run (requests.filter s.admits) =
      ((requests.zip (s.run requests)).filter fun answered => s.admits answered.1).map Prod.snd := by
  induction requests generalizing s with
  | nil => rfl
  | cons r rest ih =>
    have ha : s.drained.admits = s.admits := admits_congr rfl
    by_cases hr : s.admits r = true
    · rw [List.filter_cons_of_pos hr]
      rcases hp : (perform r).run s.drained with ⟨outcome, t⟩
      have hrest := ih t
      rw [admits_of_perform hp, ha] at hrest
      by_cases ho : outcome = .aborted
      · -- nothing is reported any more of what comes behind
        subst ho
        rw [run_cons_aborted hp, run_cons_aborted hp, List.zip_cons_cons, List.zip_nil_right, List.filter_cons,
          if_pos hr]
        rfl
      · rw [run_cons hp ho, run_cons hp ho, hrest, List.zip_cons_cons, List.filter_cons, if_pos hr, List.map_cons]
    · obtain ⟨fault, hf⟩ := refusal_of_not_admits hr
      have hp : (perform r).run s.drained = (.raised (.fault fault), s.drained) := perform_refused hf
      rw [List.filter_cons_of_neg hr, run_cons hp nofun, run_drained, List.zip_cons_cons, List.filter_cons, if_neg hr]
      exact ih s

/-- A making that raises anything raises the fault of its blueprint, and leaves the session as it was: services
with their sinks, levels, counts and entries held, the context, the simulators, and all that has been written
to outputs and files. It would raise the same anywhere, as long as paths lead to the same files and these may be
added to alike. So whatever is asked before and after, the session goes on, and reports, as if the makings that
failed had never been asked for. -/
theorem failed_making_leaves_no_trace {blueprint : Blueprint} {failure : Failure}
    (hc : r.command = .newSimulator blueprint) (h : (perform r).run s = (.raised failure, t)) :
    t = s ∧
      (∃ fault, s.refusal? r = some fault ∧ failure = .fault fault ∧
        (fault.OfMaking ∨ blueprint.read = .error fault)) ∧
      (∀ u : Session, u.layout = s.layout → (perform r).run u = (.raised failure, u)) ∧
      ∀ (u : Session) (requests : List Request),
        u.after (requests.filter u.admits) = u.after requests ∧
        u.run (requests.filter u.admits) =
          ((requests.zip (u.run requests)).filter fun answered => u.admits answered.1).map Prod.snd := by
  have hp : perform r = quietly (newSimulator r.simulator blueprint) := by
    rw [perform, hc]
  have hb : s.refusal? r = blueprint.refusal? s.station.outlets.directory := by
    rw [refusal?, hc]
  obtain ⟨fault, hf⟩ : ∃ fault, blueprint.refusal? s.station.outlets.directory = some fault := by
    rcases hn : (newSimulator r.simulator blueprint).run s with ⟨_ | _ | _, u⟩
    · rw [hp, quietly_returned hn] at h
      cases h
    · exact refusal_of_newSimulator_raised hn
    · rw [hp, quietly, run_bind_aborted hn] at h
      cases h
  have hr := hb.trans hf
  rw [perform_refused hr] at h
  cases h
  refine ⟨rfl, ⟨fault, hr, rfl, Fault.OfMaking.of_refusal hf⟩, fun u hu => ?_, fun u requests =>
    ⟨after_filter_admits u requests, run_filter_admits u requests⟩⟩
  exact perform_refused (hr ▸ congrFun (refusal?_congr hu) r)

/-- All files are where their paths say, and one of them may not be added to. -/
def guarded : Session where
  station := { outlets := { directory := { locate := some, writable := fun name => name != "/var/log/run.log" } } }

/-- The standard simulator, but for a log file that cannot be opened there. -/
def unopenable : SimulatorSetup Float :=
  { SimulatorSetup.standard with logging := { fileEnabled := true, filePath := "/var/log/run.log" } }

theorem refusal?_unopenable :
    guarded.refusal? ⟨sharedService, "a", none, .newSimulator (.setup unopenable)⟩ =
      some (.unwritableLog "/var/log/run.log") := by
  have hb : unopenable.build.toOption.isSome = true := by decide +kernel
  change unopenable.refusal? guarded.station.outlets.directory = _
  rw [SimulatorSetup.refusal?]
  cases hs : unopenable.build with
  | error fault =>
    rw [hs] at hb
    cases hb
  | ok scene => exact if_pos (by decide +kernel)

/-- A simulator that is to be replaced while its log is held. -/
def replacing : List Request :=
  [making "a", ⟨sharedService, "a", none, .buffer true⟩,
    ⟨sharedService, "a", none, .newSimulator (.setup unopenable)⟩, ⟨sharedService, "a", none, .step none 3⟩]

theorem replacing_leaves_no_trace :
    ∃ s, guarded.after (replacing.take 2) = some s ∧ (s.simulators.get? "a").isSome = true ∧
      (perform ⟨sharedService, "a", none, .newSimulator (.setup unopenable)⟩).run s =
        (.raised (.fault (.unwritableLog "/var/log/run.log")), s) ∧
      guarded.after replacing =
        guarded.after [making "a", ⟨sharedService, "a", none, .buffer true⟩,
          ⟨sharedService, "a", none, .step none 3⟩] := by
  have hm : (guarded.after (replacing.take 2)).any (fun s => (s.simulators.get? "a").isSome) = true := by
    decide +kernel
  obtain ⟨s, hs, hg⟩ := (Option.any_eq_true _ _).mp hm
  have hsame := refusal?_congr (layout_after hs)
  have hr := perform_refused ((congrFun hsame _).trans refusal?_unopenable)
  obtain ⟨-, -, hp, hall⟩ := failed_making_leaves_no_trace rfl hr
  refine ⟨s, hs, hg, hp s rfl, ?_⟩
  have hu : ¬(guarded.admits ⟨sharedService, "a", none, .newSimulator (.setup unopenable)⟩ = true) := by
    rw [admits, refusal?_unopenable]
    exact nofun
  have hfirst : guarded.admits (making "a") = true := by decide +kernel
  rw [← (hall guarded replacing).1, replacing, List.filter_cons_of_pos hfirst, List.filter_cons_of_pos rfl,
    List.filter_cons_of_neg hu, List.filter_cons_of_pos rfl, List.filter_nil]

end Session
end Flotation
