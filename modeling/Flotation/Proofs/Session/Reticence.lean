import Flotation.Proofs.Session.LogActs
import Flotation.Proofs.Session.Refusals
import Flotation.Proofs.Session.Relics
import Flotation.Proofs.Simulator.Transcript

/-! Reticence: what the console of a simulator never gets to show, whatever is requested before and after the
simulator is made. It is a matter of the console level in the setup, and not of its quiet flag. -/
namespace Flotation

namespace Service

/-- A sink of the service has been handed the entry for the console. -/
def Shows (s : Service) (console : ConsoleId) (entry : Entry) : Prop :=
  ∃ slot ∈ s.slots, slot.sink.target = .console console ∧ entry ∈ slot.entries

/-- The sinks for the console of a simulator have been put up at the level, and have been handed nothing
below it. -/
def Guards (serial : Nat) (level : Level) (s : Service) : Prop :=
  ∀ slot ∈ s.slots, slot.sink.target = .console (Simulator.consoleId serial) →
    slot.threshold = level ∧ ∀ entry ∈ slot.entries, level ≤ entry.level

variable {serial : Nat} {level : Level} {s : Service}

namespace Guards

theorem offer (h : s.Guards serial level) (batch : List Entry) : (s.offer batch).Guards serial level := by
  intro slot hm hc
  obtain ⟨before, hb, rfl | rfl⟩ := Slot.mem_offered hm
  · exact h slot hb hc
  · obtain ⟨hs, ht, -⟩ := before.continues_served batch
    rw [hs] at hc
    obtain ⟨hl, he⟩ := h before hb hc
    refine ⟨ht.trans hl, fun entry hentry => ?_⟩
    rw [Slot.entries_served, List.mem_append] at hentry
    rcases hentry with hentry | hentry
    · exact he entry hentry
    · exact hl ▸ of_decide_eq_true (List.mem_filter.mp hentry).2

/-- Nothing that is done to a service breaks the guard, unless it puts up another sink for the console at some
other level. -/
theorem undergo {act : Act} (h : s.Guards serial level)
    (ha : act.Serves serial → ∃ sink, act = .attachSink sink level) : (s.undergo act).Guards serial level := by
  cases act with
  | log entry =>
    rw [Service.undergo]
    split_ifs
    · exact h
    · exact offer (s := s.enter entry) h _
    · exact h
  | flush =>
    rw [Service.undergo]
    split_ifs
    · exact h.offer _
    · exact h.offer _
  | attachSink sink threshold =>
    intro slot hm hc
    rcases List.mem_append.mp hm with hm | hm
    · exact h slot hm hc
    · obtain rfl := List.mem_singleton.mp hm
      obtain ⟨_, he⟩ := ha hc
      exact ⟨(Act.attachSink.inj he).2, List.forall_mem_nil _⟩
  | detachSinks => exact List.forall_mem_nil _
  | buffer | setThreshold | dropHeld | newLedger => exact h

theorem foldl {acts : List Act} (h : s.Guards serial level)
    (ha : ∀ act ∈ acts, act.Serves serial → ∃ sink, act = .attachSink sink level) :
    (acts.foldl Service.undergo s).Guards serial level := by
  induction acts generalizing s with
  | nil => exact h
  | cons act rest ih =>
    obtain ⟨hact, hrest⟩ := List.forall_mem_cons.mp ha
    exact ih (h.undergo hact) hrest

end Guards

/-- What is accepted while nothing is held shows at once, if the sink for the console takes it and none
refuses. -/
theorem shows_of_logged {slot : Slot} {console : ConsoleId} {entry : Entry} (hc : s.Compliant)
    (hb : s.buffering = false) (ha : s.accepts entry.level = true) (hm : slot ∈ s.slots)
    (ht : slot.sink.target = .console console) (hl : slot.threshold ≤ entry.level) :
    (s.undergo (.log entry)).Shows console entry := by
  rw [undergo_log_of_compliant hc, logged, if_pos ha, if_neg (ne_true_of_eq_false hb)]
  refine ⟨slot.served [entry], List.mem_map_of_mem hm, ?_, ?_⟩
  · rw [(slot.continues_served [entry]).1]
    exact ht
  · rw [Slot.entries_served, List.mem_append]
    exact .inr (List.mem_filter.mpr ⟨List.mem_singleton_self entry, decide_eq_true hl⟩)

end Service

namespace Session
open Flotation.Action

/-- No simulator that is made from the setup, be it given or read, at whatever point of whatever session among
whatever files, has anything below the level on its console at any time. -/
def Reticent (level : Level) (setup : SimulatorSetup Float) : Prop :=
  ∀ (files : Directory) (earlier later : List Request) (r : Request) (blueprint : Blueprint) (s : Session)
    (new : Simulator Float) (made : Station),
    (among files).after earlier = some s → r.command = .newSimulator blueprint → blueprint.read = .ok setup →
    (Simulator.create setup).run s.station = (.returned new, made) →
    ∀ (name : String) (done : List Act), done <+: (among files).course name (earlier ++ r :: later) →
    ∀ entry, (done.foldl Service.undergo {}).Shows (Simulator.consoleId new.serial) entry → level ≤ entry.level

variable {setup : SimulatorSetup Float} {files : Directory} {s : Session} {r : Request} {blueprint : Blueprint}
  {new : Simulator Float} {made : Station}

/-- A simulator that is made takes the service over, and what else is done to it puts up no console. -/
theorem acts_of_create (hc : r.command = .newSimulator blueprint) (hb : blueprint.read = .ok setup)
    (h : (Simulator.create setup).run s.station = (.returned new, made)) (name : String) :
    ∃ rest, (∀ act ∈ rest, ¬act.Serves new.serial) ∧
      s.acts name r = addressed sharedService name (Simulator.takeOverActs setup.logging new.serial ++ rest) := by
  rw [acts, hc, (Simulator.create_fits h).1]
  dsimp only
  rw [hb]
  dsimp only
  rw [newSimulatorActs, Simulator.createActs, h]
  refine ⟨_, ?_, congrArg _ (List.append_assoc _ _ _)⟩
  rw [List.forall_mem_append, List.forall_mem_singleton]
  refine ⟨id, ?_⟩
  cases s.simulators.get? r.simulator with
  | none => exact List.forall_mem_nil _
  | some old =>
    refine List.forall_mem_cons.mpr ⟨id, ?_⟩
    split_ifs
    · exact List.forall_mem_nil _
    · exact List.forall_mem_singleton.mpr id

/-- Only the simulator itself puts up a sink for its console, and that at the level of its setup. -/
theorem serves_at_consoleLevel {earlier later : List Request} {name : String} {act : Act}
    (hs : (among files).after earlier = some s) (hc : r.command = .newSimulator blueprint)
    (hb : blueprint.read = .ok setup) (h : (Simulator.create setup).run s.station = (.returned new, made))
    (ha : act ∈ (among files).course name (earlier ++ r :: later)) (hv : act.Serves new.serial) :
    ∃ sink, act = .attachSink sink setup.logging.consoleLevel := by
  have hn := (Simulator.create_fits h).1
  rw [course_append hs, List.mem_append, course, List.mem_append] at ha
  rcases ha with ha | ha | ha
  · -- before the simulator is made, no console goes by its number
    have hlt : new.serial < s.station.serials := ((after_undergoes name hs).serves act ha _ hv).2
    exact absurd hn (Nat.ne_of_lt hlt)
  · obtain ⟨rest, hrest, hacts⟩ := acts_of_create hc hb h name
    rw [hacts, addressed] at ha
    split_ifs at ha
    · rcases List.mem_append.mp ha with ha | ha
      · exact (Simulator.mem_takeOverActs ha hv).2
      · exact absurd hv (hrest act ha)
    · cases ha
  · -- and afterwards its number is never given again
    obtain ⟨rest, -, hacts⟩ := acts_of_create hc hb h sharedService
    have hown : Act.attachSink (.into (.console (Simulator.consoleId new.serial))) setup.logging.consoleLevel ∈
        s.acts sharedService r := by
      rw [hacts, addressed, if_pos rfl, Simulator.takeOverActs, Simulator.ownSlots]
      simp
    have hlt : new.serial < ((perform r).run s).2.station.serials :=
      ((perform_undergoes sharedService s r).serves _ hown _ rfl).2
    rcases hr : (perform r).run s with ⟨_ | _ | _, t⟩ <;> rw [hr] at ha hlt
    · exact absurd (serials_le_of_course ha hv) (Nat.not_le_of_lt hlt)
    · exact absurd (serials_le_of_course ha hv) (Nat.not_le_of_lt hlt)
    · cases ha

theorem reticent_of_le {level : Level} (h : level ≤ setup.logging.consoleLevel) : Reticent level setup := by
  intro files earlier later r blueprint s new made hs hc hb hr name done hd entry hshows
  obtain ⟨slot, hm, ht, he⟩ := hshows
  have hg : (done.foldl Service.undergo {}).Guards new.serial setup.logging.consoleLevel :=
    Service.Guards.foldl (List.forall_mem_nil _) fun act ha =>
      serves_at_consoleLevel hs hc hb hr (hd.subset ha)
  exact Nat.le_trans h ((hg slot hm ht).2 entry he)

/-- Once a simulator is made at a station that holds nothing back, what comes up to its console level shows on
its console. -/
theorem shows_after_create (h : (Simulator.create setup).run s.station = (.returned new, made))
    (hb : s.station.service.buffering = false) {entry : Entry} (hl : setup.logging.consoleLevel ≤ entry.level) :
    (made.service.undergo (.log entry)).Shows (Simulator.consoleId new.serial) entry := by
  obtain ⟨scene, hs⟩ := Simulator.service_of_create h
  obtain ⟨hserial, hfit⟩ := Simulator.create_fits h
  have hlineup : (Sink.into (.console (Simulator.consoleId new.serial)), setup.logging.consoleLevel) ∈
      made.service.lineup := by
    have hf : made.service.lineup = Simulator.ownPlaces setup.logging s.station.serials := congrArg Prod.fst hfit
    rw [hf, hserial]
    exact List.mem_cons_self
  obtain ⟨slot, hm, hslot⟩ := List.mem_map.mp hlineup
  obtain ⟨hsink, hlevel⟩ := Prod.mk.inj hslot
  have hthreshold : made.service.threshold = setup.logging.lowestLevel := by
    rw [hs, Service.threshold_logged, Simulator.served_eq]
  have hheld : made.service.buffering = false := by
    rw [hs, Service.buffering_logged, Simulator.served_eq]
    exact hb
  refine Service.shows_of_logged (Simulator.compliant_of_create h) hheld ?_ hm ?_ ?_
  · rw [Service.accepts, hthreshold]
    exact decide_eq_true (LogSettings.lowestLevel_le_iff.mpr (.inl hl))
  · rw [hsink]
    rfl
  · rw [hlevel]
    exact hl

theorem course_log (simulator : String) (console : Option String) (level : Level) (time : Float)
    (message : String) (context : Option Context) :
    s.course sharedService [⟨sharedService, simulator, console, .log level time message context⟩] =
      [.log ⟨level, time, message, context.getD s.station.context⟩] := by
  rw [course, acts]
  rcases (perform ⟨sharedService, simulator, console, .log level time message context⟩).run s with
    ⟨_ | _ | _, t⟩ <;> rfl

/-- A simulator is made at the start of a session, and then something is logged. -/
theorem foldl_course_create (h : (Simulator.create setup).run (among files).station = (.returned new, made))
    (level : Level) :
    ((among files).course sharedService
        [⟨sharedService, "main", none, .newSimulator (.setup setup)⟩,
          ⟨sharedService, "main", none, .log level 0.0 "" none⟩]).foldl Service.undergo {} =
      made.service.undergo (.log ⟨level, 0.0, "", made.context⟩) := by
  let r : Request := ⟨sharedService, "main", none, .newSimulator (.setup setup)⟩
  let t : Session := { station := made, simulators := (among files).simulators.put "main" new }
  have hp : (perform r).run (among files) = (.returned .nothing, t) := by
    have hq : perform r = quietly (newSimulator "main" (.setup setup)) := by rw [perform]
    rw [hq]
    exact quietly_returned (newSimulator_run rfl h)
  have hn : ((perform r).run (among files)).1 ≠ .aborted := by
    rw [hp]
    simp
  have hs : ((among files).acts sharedService r).foldl Service.undergo {} = made.service := by
    have hu := (perform_undergoes sharedService (among files) r).service_eq
    rw [hp] at hu
    exact hu.symm
  rw [course_cons hn, course_log, hp, List.foldl_append, hs]
  rfl

theorem le_of_reticent {level : Level} (hr : setup.refusal? files = none) (h : Reticent level setup) :
    level ≤ setup.logging.consoleLevel := by
  have hm : setup.refusal? (among files).station.outlets.directory = none := hr
  obtain ⟨new, made, hc⟩ := Simulator.create_returns hm
  -- something is logged that just comes up to the console level
  let entry : Entry := ⟨setup.logging.consoleLevel, 0.0, "", made.context⟩
  have hshown : (made.service.undergo (.log entry)).Shows (Simulator.consoleId new.serial) entry :=
    shows_after_create hc rfl (Nat.le_refl _)
  rw [← foldl_course_create hc] at hshown
  exact h files [] _ _ (.setup setup) _ new made rfl rfl rfl hc sharedService _ List.prefix_rfl entry hshown

/-- A simulator that can be made among some files has nothing below a level on its console, come what may, exactly if
its console level comes up to it. The quiet flag is neither here nor there. -/
theorem reticent_iff_le_consoleLevel {level : Level} (h : setup.refusal? files = none) :
    Reticent level setup ↔ level ≤ setup.logging.consoleLevel :=
  ⟨le_of_reticent h, reticent_of_le⟩

/-- The standard simulator with the settings for errors only. -/
theorem hushed_reticent :
    let setup : SimulatorSetup Float := { SimulatorSetup.standard with logging := .hushed }
    setup.refusal? {} = none ∧ Reticent .error setup ∧ ¬Reticent .fatal setup := by
  have h : ({ SimulatorSetup.standard with logging := .hushed } : SimulatorSetup Float).refusal? {} = none := by
    decide +kernel
  have hiff (level : Level) : Reticent level _ ↔ level ≤ .error := reticent_iff_le_consoleLevel h
  exact ⟨h, (hiff .error).mpr (by decide), fun hc => absurd ((hiff .fatal).mp hc) (by decide)⟩

/-- The standard simulator but for the quiet flag. -/
def flagged : SimulatorSetup Float := { SimulatorSetup.standard with logging := { quiet := true } }

/-- The flag alone does not keep the console quiet. -/
theorem flagged_not_reticent :
    flagged.logging.quiet = true ∧ flagged.refusal? {} = none ∧ ¬Reticent .error flagged ∧
      (({} : Session).after [⟨sharedService, "main", none, .newSimulator (.setup flagged)⟩]).map
          (·.station.outlets.standard) =
        some ("[0.000] [INF] Simulator 'floating_sphere' ready: " ++
          "radius=1 m, mass=589.049 kg, water=1000 kg/m^3, g=9.81 m/s^2\n") := by
  have h : flagged.refusal? {} = none := by decide +kernel
  refine ⟨rfl, h, fun hc => absurd (le_of_reticent h hc) (by decide), ?_⟩
  decide +kernel

end Session
end Flotation
