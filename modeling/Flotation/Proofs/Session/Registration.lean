import Flotation.Proofs.Session.Course
import Flotation.Proofs.Simulator.Making

/-! Who has put up the sinks of the shared service. Simulators come and go, the user adds more sinks, and
every simulator that is taken down takes all of them along. -/
namespace Flotation
open Flotation.Action

inductive Registrant where
  | user
  | simulator (serial : Nat)
  deriving DecidableEq

structure Registration where
  registrant : Registrant
  sink : Sink
  threshold : Level

/-- What the taking down of the simulator with a serial number leaves registered. -/
abbrev Takedown := Nat → List Registration → List Registration

namespace Registration

def place (r : Registration) : Sink × Level := (r.sink, r.threshold)

/-- The registrations of all others stay as they are. -/
def sparing : Takedown := fun serial known => known.filter fun r => r.registrant ≠ .simulator serial

def stripping : Takedown := fun _ _ => []

/-- What a simulator registers in its making. -/
def own (settings : LogSettings) (serial : Nat) : List Registration :=
  (Simulator.ownSlots settings (Simulator.consoleId serial)).map fun slot =>
    ⟨.simulator serial, slot.sink, slot.threshold⟩

/-- What is left registered when the simulator of a name, if there is one, is taken down. -/
def remaining (takedown : Takedown) (known : List Registration) :
    Option (Simulator Float) → List Registration
  | none => known
  | some old => takedown old.serial known

theorem sparing_eq_nil {serial : Nat} {known : List Registration} :
    sparing serial known = [] ↔ ∀ r ∈ known, r.registrant = .simulator serial := by
  simp [sparing, List.filter_eq_nil_iff]

end Registration

open Registration

/-- The sink that a command adds. -/
def SinkChoice.sink : SinkChoice → Sink
  | .console name => .into (.console (.named name))
  | .file path => .into (.file path)
  | .nowhere => .into .nowhere
  | .entries tag => .into (.entries tag)
  | .batches tag => .into (.batches tag)
  | .failing refused tag => .failing refused (.batches tag)

/-- A simulator is made or taken down, or a sink is added to the shared service. -/
def Request.enrols (r : Request) : Prop :=
  match r.command with
  | .newSimulator _ | .destroy => True
  | .attachSink .. => r.service = Session.sharedService
  | _ => False

/-- The sinks in their places, whatever they have received. -/
def Service.lineup (s : Service) : List (Sink × Level) := s.slots.map fun slot => (slot.sink, slot.threshold)

@[simp] theorem Service.lineup_attachSink (s : Service) (sink : Sink) (threshold : Level) :
    (s.attachSink sink threshold).lineup = s.lineup ++ [(sink, threshold)] := List.map_append

@[simp] theorem Service.lineup_logged (s : Service) (entry : Entry) : (s.logged entry).lineup = s.lineup := by
  rw [logged]
  split_ifs
  · rfl
  · rw [lineup, distribute, List.map_map]
    refine List.map_congr_left fun slot _ => ?_
    obtain ⟨hs, ht, -⟩ := slot.continues_served [entry]
    rw [Function.comp_apply, hs, ht]
  · rfl

namespace Session

/-- Who is registered after a request, if a simulator that is taken down has the given effect. What is
refused changes nothing. -/
def enrolled (takedown : Takedown) (s : Session) (known : List Registration) (r : Request) :
    List Registration :=
  match r.command, ((perform r).run s).1 with
  | .attachSink choice threshold, .returned _ => known ++ [⟨.user, choice.sink, threshold⟩]
  | .newSimulator blueprint, .returned _ =>
    match blueprint.read with
    | .ok setup => remaining takedown (own setup.logging s.station.serials) (s.simulators.get? r.simulator)
    | .error _ => known
  | .destroy, .returned _ => remaining takedown known (s.simulators.get? r.simulator)
  | _, _ => known

def roster (takedown : Takedown) (s : Session) (known : List Registration) :
    List Request → List Registration
  | [] => known
  | r :: rest => ((perform r).run s).2.roster takedown (s.enrolled takedown known r) rest

/-- The service at a station has just these sinks, delivers at once and holds nothing. -/
structure Manned (known : List Registration) (service : Service) : Prop where
  lineup_eq : service.lineup = known.map place
  buffering_eq : service.buffering = false
  held_eq : service.held = []

variable {known : List Registration}

theorem attachSink_cases (choice : SinkChoice) (threshold : Level) (st : Station) :
    (∃ failure, (attachSink choice threshold).run st = (.raised failure, st)) ∨
      ∃ outlets, (attachSink choice threshold).run st =
        (.returned (), { st with service := st.service.attachSink choice.sink threshold, outlets }) := by
  cases choice with
  | file path =>
    rcases Station.openLog_cases path st with hr | ⟨outlets, hr⟩
    · exact .inl ⟨_, run_bind_raised hr _⟩
    · exact .inr ⟨outlets, run_bind_returned hr _⟩
  | console name => exact .inr ⟨_, rfl⟩
  | nowhere => exact .inr ⟨_, rfl⟩
  | entries tag => exact .inr ⟨_, rfl⟩
  | batches tag => exact .inr ⟨_, rfl⟩
  | failing refused tag => exact .inr ⟨_, rfl⟩

theorem Manned.attachSink {service : Service} (h : Manned known service) (choice : SinkChoice)
    (threshold : Level) :
    Manned (known ++ [⟨.user, choice.sink, threshold⟩]) (service.attachSink choice.sink threshold) := by
  refine ⟨?_, h.buffering_eq, h.held_eq⟩
  rw [Service.lineup_attachSink, h.lineup_eq, List.map_append]
  rfl

theorem Manned.served {service : Service} (h : Manned known service) (settings : LogSettings) (serial : Nat) :
    Manned (own settings serial) (Simulator.served settings (Simulator.consoleId serial) service) := by
  rw [Simulator.served_eq]
  refine ⟨?_, h.buffering_eq, h.held_eq⟩
  rw [Service.lineup, own, List.map_map]
  rfl

theorem Manned.logged {service : Service} (h : Manned known service) (entry : Entry) :
    Manned known (service.logged entry) := by
  have hb : (service.logged entry).buffering = false := by
    rw [Service.buffering_logged, h.buffering_eq]
  refine ⟨?_, hb, Service.Prompt.logged (fun _ => h.held_eq) entry hb⟩
  rw [Service.lineup_logged, h.lineup_eq]

theorem Manned.detachSinks {service : Service} (h : Manned known service) :
    Manned [] service.detachSinks := ⟨rfl, h.buffering_eq, h.held_eq⟩

/-- With nothing held no sink can stop a simulator from being taken down. -/
theorem destroy_manned {st : Station} (h : Manned known st.service) (old : Simulator Float) :
    ∃ st', old.destroy.run st = (.returned (), st') ∧ Manned [] st'.service := by
  exact ⟨_, closing_returned rfl (run_bind_returned (Station.flush_idle h.held_eq) _), h.detachSinks⟩

theorem create_manned {st : Station} (h : Manned known st.service) (setup : SimulatorSetup Float) :
    (∃ failure, (Simulator.create setup).run st = (.raised failure, st)) ∨
      ∃ new st', (Simulator.create setup).run st = (.returned new, st') ∧
        Manned (own setup.logging st.serials) st'.service := by
  rcases Simulator.create_cases setup st with ⟨fault, hr⟩ | ⟨scene, st', -, hr, hs⟩
  · exact .inl ⟨_, hr⟩
  · exact .inr ⟨_, st', hr, hs ▸ (h.served setup.logging st.serials).logged _⟩

/-- The new simulator is there, and alone, before the old one is taken down. -/
theorem newSimulator_manned {s : Session} (h : Manned known s.station.service) (name : String)
    (setup : SimulatorSetup Float) :
    (∃ failure, (newSimulator name (.setup setup)).run s = (.raised failure, s)) ∨
      ∃ t, (newSimulator name (.setup setup)).run s = (.returned (), t) ∧
        Manned (remaining stripping (own setup.logging s.station.serials) (s.simulators.get? name))
          t.station.service := by
  rcases create_manned h setup with ⟨failure, hr⟩ | ⟨new, st', hr, hm⟩
  · exact .inl ⟨failure, newSimulator_raised hr⟩
  · refine .inr ?_
    cases hg : s.simulators.get? name with
    | none => exact ⟨_, newSimulator_run hg hr, hm⟩
    | some old =>
      obtain ⟨st'', hd, hn⟩ := destroy_manned hm old
      exact ⟨_, newSimulator_run_taken hg hr hd, hn⟩

theorem takedown_manned {s : Session} (h : Manned known s.station.service) (name : String) :
    ∃ t, (destroy name).run s = (.returned (), t) ∧
      Manned (remaining stripping known (s.simulators.get? name)) t.station.service := by
  cases hg : s.simulators.get? name with
  | none => exact ⟨_, takeDown_run_none hg, h⟩
  | some old =>
    obtain ⟨st', hd, hn⟩ := destroy_manned h old
    exact ⟨_, takeDown_run hg hd, hn⟩

/-- A request that enrols is answered or refused, and the roster knows who is there. -/
theorem perform_manned {s : Session} (h : Manned known s.station.service) {r : Request} (hr : r.enrols) :
    ((perform r).run s).1 ≠ .aborted ∧
      Manned (s.enrolled stripping known r) ((perform r).run s).2.station.service := by
  obtain ⟨service, name, console, command⟩ := r
  cases command with
  | attachSink choice threshold =>
    have hs : service = sharedService := hr
    subst hs
    have hp : perform ⟨sharedService, name, console, .attachSink choice threshold⟩ =
        quietly (atStation (attachSink choice threshold)) := congrArg quietly (atService_shared _)
    rcases attachSink_cases choice threshold s.station with ⟨failure, ha⟩ | ⟨outlets, ha⟩
    · rw [enrolled, hp, quietly_raised (run_atStation ha)]
      exact ⟨nofun, h⟩
    · rw [enrolled, hp, quietly_returned (run_atStation ha)]
      exact ⟨nofun, h.attachSink choice threshold⟩
  | newSimulator blueprint =>
    have hp : perform ⟨service, name, console, .newSimulator blueprint⟩ =
        quietly (newSimulator name blueprint) := rfl
    cases hb : blueprint.read with
    | error fault =>
      rw [enrolled, hp, quietly_raised (newSimulator_unread hb name s)]
      exact ⟨nofun, h⟩
    | ok setup =>
      rw [newSimulator_read hb] at hp
      rcases newSimulator_manned h name setup with ⟨failure, hn⟩ | ⟨t, hn, hm⟩
      · rw [enrolled, hp, quietly_raised hn]
        exact ⟨nofun, h⟩
      · rw [enrolled, hp, quietly_returned hn]
        dsimp only
        rw [hb]
        exact ⟨nofun, hm⟩
  | destroy =>
    have hp : perform ⟨service, name, console, .destroy⟩ = quietly (destroy name) := rfl
    obtain ⟨t, hn, hm⟩ := takedown_manned h name
    rw [enrolled, hp, quietly_returned hn]
    exact ⟨nofun, hm⟩
  | _ => cases hr

theorem after_manned {s : Session} (h : Manned known s.station.service) {requests : List Request}
    (hr : ∀ r ∈ requests, r.enrols) :
    ∃ t, s.after requests = some t ∧
      Manned (s.roster stripping known requests) t.station.service := by
  induction requests generalizing s known with
  | nil => exact ⟨s, rfl, h⟩
  | cons r rest ih =>
    obtain ⟨hfirst, hrest⟩ := List.forall_mem_cons.mp hr
    obtain ⟨hn, hm⟩ := perform_manned h hfirst
    rw [after_cons hn, roster]
    exact ih hm hrest

/-- The sinks of the shared service after simulators were made, replaced and taken down and sinks were added,
in any order. A simulator that is taken down strips the service, so what it should have spared is spared only
if there was nothing to spare. -/
theorem takedown_strips {s : Session} (h : Manned known s.station.service) {requests : List Request}
    (hr : ∀ r ∈ requests, r.enrols) :
    ∃ t, s.after requests = some t ∧
      (t.service sharedService).lineup = (s.roster stripping known requests).map place ∧
      ∀ r simulator, r.command = .destroy → t.simulators.get? r.simulator = some simulator →
        ∃ u, (perform r).run t = (.returned .nothing, u) ∧ (u.service sharedService).lineup = [] ∧
          ((u.service sharedService).lineup =
              (sparing simulator.serial (s.roster stripping known requests)).map place ↔
            ∀ registration ∈ s.roster stripping known requests,
              registration.registrant = .simulator simulator.serial) := by
  obtain ⟨t, ht, hm⟩ := after_manned h hr
  refine ⟨t, ht, hm.lineup_eq, fun r simulator hc hg => ?_⟩
  obtain ⟨u, hu, hn⟩ := takedown_manned hm r.simulator
  rw [hg] at hn
  have hl : (u.service sharedService).lineup = [] := hn.lineup_eq
  refine ⟨u, ?_, hl, ?_⟩
  · rw [perform, hc]
    exact quietly_returned hu
  · rw [hl, eq_comm, List.map_eq_nil_iff, sparing_eq_nil]

def making (name : String) : Request := ⟨sharedService, name, none, .newSimulator (.setup .standard)⟩

def takingDown (name : String) : Request := ⟨sharedService, name, none, .destroy⟩

def adding (tag : String) : Request := ⟨sharedService, "main", none, .attachSink (.batches tag) .trace⟩

/-- The user adds a sink while there is one simulator. -/
theorem added_sink_stripped :
    (∀ r ∈ [making "a", adding "mine"], r.enrols) ∧
      ∃ t simulator u, ({} : Session).after [making "a", adding "mine"] = some t ∧
        t.simulators.get? "a" = some simulator ∧
        (t.service sharedService).lineup =
          (({} : Session).roster stripping [] [making "a", adding "mine"]).map place ∧
        (perform (takingDown "a")).run t = (.returned .nothing, u) ∧
        (u.service sharedService).lineup = [] := by
  have hr : ∀ r ∈ [making "a", adding "mine"], r.enrols := by
    intro r hm
    rcases List.mem_pair.mp hm with rfl | rfl
    · exact trivial
    · exact rfl
  have hg : (({} : Session).after [making "a", adding "mine"]).any
      (fun t => (t.simulators.get? "a").isSome) = true := by decide +kernel
  obtain ⟨t, ht, hl, hd⟩ := @takedown_strips [] {} ⟨rfl, rfl, rfl⟩ _ hr
  rw [ht, Option.any_some] at hg
  obtain ⟨simulator, hs⟩ := Option.isSome_iff_exists.mp hg
  obtain ⟨u, hu, hn, -⟩ := hd (takingDown "a") simulator rfl hs
  exact ⟨hr, t, simulator, u, ht, hs, hl, hu, hn⟩

/-- After the requests a simulator is left, but not every sink that should have been spared. -/
def Deaf (name : String) (requests : List Request) : Prop :=
  ∃ t, ({} : Session).after requests = some t ∧ (t.simulators.get? name).isSome ∧
    (t.service sharedService).lineup ≠ (({} : Session).roster sparing [] requests).map place

private theorem deaf_of_length {name : String} {requests : List Request}
    (h : (({} : Session).after requests).any (fun t => (t.simulators.get? name).isSome &&
      (t.service sharedService).lineup.length != (({} : Session).roster sparing [] requests).length) = true) :
    Deaf name requests := by
  obtain ⟨t, ht, hb⟩ := (Option.any_eq_true _ _).mp h
  obtain ⟨hs, hn⟩ := Bool.and_eq_true_iff.mp hb
  refine ⟨t, ht, hs, fun he => bne_iff_ne.mp hn ?_⟩
  rw [he, List.length_map]

/-- Of two simulators the one that is left has lost its sink with the other. One that takes the place of
another has lost its own from the start. -/
theorem takedown_deafens_others :
    Deaf "b" [making "a", making "b", takingDown "a"] ∧ Deaf "a" [making "a", making "a"] :=
  ⟨deaf_of_length (by decide +kernel), deaf_of_length (by decide +kernel)⟩

end Session
end Flotation
