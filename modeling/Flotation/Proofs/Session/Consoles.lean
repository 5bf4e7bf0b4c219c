import Flotation.Proofs.Session.QuietRequests

/-! The consoles of simulators. Whatever is asked of a session, no sink is left that goes to the console of a
simulator that has been taken down, and nothing is written to where the console was. -/
namespace Flotation
open Flotation.Action Simulator

/-- A sink that the request adds never refuses anything. -/
def Request.Trusted (r : Request) : Prop :=
  match r.command with
  | .attachSink (.failing ..) _ => False
  | _ => True

namespace Session
variable {relic : Relic} {β : Type} {s t : Session} {outcome : Outcome β}

/-- A simulator with the number is there. -/
def Alive (s : Session) (serial : Nat) : Prop :=
  ∃ name a, s.simulators.get? name = some a ∧ a.serial = serial

theorem alive_iff {serial : Nat} : s.Alive serial ↔ ∃ name, s.wiring.alive name = some serial := by
  simp only [Alive, wiring, Option.map_eq_some_iff]

/-- The action takes the session over to one that is wired soundly. What was gone is still gone, and its relic
made no difference. -/
structure Safe (x : Action Session β) (s : Session) (outcome : Outcome β) (t : Session) : Prop where
  run_eq : x.run s = (outcome, t)
  not_aborted : outcome ≠ .aborted
  sound : t.wiring.Sound
  gone : ∀ serial, s.wiring.Gone serial → t.wiring.Gone serial
  relic : ∀ relic : Relic, s.wiring.Gone relic.serial →
    x.run (s.withRelic relic) = (outcome, t.withRelic relic)

namespace Safe

/-- Nothing has changed. -/
theorem unchanged {x : Action Session β} (h : s.wiring.Sound) (hn : outcome ≠ .aborted)
    (hr : x.run s = (outcome, s)) (ha : ∀ relic : Relic, s.wiring.Gone relic.serial →
      x.run (s.withRelic relic) = (outcome, s.withRelic relic)) : Safe x s outcome s :=
  ⟨hr, hn, h, fun _ => id, ha⟩

theorem of_ignores {x : Action Session β} (hx : ∀ relic, Ignores relic x) (h : s.wiring.Sound) :
    Safe x s (x.run s).1 (x.run s).2 := by
  -- the next console to be put up tells that the wiring stays, whatever is gone
  obtain ⟨hn, hw, -⟩ := hx ⟨s.station.serials, ⟨{}, true, ""⟩⟩ s h.spares_next
  refine ⟨rfl, hn, hw ▸ h, fun serial hg => hw ▸ hg, fun relic hg => ?_⟩
  exact (hx relic s (h.spares hg.2)).2.2

end Safe

theorem safe_quietly {x : Action Session Unit} (h : ∃ outcome t, Safe x s outcome t) :
    ∃ outcome t, Safe (quietly x) s outcome t := by
  obtain ⟨outcome, t, hr, hn, hs, hg, ha⟩ := h
  cases outcome with
  | returned a =>
    exact ⟨_, t, quietly_returned hr, nofun, hs, hg, fun relic h => quietly_returned (ha relic h)⟩
  | raised failure =>
    exact ⟨_, t, quietly_raised hr, nofun, hs, hg, fun relic h => quietly_raised (ha relic h)⟩
  | aborted => exact absurd rfl hn

theorem blind_attachSink (choice : SinkChoice) (threshold : Level) :
    Station.Blind relic (attachSink choice threshold) := by
  cases choice with
  | file path =>
    exact .bind (Station.blind_openLog path) fun _ => .update (fun _ => rfl) fun _ => rfl
  | console | nowhere | entries | batches | failing =>
    exact .bind (.pure _) fun _ => .update (fun _ => rfl) fun _ => rfl

/-- A service gets other sinks. -/
theorem safe_refit {name : String} {x : Action Station β} {st : Station} (hx : ∀ relic, Station.Blind relic x)
    (hr : x.run (stationFor name s) = (outcome, st)) (hn : outcome ≠ .aborted)
    (hst : st.serials = s.station.serials) (h : (s.wiring.refit name st.service.lineup).Sound) :
    Safe (atService name x) s outcome (settle name st s) := by
  have hw : (settle name st s).wiring = s.wiring.refit name st.service.lineup := by
    rw [wiring_settle, hst]
    rfl
  refine ⟨by rw [run_atService, hr], hn, hw ▸ h, fun serial hg => hw ▸ hg, fun relic _ => ?_⟩
  have ha : x.run (stationFor name (s.withRelic relic)) = (outcome, st.withRelic relic) := by
    obtain ⟨-, -, ha⟩ := hx relic (stationFor name s) trivial
    rwa [hr] at ha
  rw [run_atService, ha, settle_withRelic]

theorem safe_attachSink (h : s.wiring.Sound) (name : String) {choice : SinkChoice} {threshold : Level}
    (hc : ∀ received, choice.sink.refusal received = none) :
    ∃ outcome t, Safe (atService name (attachSink choice threshold)) s outcome t := by
  rcases attachSink_cases choice threshold (stationFor name s) with ⟨failure, hr⟩ | ⟨outlets, hr⟩
  · refine ⟨_, _, safe_refit (fun _ => blind_attachSink _ _) hr nofun rfl ?_⟩
    exact (s.wiring.refit_self name).symm ▸ h
  · refine ⟨_, _, safe_refit (fun _ => blind_attachSink _ _) hr nofun rfl ?_⟩
    rw [Service.lineup_attachSink]
    refine h.refit (fun place hm => ?_) fun place hm serial ht => ?_
    · rcases List.mem_append.mp hm with hm | hm
      · exact h.willing name place hm
      · rw [List.mem_singleton.mp hm]
        exact hc
    · rcases List.mem_append.mp hm with hm | hm
      · exact h.manned name place hm serial ht
      · rw [List.mem_singleton.mp hm] at ht
        cases choice <;> cases ht

theorem safe_detachSinks (h : s.wiring.Sound) (name : String) :
    ∃ outcome t, Safe (atService name (Station.onService (·.detachSinks))) s outcome t :=
  ⟨_, _, safe_refit (fun _ => .update (fun _ => rfl) fun _ => rfl) rfl nofun rfl h.bare⟩

/-- A new simulator has come, and the one that had its name before is still around. -/
theorem wiring_arrive {st : Station} {new : Simulator Float} {setup : SimulatorSetup Float} (name : String)
    (hn : new.serial = s.station.serials)
    (hst : st.fittings = (ownPlaces setup.logging s.station.serials, s.station.serials + 1)) :
    wiring { s with station := st, simulators := s.simulators.put name new } =
      s.wiring.arrive name (ownPlaces setup.logging s.station.serials) := by
  obtain ⟨hl, hk⟩ := Prod.mk.inj hst
  have hr (other : String) :
      (s.wiring.refit sharedService (ownPlaces setup.logging s.station.serials)).lineup other =
        (s.wiring.arrive name (ownPlaces setup.logging s.station.serials)).lineup other := by
    dsimp only [Wiring.refit, Wiring.arrive, Wiring.staff, Wiring.next]
    split <;> rfl
  rw [wiring_put name new { s with station := st }, wiring_station, hl, hk, hn]
  exact congrArg (Wiring.mk _ _) (funext hr)

/-- All sinks of the shared service go. -/
theorem wiring_stripped {st : Station} (h : st.fittings = ([], s.station.serials)) :
    wiring { s with station := st } = s.wiring.refit sharedService [] := by
  obtain ⟨hl, hk⟩ := Prod.mk.inj h
  rw [wiring_station, hl, hk]
  rfl

section
variable {name : String} {setup : SimulatorSetup Float} {new : Simulator Float} {st : Station}

theorem create_relic {outcome : Outcome (Simulator Float)}
    (hr : (create setup).run s.station = (outcome, st)) (hg : s.wiring.Gone relic.serial) :
    (create setup).run (s.withRelic relic).station = (outcome, st.withRelic relic) := by
  have ha : (create setup).run (s.station.withRelic relic) = _ := create_withRelic setup hg.1
  rwa [hr] at ha

theorem safe_newcomer (h : s.wiring.Sound) (hr : (create setup).run s.station = (.returned new, st))
    (hold : s.simulators.get? name = none) :
    ∃ t, Safe (newSimulator name (.setup setup)) s (.returned ()) t := by
  obtain ⟨hn, hf⟩ := create_fits hr
  have hw := wiring_arrive name hn hf
  refine ⟨_, newSimulator_run hold hr, nofun, hw ▸ h.arrive name setup.logging, fun serial hg => ?_,
    fun relic hg => newSimulator_run (s := s.withRelic relic) hold (create_relic hr hg)⟩
  rw [hw]
  exact hg.arrive name _

/-- The old simulator takes the sinks of the new one along. -/
theorem safe_successor {old : Simulator Float} (h : s.wiring.Sound)
    (hr : (create setup).run s.station = (.returned new, st)) (hold : s.simulators.get? name = some old) :
    ∃ t, Safe (newSimulator name (.setup setup)) s (.returned ()) t := by
  obtain ⟨hn, hf⟩ := create_fits hr
  obtain ⟨hl, -⟩ := Prod.mk.inj hf
  obtain ⟨st', hd, hf', ha⟩ := destroy_relic old (compliant_of_create hr)
  have hw : wiring { s with station := st', simulators := s.simulators.put name new } =
      (s.wiring.arrive name (ownPlaces setup.logging s.station.serials)).refit sharedService [] := by
    rw [← wiring_arrive name hn hf]
    exact wiring_stripped (s := { s with station := st, simulators := s.simulators.put name new }) hf'
  refine ⟨_, newSimulator_run_taken hold hr hd, nofun, hw ▸ (h.arrive name setup.logging).bare,
    fun serial hg => ?_, fun relic hg => ?_⟩
  · rw [hw]
    exact (hg.arrive name _).refit sharedService []
  · have hs : Spares relic.serial st.service.lineup := by
      rw [hl]
      exact spares_own (Nat.ne_of_lt hg.1)
    have hne : old.serial ≠ relic.serial := fun he => hg.2 name (by rw [alive_eq hold, he])
    exact newSimulator_run_taken (s := s.withRelic relic) hold (create_relic hr hg) (ha relic hs hne)

theorem safe_newSimulator (h : s.wiring.Sound) (name : String) (blueprint : Blueprint) :
    ∃ outcome t, Safe (newSimulator name blueprint) s outcome t := by
  cases hb : blueprint.read with
  | error fault =>
    exact ⟨.raised (.fault fault), s, .unchanged h nofun (newSimulator_unread hb name s) fun relic _ =>
      newSimulator_unread hb name (s.withRelic relic)⟩
  | ok setup =>
    rw [newSimulator_read hb]
    rcases create_cases setup s.station with ⟨fault, hr⟩ | ⟨scene, st, -, hr, -⟩
    · refine ⟨.raised (.fault fault), s, .unchanged h nofun ?_ fun relic hg => ?_⟩
      · exact newSimulator_raised hr
      · exact newSimulator_raised (s := s.withRelic relic) (create_relic hr hg)
    · cases hold : s.simulators.get? name with
      | none => exact ⟨_, safe_newcomer h hr hold⟩
      | some old => exact ⟨_, safe_successor h hr hold⟩

end

theorem safe_destroy (h : s.wiring.Sound) {name : String} {a : Simulator Float}
    (hg : s.simulators.get? name = some a) :
    ∃ t, Safe (destroy name) s (.returned ()) t ∧ t.wiring.Gone a.serial := by
  have hc : s.station.service.Compliant := Service.compliant_of_lineup (h.willing sharedService)
  obtain ⟨st, hd, hf, ha⟩ := destroy_relic a hc
  have hw : wiring { s with station := st, simulators := s.simulators.erase name } = s.wiring.depart name := by
    rw [wiring_erase name { s with station := st }, wiring_stripped hf]
    rfl
  refine ⟨_, ⟨takeDown_run hg hd, nofun, hw ▸ h.depart name, fun serial hgone => ?_, fun relic hgone => ?_⟩, ?_⟩
  · rw [hw]
    exact hgone.depart name
  · have hs : Spares relic.serial s.station.service.lineup := h.spares hgone.2 sharedService
    have hne : a.serial ≠ relic.serial := fun he => hgone.2 name (by rw [alive_eq hg, he])
    exact takeDown_run (s := s.withRelic relic) hg (ha relic hs hne)
  · rw [hw]
    exact h.gone_depart (alive_eq hg)

/-- A request is carried out or refused, and either way no simulator leaves a sink behind. -/
theorem safe_perform (h : s.wiring.Sound) {r : Request} (hr : r.Trusted) :
    ∃ outcome t, Safe (perform r) s outcome t := by
  by_cases hq : r.Quiet
  · exact ⟨_, _, .of_ignores (fun _ => ignores_perform hq) h⟩
  · obtain ⟨service, name, console, command⟩ := r
    cases command with
    | attachSink choice threshold =>
      have hc : ∀ received, choice.sink.refusal received = none := by
        cases choice with
        | failing => cases hr
        | console | file | nowhere | entries | batches => exact fun _ => rfl
      exact safe_quietly (safe_attachSink h service hc)
    | detachSinks => exact safe_quietly (safe_detachSinks h service)
    | newSimulator blueprint => exact safe_quietly (safe_newSimulator h name blueprint)
    | destroy =>
      refine safe_quietly ?_
      cases hg : s.simulators.get? name with
      | none =>
        -- there is nothing to take down
        exact ⟨.returned (), s, .unchanged h nofun (takeDown_run_none hg) fun relic _ =>
          takeDown_run_none (s := s.withRelic relic) hg⟩
      | some a =>
        obtain ⟨t, hs, -⟩ := safe_destroy h hg
        exact ⟨_, t, hs⟩
    | _ => exact absurd trivial hq

theorem after_safe (h : s.wiring.Sound) {requests : List Request} (hr : ∀ r ∈ requests, r.Trusted) :
    ∃ t, s.after requests = some t ∧ t.wiring.Sound ∧ ∀ relic : Relic, s.wiring.Gone relic.serial →
      t.wiring.Gone relic.serial ∧ (s.withRelic relic).after requests = some (t.withRelic relic) := by
  induction requests generalizing s with
  | nil => exact ⟨s, rfl, h, fun relic hg => ⟨hg, rfl⟩⟩
  | cons r rest ih =>
    obtain ⟨hfirst, hrest⟩ := List.forall_mem_cons.mp hr
    obtain ⟨outcome, u, hrun, hn, hu, hgone, hrelic⟩ := safe_perform h hfirst
    obtain ⟨t, ht, hs, hrest⟩ := ih hu hrest
    have hstep {a b : Session} (hab : (perform r).run a = (outcome, b)) :
        a.after (r :: rest) = b.after rest := by
      rw [after_cons (by rwa [hab]), hab]
    refine ⟨t, (hstep hrun).trans ht, hs, fun relic hg => ?_⟩
    obtain ⟨hgt, hrt⟩ := hrest relic (hgone _ hg)
    exact ⟨hgt, (hstep (hrelic relic hg)).trans hrt⟩

theorem sound_among (files : Directory) : (among files).wiring.Sound := by
  have hl (name : String) : (among files).wiring.lineup name = [] := by
    change (service (among files) name).lineup = []
    rw [service]
    split <;> rfl
  constructor
  case willing | manned =>
    intro name place hm
    rw [hl] at hm
    cases hm
  case numbered => exact fun name serial ha => by cases ha
  case distinct => exact fun name other serial ha => by cases ha

theorem gone_iff {serial : Nat} : s.wiring.Gone serial ↔ serial < s.station.serials ∧ ¬s.Alive serial := by
  rw [alive_iff, not_exists]
  rfl

/-- Simulators are made, replaced and taken down, or cannot be made, in any order, among whatever files and with
anything else in between, as long as the user adds no sink that refuses something. Then every sink of the shared
service that goes to the console of a simulator has its simulator alive. Whatever is put where the console of one
that is no longer alive was, nothing ever comes of it, and it stays as it was put there. -/
theorem consoles_of_the_living (files : Directory) {requests : List Request} (h : ∀ r ∈ requests, r.Trusted) :
    ∃ t, (among files).after requests = some t ∧
      (∀ slot ∈ (t.service sharedService).slots, ∀ serial,
        slot.sink.target = .console (consoleId serial) → t.Alive serial) ∧
      (∀ r a, r.command = .destroy → t.simulators.get? r.simulator = some a →
        ∃ u, (perform r).run t = (.returned .nothing, u) ∧ ¬u.Alive a.serial) ∧
      ∀ serial, serial < t.station.serials → ¬t.Alive serial → ∀ later : List Request,
        (∀ r ∈ later, r.Trusted) → ∃ u, t.after later = some u ∧ ¬u.Alive serial ∧
          ∀ terminal, (t.withRelic ⟨serial, terminal⟩).after later = some (u.withRelic ⟨serial, terminal⟩) := by
  obtain ⟨t, ht, hs, -⟩ := after_safe (sound_among files) h
  refine ⟨t, ht, fun slot hm serial hc => ?_, fun r a hr hg => ?_, fun serial hlt hn later hl => ?_⟩
  · obtain ⟨-, ha⟩ := hs.manned sharedService _ (List.mem_map_of_mem hm) serial hc
    exact alive_iff.mpr ha
  · obtain ⟨u, hu, hgone⟩ := safe_destroy hs hg
    refine ⟨u, ?_, (gone_iff.mp hgone).2⟩
    rw [perform, hr]
    exact quietly_returned hu.run_eq
  · obtain ⟨u, hu, -, hr⟩ := after_safe hs hl
    have hg : t.wiring.Gone serial := gone_iff.mpr ⟨hlt, hn⟩
    have hgu := (hr ⟨serial, ⟨{}, true, ""⟩⟩ hg).1
    exact ⟨u, hu, (gone_iff.mp hgu).2, fun terminal => (hr ⟨serial, terminal⟩ hg).2⟩

/-- Two simulators are taken down, one of them for another in its place, and one cannot be made. -/
def comings : List Request :=
  [making "a", making "b", making "a", takingDown "b",
    ⟨sharedService, "c", none, .newSimulator (.setup { SimulatorSetup.standard with tickLength := 0.0 })⟩,
    making "c", adding "mine",
    ⟨sharedService, "c", none, .buffer true⟩, ⟨sharedService, "a", none, .step none 1⟩]

/-- The simulator named last is the only one with a sink, and the first one has left no trace. -/
theorem comings_spare_relics :
    (∀ r ∈ comings, r.Trusted) ∧ (∀ r ∈ [takingDown "c", making "c"], r.Trusted) ∧
      ∃ t a u v, (among {}).after comings = some t ∧
        (∃ slot ∈ (t.service sharedService).slots, slot.sink.target = .console (consoleId 3)) ∧ t.Alive 3 ∧
        t.simulators.get? "c" = some a ∧
        (perform (takingDown "c")).run t = (.returned .nothing, u) ∧ ¬u.Alive a.serial ∧
        0 < t.station.serials ∧ ¬t.Alive 0 ∧
        t.after [takingDown "c", making "c"] = some v ∧ ¬v.Alive 0 ∧ ∀ terminal,
          (t.withRelic ⟨0, terminal⟩).after [takingDown "c", making "c"] =
            some (v.withRelic ⟨0, terminal⟩) := by
  have hc : ∀ r ∈ comings, r.Trusted := by
    simp [comings, Request.Trusted, making, takingDown, adding]
  have hl : ∀ r ∈ [takingDown "c", making "c"], r.Trusted := by
    intro r hm
    rcases List.mem_pair.mp hm with rfl | rfl <;> exact trivial
  have hd : ((among {}).after comings).any (fun t =>
      (t.service sharedService).slots.any (·.sink.target = .console (consoleId 3)) &&
        ((t.simulators.get? "c").isSome && (decide (0 < t.station.serials) &&
          t.simulators.entries.all fun entry => entry.2.serial != 0))) = true := by
    decide +kernel
  obtain ⟨t, ht, hsinks, hdestroy, hgone⟩ := consoles_of_the_living {} hc
  rw [ht, Option.any_some] at hd
  obtain ⟨hslot, hd⟩ := Bool.and_eq_true_iff.mp hd
  obtain ⟨hs, hd⟩ := Bool.and_eq_true_iff.mp hd
  obtain ⟨hk, hn⟩ := Bool.and_eq_true_iff.mp hd
  obtain ⟨slot, hm, htarget⟩ := List.any_eq_true.mp hslot
  obtain ⟨a, ha⟩ := Option.isSome_iff_exists.mp hs
  have htarget := of_decide_eq_true htarget
  have hk := of_decide_eq_true hk
  have hzero : ¬t.Alive 0 := by
    rintro ⟨name, other, hg, ho⟩
    exact bne_iff_ne.mp (List.all_eq_true.mp hn _ (Named.mem_of_get? hg)) ho
  obtain ⟨u, hu, hdead⟩ := hdestroy (takingDown "c") a rfl ha
  obtain ⟨v, hv, hstill, hrelic⟩ := hgone 0 hk hzero [takingDown "c", making "c"] hl
  exact ⟨hc, hl, t, a, u, v, ht, ⟨slot, hm, htarget⟩, hsinks slot hm 3 htarget, ha, hu, hdead, hk, hzero, hv,
    hstill, hrelic⟩

end Session
end Flotation
