import Flotation.Proofs.Log.Frames
import Flotation.Proofs.Session.Registration

/-! What a service holds when its sinks are replaced. A simulator that is taken down has it delivered
first; one that is made never looks at it, so that it goes to the new sinks. -/
namespace Flotation
open Flotation.Action
variable {α : Type} [Scalar α]

namespace Service

/-- The service with entries held from before. -/
def retain (older : List Entry) (s : Service) : Service := { s with held := s.held ++ older }

theorem pending_retain (older : List Entry) (s : Service) :
    (s.retain older).pending = older.reverse ++ s.pending := List.reverse_append

/-- Whether an entry is held depends on the settings of the service alone. -/
theorem length_held_logged (s : Service) (entry : Entry) :
    (s.logged entry).held.length =
      (if s.accepts entry.level && s.buffering then 1 else 0) + s.held.length := by
  rw [logged]
  cases s.accepts entry.level with
  | false => exact (Nat.zero_add _).symm
  | true =>
    cases s.buffering with
    | false => exact (Nat.zero_add _).symm
    | true => exact Nat.add_comm _ 1

end Service

namespace Station
variable {β γ : Type}

def retain (older : List Entry) (st : Station) : Station :=
  { st with service := st.service.retain older }

/-- The action does the same whatever is held, and leaves it held. -/
def Overlooks (x : Action Station β) : Prop :=
  ∀ older st, x.run (st.retain older) = ((x.run st).1, (x.run st).2.retain older)

namespace Overlooks

theorem pure (b : β) : Overlooks (Pure.pure b : Action Station β) := fun _ _ => rfl

theorem bind {x : Action Station β} {f : β → Action Station γ} (hx : Overlooks x)
    (hf : ∀ b, Overlooks (f b)) : Overlooks (x >>= f) := by
  intro older st
  rw [run_bind, run_bind, hx older st]
  rcases x.run st with ⟨b | failure | _, t⟩
  · exact hf b older t
  · rfl
  · rfl

theorem dispatch (batch : List Entry) : Overlooks (Station.dispatch batch) := by
  intro older st
  rw [dispatch_run, dispatch_run]
  rfl

theorem logEntry (entry : Entry) : Overlooks (Station.logEntry entry) := by
  intro older st
  have ha : (st.retain older).service.accepts entry.level = st.service.accepts entry.level := rfl
  have hb : (st.retain older).service.buffering = st.service.buffering := rfl
  rw [Station.logEntry, run_bind_returned (run_read _ _), run_bind_returned (run_read _ _), ha, hb]
  cases st.service.accepts entry.level with
  | false => rfl
  | true =>
    cases st.service.buffering with
    | true => rfl
    | false => exact dispatch [entry] older { st with service := st.service.enter entry }

theorem log (level : Level) (time : Float) (message : String) :
    Overlooks (Station.log level time message) :=
  bind (fun _ _ => rfl) fun _ => logEntry _

theorem openLog (path : String) : Overlooks (Station.openLog path) := by
  intro older st
  have ho : (st.retain older).outlets = st.outlets := rfl
  rw [Station.openLog, run_bind_returned (run_read _ _), run_bind_returned (run_read _ _), ho]
  cases st.outlets.directory.openAppend? path with
  | none => rfl
  | some directory => rfl

end Overlooks
end Station

namespace Simulator
open Station

theorem overlooks_takeOver (settings : LogSettings) : Overlooks (takeOver settings) := by
  have hread : Overlooks (Action.read Station.serials) := fun _ _ => rfl
  have hcount (serial : Nat) : Overlooks (.update fun st => { st with serials := serial + 1 }) :=
    fun _ _ => rfl
  have hput (serial : Nat) : Overlooks (onOutlets
      (·.addConsole (consoleId serial) ⟨{ level := settings.consoleLevel }, true, ""⟩)) := fun _ _ => rfl
  have hserve (serial : Nat) : Overlooks (onService (served settings (consoleId serial))) := by
    intro older st
    simp only [run_onService, served_eq]
    rfl
  have hrest := hread.bind fun serial => (hcount serial).bind fun _ => (hput serial).bind fun _ =>
    (hserve serial).bind fun _ => .pure serial
  rw [takeOver]
  split
  · exact (Overlooks.openLog _).bind fun _ => hrest
  · exact hrest

theorem overlooks_create (setup : SimulatorSetup α) : Overlooks (create setup) := by
  have hbuild : Overlooks (Action.ofExcept setup.build) := by
    intro older st
    cases setup.build with
    | ok scene => rfl
    | error fault => rfl
  exact hbuild.bind fun _ => (overlooks_takeOver _).bind fun _ => (Overlooks.log _ _ _).bind fun _ => .pure _

theorem destroy_run (old : Simulator α) (st : Station) :
    if Slot.someRefuse st.service.pending st.service.slots then (old.destroy.run st).1 = .aborted
    else old.destroy.run st = (.returned (),
      { st.relieved with
        service := st.relieved.service.detachSinks
        outlets := st.relieved.outlets.removeConsole (consoleId old.serial) }) := by
  split_ifs with h
  · obtain ⟨reason, hr⟩ := flush_refused h
    rcases hf : Station.flush.run st with ⟨outcome, t⟩
    rw [hf] at hr
    change outcome = _ at hr
    subst hr
    simp only [destroy, closing, run_pure, run_bind_raised hf]
  · have hf := flush_accepted (Bool.eq_false_iff.mpr h)
    exact closing_returned rfl (run_bind_returned hf _)

/-- To deliver what is held first makes a difference to a simulator's making. -/
theorem held_eq_nil_of_create_eq {setup : SimulatorSetup α} {st st' : Station} {new : Simulator α}
    (h : (create setup).run st = (.returned new, st'))
    (hf : (Station.flush >>= fun _ => create setup).run st = (.returned new, st')) : st.service.held = [] := by
  rcases hr : Station.flush.run st with ⟨_ | failure | _, t⟩
  · rw [run_bind_returned hr] at hf
    have hb : t.service.buffering = st.service.buffering := by
      have hk := (keeps_flush st).2
      rw [hr] at hk
      exact congrArg (fun view => view.2.2.1) hk
    obtain ⟨scene, hs⟩ := service_of_create h
    obtain ⟨scene', hs'⟩ := service_of_create hf
    rw [hs] at hs'
    have hl := congrArg (fun s => s.held.length) hs'
    simp only [Service.length_held_logged, Service.accepts, served_eq, readyEntry, hb,
      held_of_flush_returned hr] at hl
    exact List.eq_nil_of_length_eq_zero (Nat.add_left_cancel hl)
  · rw [run_bind_raised hr] at hf
    cases hf
  · rw [run_bind_aborted hr] at hf
    cases hf

/-- What a station holds while a simulator is made is held still when it has been made, ahead of anything
the simulator itself has logged. -/
theorem create_retains {setup : SimulatorSetup α} {st st' : Station} {new : Simulator α}
    (h : (create setup).run st = (.returned new, st')) :
    ∃ bare, (create setup).run { st with service := st.service.dropHeld } = (.returned new, bare) ∧
      st' = bare.retain st.service.held := by
  have ho := overlooks_create setup st.service.held { st with service := st.service.dropHeld }
  change (create setup).run st = _ at ho
  rw [h] at ho
  rcases hr : (create setup).run { st with service := st.service.dropHeld } with ⟨outcome, bare⟩
  rw [hr] at ho
  cases ho
  exact ⟨bare, rfl, rfl⟩

/-- A flush that cannot fail gives every sink, last of all, its share of what is held. -/
theorem flush_gives {st : Station} (hc : st.service.Compliant) :
    ∃ st', Station.flush.run st = (.returned (), st') ∧ st'.service.held = [] ∧
      ∀ slot ∈ st'.service.slots, slot.admitted st.service.pending <:+ slot.entries := by
  obtain ⟨st', hr, hb⟩ := flush_compliant hc
  refine ⟨st', hr, by rw [hb.service_eq]; rfl, fun slot hm => ?_⟩
  rw [hb.service_eq] at hm
  obtain ⟨before, -, rfl⟩ := List.mem_map.mp hm
  rw [(before.continues_served st.service.pending).admitted_eq, Slot.entries_served]
  exact List.suffix_append _ _

/-- To take a simulator down is to deliver what is held to the sinks of that moment and then detach them,
and the program ends if one of them refuses. To make one is not: it goes as if nothing were held, what is
held stays so, and the next flush gives the new sinks their share of it. Only where nothing is held does it
come to the same as to deliver first. -/
theorem destroy_delivers_create_retains (old : Simulator α) {setup : SimulatorSetup α} {st st' : Station}
    {new : Simulator α} (h : (create setup).run st = (.returned new, st')) :
    (if Slot.someRefuse st.service.pending st.service.slots then (old.destroy.run st).1 = .aborted
      else old.destroy.run st = (.returned (),
        { st.relieved with
          service := st.relieved.service.detachSinks
          outlets := st.relieved.outlets.removeConsole (consoleId old.serial) })) ∧
      (∃ bare, (create setup).run { st with service := st.service.dropHeld } = (.returned new, bare) ∧
        st' = bare.retain st.service.held) ∧
      st'.service.lineup =
        (ownSlots setup.logging (consoleId st.serials)).map (fun slot => (slot.sink, slot.threshold)) ∧
      (∃ st'', Station.flush.run st' = (.returned (), st'') ∧ st''.service.held = [] ∧
        ∀ slot ∈ st''.service.slots, slot.admitted st.service.pending <:+: slot.entries) ∧
      ((Station.flush >>= fun _ => create setup).run st = (.returned new, st') ↔ st.service.held = []) := by
  obtain ⟨scene, hs⟩ := service_of_create h
  obtain ⟨bare, hbare, hretain⟩ := create_retains h
  refine ⟨old.destroy_run st, ⟨bare, hbare, hretain⟩, ?_, ?_, fun hf => held_eq_nil_of_create_eq h hf, ?_⟩
  · rw [hs, Service.lineup_logged, served_eq]
    rfl
  · obtain ⟨st'', hr, hh, hg⟩ := flush_gives (compliant_of_create h)
    have hp : st'.service.pending = st.service.pending ++ bare.service.pending :=
      hretain ▸ Service.pending_retain st.service.held bare.service
    refine ⟨st'', hr, hh, fun slot hm => ?_⟩
    have hg := hg slot hm
    rw [hp, Slot.admitted_append] at hg
    exact (List.prefix_append _ _).isInfix.trans hg.isInfix
  · exact fun hh => (run_bind_returned (flush_idle hh) _).trans h

/-- A user's sink waits for an entry that is held. -/
def waiting : Station where
  service :=
    { slots := [⟨.into (.batches "mine"), .trace, []⟩]
      held := [⟨.info, 0.0, "held", {}⟩]
      buffering := true }

theorem waiting_create_retains :
    ∃ new st', (create (.standard : SimulatorSetup Float)).run waiting = (.returned new, st') ∧
      new.destroy.run waiting = (.returned (),
        { waiting.relieved with
          service := waiting.relieved.service.detachSinks
          outlets := waiting.relieved.outlets.removeConsole (consoleId new.serial) }) ∧
      (Station.flush >>= fun _ => create .standard).run waiting ≠ (.returned new, st') ∧
      ∃ st'', Station.flush.run st' = (.returned (), st'') ∧ st''.service.held = [] ∧
        ∀ slot ∈ st''.service.slots, slot.admitted waiting.service.pending <:+: slot.entries := by
  have hm : (launched (.standard : SimulatorSetup Float) waiting).isSome = true := by decide +kernel
  obtain ⟨⟨new, st'⟩, hn⟩ := Option.isSome_iff_exists.mp hm
  have hc := create_of_launched hn
  have hr : Slot.someRefuse waiting.service.pending waiting.service.slots = false := by decide
  obtain ⟨hd, -, -, hf, he⟩ := destroy_delivers_create_retains new hc
  rw [hr, if_neg Bool.false_ne_true] at hd
  exact ⟨new, st', hc, hd, fun h => List.cons_ne_nil _ _ (he.mp h), hf⟩

end Simulator

namespace Session

def onShared (command : Command) : Request := ⟨sharedService, "main", none, command⟩

/-- An entry is held for the sink that a user has added, and a simulator is made. -/
def makingAmidst : List Request :=
  [adding "mine", onShared (.buffer true), onShared (.log .info 0.0 "held" none), making "a"]

/-- The user's sink is gone by then and has got nothing, neither then nor later. The entry turns up at the
console of the simulator. -/
theorem making_misroutes_held :
    ∃ t u, ({} : Session).after makingAmidst = some t ∧ t.station.outlets.journal = [] ∧
      (t.service sharedService).slots.map (·.sink.target) = [.console (Simulator.consoleId 0)] ∧
      t.after [onShared .flush] = some u ∧ u.station.outlets.journal = [] ∧
      ∃ slot ∈ (u.service sharedService).slots, slot.sink.target = .console (Simulator.consoleId 0) ∧
        ∃ entry ∈ slot.entries, entry.message = "held" := by
  have hm : (({} : Session).after makingAmidst).any (fun t =>
      t.station.outlets.journal.isEmpty &&
      decide ((t.service sharedService).slots.map (·.sink.target) = [.console (Simulator.consoleId 0)]) &&
      (t.after [onShared .flush]).any (fun u => u.station.outlets.journal.isEmpty &&
        (u.service sharedService).slots.any (fun slot =>
          decide (slot.sink.target = .console (Simulator.consoleId 0)) &&
            slot.entries.any (fun entry => decide (entry.message = "held"))))) = true := by
    decide +kernel
  simp only [Option.any_eq_true, List.any_eq_true, Bool.and_eq_true, decide_eq_true_eq,
    List.isEmpty_iff] at hm
  obtain ⟨t, ht, ⟨hj, hs⟩, u, hu, hk, slot, hslot, hc, entry, he, hmessage⟩ := hm
  exact ⟨t, u, ht, hj, hs, hu, hk, slot, hslot, hc, entry, he, hmessage⟩

end Session
end Flotation
