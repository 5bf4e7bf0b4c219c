import Flotation.Proofs.Session.Registration
import Flotation.Proofs.Simulator.Twins
import Flotation.Proofs.Unawareness

/-! Relics. Where the console of a simulator has been, there may be anything once it is gone: as long as no
sink goes to that console, nothing looks at what is there and nothing is written to it. -/
namespace Flotation
open Flotation.Action Simulator

/-- What is found in the place of a simulator's console. -/
structure Relic where
  serial : Nat
  terminal : Terminal

/-- No sink refuses anything, and none goes to the console with the serial number. -/
def Spares (serial : Nat) (lineup : List (Sink × Level)) : Prop :=
  ∀ place ∈ lineup, (∀ received, place.1.refusal received = none) ∧
    place.1.target ≠ .console (consoleId serial)

namespace Outlets
variable {relic : Relic} {id : ConsoleId}

def withRelic (relic : Relic) (o : Outlets) : Outlets :=
  { o with consoles := (consoleId relic.serial, relic.terminal) :: o.consoles }

theorem console?_withRelic (h : id ≠ consoleId relic.serial) (o : Outlets) :
    (o.withRelic relic).console? id = o.console? id := by
  rw [console?, withRelic, List.lookup_cons, beq_false_of_ne h]
  rfl

theorem addConsole_withRelic (h : id ≠ consoleId relic.serial) (terminal : Terminal) (o : Outlets) :
    (o.withRelic relic).addConsole id terminal = (o.addConsole id terminal).withRelic relic := by
  simp [addConsole, withRelic, h.symm]

theorem removeConsole_withRelic (h : id ≠ consoleId relic.serial) (o : Outlets) :
    (o.withRelic relic).removeConsole id = (o.removeConsole id).withRelic relic := by
  simp [removeConsole, withRelic, h.symm]

theorem configure_withRelic (h : id ≠ consoleId relic.serial) (f : Console → Console) (o : Outlets) :
    (o.withRelic relic).configure id f = (o.configure id f).withRelic relic := by
  simp [configure, withRelic, h.symm]

theorem print_withRelic (h : id ≠ consoleId relic.serial) (text : Console → String) (o : Outlets) :
    (o.withRelic relic).print id text = (o.print id text).withRelic relic := by
  rw [print, print, console?_withRelic h]
  cases o.console? id with
  | none => rfl
  | some terminal =>
    dsimp only
    split
    · rfl
    · simp [withRelic, h.symm]

theorem receive_withRelic {target : Target} (h : target ≠ .console (consoleId relic.serial))
    (batch : List Entry) (o : Outlets) :
    (o.withRelic relic).receive batch target = (o.receive batch target).withRelic relic := by
  cases target with
  | console id =>
    rw [receive]
    exact print_withRelic (fun he => h (congrArg Target.console he)) _ o
  | file path => rfl
  | nowhere => rfl
  | entries tag => rfl
  | batches tag => rfl

theorem noteHeight_withRelic (tag : Option String) (height : Float) (o : Outlets) :
    (o.withRelic relic).noteHeight tag height = (o.noteHeight tag height).withRelic relic := by
  cases tag with
  | none => rfl
  | some tag => rfl

end Outlets

open Outlets

theorem deliver_withRelic {relic : Relic} {slots : List Slot}
    (h : ∀ slot ∈ slots, slot.sink.target ≠ .console (consoleId relic.serial)) (batch : List Entry)
    (o : Outlets) :
    deliver batch slots (o.withRelic relic) =
      { deliver batch slots o with outlets := (deliver batch slots o).outlets.withRelic relic } := by
  induction slots generalizing o with
  | nil => rfl
  | cons slot rest ih =>
    obtain ⟨hs, hr⟩ := List.forall_mem_cons.mp h
    have hw : slot.written batch (o.withRelic relic) = (slot.written batch o).withRelic relic := by
      rw [Slot.written, Slot.written, receive_withRelic hs]
      split <;> rfl
    rw [deliver_cons, deliver_cons]
    split
    · rfl
    · rw [hw, ih hr]
      rfl

namespace Service

/-- Whoever is in a place stays there in a delivery. -/
theorem lineup_eq_of_continues {s t : Service} (h : List.Forall₂ Slot.Continues s.slots t.slots) :
    t.lineup = s.lineup := by
  rw [lineup, lineup]
  generalize s.slots = before, t.slots = later at h
  induction h with
  | nil => rfl
  | cons hab _ ih => rw [List.map_cons, List.map_cons, hab.1, hab.2.1, ih]

theorem compliant_of_lineup {s : Service} (h : ∀ place ∈ s.lineup, ∀ received, place.1.refusal received = none) :
    s.Compliant := fun _ hm received => h _ (List.mem_map_of_mem hm) received

end Service

namespace Station
variable {relic : Relic} {β : Type}

def withRelic (relic : Relic) (st : Station) : Station := { st with outlets := st.outlets.withRelic relic }

/-- The sinks at the station, and the number of consoles that simulators have put up. -/
def fittings (st : Station) : List (Sink × Level) × Nat := (st.service.lineup, st.serials)

/-- Unless some sink goes there, the action does not know of the relic. -/
abbrev Ignores (relic : Relic) (x : Action Station β) : Prop :=
  Unaware (withRelic relic) fittings (fun view => Spares relic.serial view.1) x

theorem ignores_onService {f : Service → Service} (hf : ∀ s, (f s).lineup = s.lineup) :
    Ignores relic (onService f) :=
  .update (fun st => congrArg (·, st.serials) (hf st.service)) fun _ => rfl

theorem ignores_onOutlets {f : Outlets → Outlets} (hf : ∀ o, f (o.withRelic relic) = (f o).withRelic relic) :
    Ignores relic (onOutlets f) :=
  .update (fun _ => rfl) fun st => congrArg (fun outlets => { st with outlets }) (hf st.outlets)

theorem ignores_dispatch (batch : List Entry) : Ignores relic (dispatch batch) := by
  intro st h
  have hs : ∀ slot ∈ st.service.slots, slot.sink.target ≠ .console (consoleId relic.serial) :=
    fun slot hm => (h _ (List.mem_map_of_mem hm)).2
  have hl : (st.delivered (deliver batch st.service.slots st.outlets)).service.lineup = st.service.lineup :=
    Service.lineup_eq_of_continues (deliver_continues batch st.service.slots st.outlets)
  have hd := deliver_withRelic hs batch st.outlets
  have hr : (dispatch batch).run (st.withRelic relic) =
      (((dispatch batch).run st).1, ((dispatch batch).run st).2.withRelic relic) := by
    rw [dispatch_run, dispatch_run]
    simp only [withRelic, hd]
    rfl
  refine ⟨(keeps_dispatch batch st).1, ?_, hr⟩
  rw [dispatch_run]
  exact congrArg (·, st.serials) hl

theorem ignores_logEntry (entry : Entry) : Ignores relic (logEntry entry) := by
  unfold logEntry
  refine .reading (fun service => ?_) fun _ => rfl
  split
  · refine .bind (ignores_onService fun _ => rfl) fun _ => ?_
    split
    · exact ignores_onService fun _ => rfl
    · exact ignores_dispatch _
  · exact .pure ()

theorem ignores_log (level : Level) (time : Float) (message : String) :
    Ignores relic (log level time message) :=
  .reading (fun _ => ignores_logEntry _) fun _ => rfl

theorem ignores_report (fault : Fault) (time : Float) (component : String) :
    Ignores relic (report fault time component) :=
  .reading (fun _ => ignores_logEntry _) fun _ => rfl

theorem ignores_reject (fault : Fault) (time : Float) (component : String) :
    Ignores relic (reject fault time component : Action Station β) :=
  .bind (ignores_report _ _ _) fun _ => .raise _

theorem ignores_flush : Ignores relic flush := by
  unfold flush
  refine .reading (fun service => ?_) fun _ => rfl
  split
  · exact .bind (ignores_dispatch _) fun _ => ignores_onService fun _ => rfl
  · exact .pure ()

theorem ignores_openScope : Ignores relic openScope :=
  .reading (fun _ => .bind (ignores_onService fun _ => rfl) fun _ => .pure _) fun _ => rfl

theorem ignores_closeScope (before : Bool) : Ignores relic (closeScope before) :=
  .bind ignores_flush fun _ => ignores_onService fun _ => rfl

theorem ignores_enter (context : Context) : Ignores relic (enter context) :=
  .reading (fun _ => .bind (.update (fun _ => rfl) fun _ => rfl) fun _ => .pure _) fun _ => rfl

theorem ignores_leave (before : Context) : Ignores relic (leave before) :=
  .update (fun _ => rfl) fun _ => rfl

/-- The other station has the relic, and there is no other difference between the two. -/
structure Haunted (relic : Relic) (view : List (Sink × Level) × Nat) (u v : Station) : Prop where
  view_eq : u.fittings = view
  relic_eq : v = u.withRelic relic

/-- What an action changes is no matter for this: the relic is not among it. -/
abbrev Blind (relic : Relic) (x : Action Station β) : Prop :=
  Unaware (withRelic relic) (fun _ => ()) (fun _ => True) x

theorem blind_openLog (path : String) : Blind relic (openLog path) := by
  refine .reading (fun outlets => ?_) fun _ => rfl
  split
  · exact .raise _
  · exact .update (fun _ => rfl) fun _ => rfl

variable {view : List (Sink × Level) × Nat}

theorem Ignores.accord {x : Action Station β} {u v : Station} (hx : Ignores relic x)
    (hs : Spares relic.serial view.1) (h : Haunted relic view u v) :
    Accord (Haunted relic view) (x.run u) (x.run v) := by
  obtain ⟨rfl, rfl⟩ := h
  obtain ⟨-, hv, ha⟩ := hx u hs
  rw [ha]
  exact ⟨rfl, hv, rfl⟩

theorem congruence_haunted (hs : Spares relic.serial view.1) : Congruence (Haunted relic view) where
  entry := by
    rintro u v ⟨hv, rfl⟩ entry
    exact (ignores_logEntry (entry u.context)).accord hs ⟨hv, rfl⟩
  enter := by
    rintro u v ⟨hv, rfl⟩ context
    exact ⟨hv, rfl⟩
  leave := by
    rintro u v u' v' ⟨-, rfl⟩ ⟨hv, rfl⟩
    exact ⟨hv, rfl⟩
  hold := by
    rintro u v ⟨hv, rfl⟩
    exact ⟨hv, rfl⟩
  release := by
    rintro u v u' v' ⟨-, rfl⟩ h
    exact (ignores_closeScope u.service.buffering).accord hs h
  height := by
    rintro u v ⟨hv, rfl⟩ tag height
    exact ⟨hv, congrArg (fun outlets => { u with outlets }) (noteHeight_withRelic tag height u.outlets)⟩

end Station

namespace Simulator
variable {α : Type} [Scalar α] {relic : Relic}

/-- The places of the sinks that a simulator puts up. -/
def ownPlaces (settings : LogSettings) (serial : Nat) : List (Sink × Level) :=
  (ownSlots settings (consoleId serial)).map fun slot => (slot.sink, slot.threshold)

theorem own_place {settings : LogSettings} {serial : Nat} {place : Sink × Level}
    (h : place ∈ ownPlaces settings serial) :
    (∀ received, place.1.refusal received = none) ∧
      ∀ other, place.1.target = .console (consoleId other) → other = serial := by
  obtain ⟨slot, hm, rfl⟩ := List.mem_map.mp h
  refine ⟨ownSlots_compliant settings _ slot hm, fun other ht => ?_⟩
  rw [ownSlots] at hm
  split at hm
  · rcases List.mem_pair.mp hm with rfl | rfl
    · cases ht
      rfl
    · cases ht
  · rw [List.mem_singleton.mp hm] at ht
    cases ht
    rfl

theorem takeOver_withRelic (settings : LogSettings) {st : Station} (h : st.serials ≠ relic.serial) :
    (takeOver settings).run (st.withRelic relic) =
      (((takeOver settings).run st).1, ((takeOver settings).run st).2.withRelic relic) := by
  have hid : consoleId st.serials ≠ consoleId relic.serial := fun he => h (ConsoleId.simulator.inj he)
  have hput := addConsole_withRelic hid ⟨{ level := settings.consoleLevel }, true, ""⟩
  rw [takeOver]
  cases settings.fileEnabled with
  | false => exact Prod.ext rfl (congrArg (Station.mk _ _ · _) (hput st.outlets))
  | true =>
    refine run_bind_add (Station.blind_openLog settings.filePath st trivial).2.2 fun _ t ht => ?_
    rcases Station.openLog_cases settings.filePath st with hr | ⟨outlets, hr⟩ <;> rw [hr] at ht <;> cases ht
    exact Prod.ext rfl (congrArg (Station.mk _ _ · _) (hput outlets))

/-- A new simulator has none but its own sinks, and the next console will have the next number. -/
theorem takeOver_fits {settings : LogSettings} {st st' : Station} {serial : Nat}
    (h : (takeOver settings).run st = (.returned serial, st')) :
    serial = st.serials ∧ st'.fittings = (ownPlaces settings st.serials, st.serials + 1) := by
  rcases takeOver_cases settings st with hr | ⟨outlets, hr⟩ <;> rw [hr] at h <;> cases h
  refine ⟨rfl, ?_⟩
  rw [Station.fittings, served_eq]
  rfl

/-- Its console is not where the relic is. -/
theorem spares_own {settings : LogSettings} {serial other : Nat} (h : other ≠ serial) :
    Spares other (ownPlaces settings serial) :=
  fun _ hm => ⟨(own_place hm).1, fun ht => h ((own_place hm).2 other ht)⟩

theorem create_withRelic (setup : SimulatorSetup α) {st : Station} (h : relic.serial < st.serials) :
    (create setup).run (st.withRelic relic) =
      (((create setup).run st).1, ((create setup).run st).2.withRelic relic) := by
  rw [create]
  cases setup.build with
  | error fault => rfl
  | ok scene =>
    rw [Action.ofExcept, pure_bind]
    refine run_bind_add (takeOver_withRelic setup.logging (Nat.ne_of_gt h)) fun serial t ht => ?_
    have hs : Spares relic.serial t.fittings.1 := by
      rw [(takeOver_fits ht).2]
      exact spares_own (Nat.ne_of_lt h)
    exact run_bind_add (Station.ignores_log _ _ _ t hs).2.2 fun _ _ _ => rfl

theorem create_fits {setup : SimulatorSetup α} {st st' : Station} {new : Simulator α}
    (h : (create setup).run st = (.returned new, st')) :
    new.serial = st.serials ∧ st'.fittings = (ownPlaces setup.logging st.serials, st.serials + 1) := by
  rw [create] at h
  cases hb : setup.build with
  | error fault =>
    rw [hb] at h
    cases h
  | ok scene =>
    rw [hb, Action.ofExcept, pure_bind] at h
    rcases ht : (takeOver setup.logging).run st with ⟨serial | failure | _, taken⟩
    · obtain ⟨rfl, hfit⟩ := takeOver_fits ht
      have hs : Spares (st.serials + 1) taken.fittings.1 := by
        rw [hfit]
        exact spares_own (Nat.succ_ne_self _)
      obtain ⟨-, hv, -⟩ := @Station.ignores_log ⟨st.serials + 1, ⟨{}, true, ""⟩⟩ .info
        (Scalar.toFloat setup.start) (readyText setup.name scene) taken hs
      rw [run_bind_returned ht, run_bind] at h
      rcases hl : (Station.log .info (Scalar.toFloat setup.start) (readyText setup.name scene)).run taken with
        ⟨_ | failure | _, logged⟩ <;> rw [hl] at h hv <;> cases h
      exact ⟨rfl, hv.trans hfit⟩
    · rw [run_bind_raised ht] at h
      cases h
    · rw [run_bind_aborted ht] at h
      cases h

/-- The console of the simulator that is taken down is not where the relic is either. -/
theorem destroy_relic (old : Simulator α) {st : Station} (h : st.service.Compliant) :
    ∃ st', old.destroy.run st = (.returned (), st') ∧ st'.fittings = ([], st.serials) ∧
      ∀ relic, Spares relic.serial st.service.lineup → old.serial ≠ relic.serial →
        old.destroy.run (st.withRelic relic) = (.returned (), st'.withRelic relic) := by
  obtain ⟨t, hf, -⟩ := Station.flush_compliant h
  have hk : t.serials = st.serials := by
    rcases Station.flush_cases st with ⟨-, hr⟩ | ⟨d, -, ⟨-, hr⟩ | ⟨reason, -, hr⟩⟩ <;> rw [hf] at hr <;> cases hr
    · rfl
    · rfl
  refine ⟨_, closing_returned rfl (run_bind_returned hf _), congrArg ([], ·) hk, fun relic hs hn => ?_⟩
  obtain ⟨-, -, ha⟩ := Station.ignores_flush st hs
  rw [hf] at ha
  refine closing_returned rfl ((run_bind_returned ha _).trans (Prod.ext rfl ?_))
  exact congrArg (Station.mk _ _ · _)
    (removeConsole_withRelic (fun he => hn (ConsoleId.simulator.inj he)) t.outlets)

end Simulator
end Flotation
