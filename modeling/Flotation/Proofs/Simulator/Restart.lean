import Flotation.Proofs.Simulator.Books
import Flotation.Proofs.Simulator.Likeness
import Flotation.Proofs.Simulator.Twins

/-! Restarts: after a reset, whatever went before it, a simulator is as good as one that has just been made. -/
namespace Flotation
open Flotation.Action
variable {α : Type} [Scalar α]

/-- Whatever else becomes of the station, it gets no sink that refuses anything. -/
def Call.Friendly : Call α → Prop
  | .meanwhile change => ∀ st, st.service.Compliant → (change st).service.Compliant
  | _ => True

theorem Call.Friendly.respects {call : Call α} (h : call.Friendly) : call.Respects Station.Willing := by
  cases call with
  | meanwhile change => exact fun u v huv => ⟨h u huv.1, h v huv.2⟩
  | _ => trivial

theorem Call.respects_eq (call : Call α) : call.Respects Eq := by
  cases call with
  | meanwhile change => exact fun _ _ h => congrArg change h
  | _ => trivial

namespace Rig

theorem after_setup {rig rig' : Rig α} {calls : List (Call α)} (h : rig.after calls = some rig') :
    rig'.simulator.setup = rig.simulator.setup := by
  induction calls generalizing rig with
  | nil =>
    cases h
    rfl
  | cons call rest ih =>
    have hs := answer_setup call rig
    rw [after] at h
    rcases hr : (answer call).run rig with ⟨_ | _ | _, next⟩ <;> rw [hr] at h hs
    · exact (ih h).trans hs
    · exact (ih h).trans hs
    · cases h

/-- An entry is logged, or some sink complains of it. -/
theorem log_cases (level : Level) (message : String) (rig : Rig α) :
    ((log level message).run rig).1 = .returned () ∨
      ¬rig.station.service.Compliant ∧ ∃ reason, ((log level message).run rig).1 = .raised (.sink reason) := by
  by_cases hc : rig.station.service.Compliant
  · obtain ⟨st, hr, -⟩ := Station.logEntry_compliant hc
      ⟨level, Scalar.toFloat rig.simulator.time, message, rig.station.context⟩
    exact .inl (congrArg Prod.fst hr)
  · have hf := faultless_log level message rig
    have ha := (keeps_log level message rig).1
    rcases hr : (log level message).run rig with ⟨_ | (fault | reason) | _, next⟩ <;> rw [hr] at hf ha
    · exact .inl rfl
    · obtain ⟨_, h⟩ := hf rfl
      cases h
    · exact .inr ⟨hc, reason, rfl⟩
    · exact absurd rfl ha

/-- The simulator goes back before the log is told, so that a sink that complains comes too late. -/
theorem reset_cases {rig : Rig α} {scene : Scene α} (h : rig.simulator.setup.build = .ok scene) :
    (reset.run rig).2.simulator =
        { rig.simulator with scene, time := rig.simulator.setup.start, ticks := 0, latest := none } ∧
      ((reset.run rig).1 = .returned () ∨
        ¬rig.station.service.Compliant ∧ ∃ reason, (reset.run rig).1 = .raised (.sink reason)) := by
  rw [reset, run_bind_returned (run_read _ rig), h]
  exact ⟨log_simulator .info "Simulator reset" _, log_cases .info "Simulator reset" { rig with
    simulator := { rig.simulator with scene, time := rig.simulator.setup.start, ticks := 0, latest := none } }⟩

open Simulator

/-- A reset finds no fault with the setup, however long the simulator has been at work and whatever it has
gone through. If it does not return, a sink has complained of the entry for it. In either case the simulator
is the one that the setup makes, but for its observers, which it keeps, and its console. From there, each call
ends as it would with the new simulator under the same observers, and it leaves the same state, time, count,
latest tick and heights seen by observers: at one station, whatever its sinks refuse, and at two where no
sink ever refuses anything. -/
theorem reset_restarts {setup : SimulatorSetup α} {st st' u u' : Station} {start fresh : Simulator α}
    (hs : (create setup).run st = (.returned start, st')) (hf : (create setup).run u = (.returned fresh, u'))
    {calls : List (Call α)} {rig renewed : Rig α} {outcome : Outcome Unit}
    (h : (Rig.mk start st').after calls = some rig) (hr : reset.run rig = (outcome, renewed)) :
    (outcome = .returned () ∨
        ¬rig.station.service.Compliant ∧ ∃ reason, outcome = .raised (.sink reason)) ∧
      renewed.simulator =
        { fresh with observers := rig.simulator.observers, serial := rig.simulator.serial } ∧
      (∀ (v : Station) (later : List (Call α)),
        (Rig.mk renewed.simulator v).trail later =
          (Rig.mk { fresh with observers := rig.simulator.observers } v).trail later) ∧
      ∀ v v' : Station, v.service.Compliant → v'.service.Compliant →
        ∀ later : List (Call α), (∀ call ∈ later, call.Friendly) →
          (Rig.mk renewed.simulator v).trail later =
            (Rig.mk { fresh with observers := rig.simulator.observers } v').trail later := by
  obtain ⟨hfresh, rfl⟩ := fresh_of_create hf
  have hsetup : rig.simulator.setup = fresh.setup := (after_setup h).trans (fresh_of_create hs).2
  obtain ⟨hsim, hout⟩ := reset_cases (hsetup ▸ hfresh.build_eq)
  rw [hr] at hsim hout
  have hrenewed : renewed.simulator =
      { fresh with observers := rig.simulator.observers, serial := rig.simulator.serial } := by
    rw [hsim, Simulator.mk.injEq]
    exact ⟨hsetup, rfl, hsetup ▸ hfresh.time_eq.symm, hfresh.ticks_eq.symm, rfl, hfresh.latest_eq.symm, rfl⟩
  have htwins {R : Station → Station → Prop} {v v' : Station} (hv : R v' v) :
      Twins R fresh.serial rig.simulator.serial ⟨{ fresh with observers := rig.simulator.observers }, v'⟩
        ⟨renewed.simulator, v⟩ := by
    rw [hrenewed]
    exact .mk { fresh with observers := rig.simulator.observers } rfl hv
  refine ⟨hout, hrenewed, fun v later => ?_, fun v v' hv hv' later hl => ?_⟩
  · exact (trail_twins Station.congruence_eq (htwins rfl) fun call _ => call.respects_eq).symm
  · exact (trail_twins Station.congruence_willing (htwins ⟨hv', hv⟩) fun call hc => (hl call hc).respects).symm

/-- Ticks, one of which an observer complains of, a length that is rejected, a time that is set, and at last
a sink that refuses the next entry. -/
def strained : List (Call Float) :=
  [.step 0.5, .addObserver (some (.failing 1)), .step 0.25, .step 0.25, .step (-1.0), .adoptTime 2.0,
    .meanwhile fun st => { st with service := st.service.attachSink (.failing 1 .nowhere) .info }]

theorem strained_reset_restarts :
    ∃ start st rig reason renewed,
      (create (.standard : SimulatorSetup Float)).run {} = (.returned start, st) ∧
        (Rig.mk start st).after strained = some rig ∧ rig.simulator.ticks = 3 ∧
        reset.run rig = (.raised (.sink reason), renewed) ∧ renewed.simulator.ticks = 0 ∧
        renewed.simulator.time = 0.0 ∧ renewed.simulator.latest = none ∧
        (Rig.mk renewed.simulator renewed.station).trail [.run, .reset] =
          (Rig.mk { start with observers := rig.simulator.observers } renewed.station).trail [.run, .reset] := by
  have hm : (launched (.standard : SimulatorSetup Float) {}).any (fun new =>
      (new.after strained).any fun rig =>
        decide (rig.simulator.ticks = 3) && !(reset.run rig).1.calm) = true := by
    decide +kernel
  obtain ⟨⟨start, st⟩, hn, hm⟩ := (Option.any_eq_true _ _).mp hm
  obtain ⟨rig, ha, hm⟩ := (Option.any_eq_true _ _).mp hm
  simp only [Bool.and_eq_true, decide_eq_true_eq, Bool.not_eq_true'] at hm
  obtain ⟨hticks, hcalm⟩ := hm
  have hc := create_of_launched hn
  obtain ⟨hf, hs⟩ := fresh_of_create hc
  rcases hr : reset.run rig with ⟨outcome, renewed⟩
  rw [hr] at hcalm
  obtain ⟨hout, hsim, htrail, -⟩ := reset_restarts hc hc ha hr
  rcases hout with rfl | ⟨-, reason, rfl⟩
  · cases hcalm
  · refine ⟨start, st, rig, reason, renewed, hc, ha, hticks, hr, ?_, ?_, ?_, htrail _ _⟩
    · rw [hsim]
      exact hf.ticks_eq
    · rw [hsim]
      exact hf.time_eq.trans (congrArg SimulatorSetup.start hs)
    · rw [hsim]
      exact hf.latest_eq

end Rig
end Flotation
