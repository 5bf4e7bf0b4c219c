import Flotation.Proofs.Simulator.Completion

/-! Simulators that are left to their own pace: whatever time passes in them passes in ticks of the length in the
setup, one by one or in runs. -/
namespace Flotation
open Flotation.Action
variable {α : Type} [Scalar α]

/-- No time passes in the course of the call but in ticks of the length in the setup. -/
def Call.Paced : Call α → Prop
  | .stepNominal | .run | .addObserver _ | .clearObservers | .meanwhile _ => True
  | _ => False

namespace Simulator

theorem foldl_does_replicate (start s : Simulator α) (elapsed : α) (n : Nat) :
    (List.replicate n (.tick elapsed)).foldl start.does s = (fun s => s.ticked elapsed)^[n] s := by
  induction n generalizing s with
  | zero => rfl
  | succ n ih => rw [List.replicate_succ, List.foldl_cons, Function.iterate_succ_apply, ih, Simulator.does]

theorem time_iterate_ticked (s : Simulator α) (elapsed : α) (n : Nat) :
    ((fun s => s.ticked elapsed)^[n] s).time = (· + elapsed)^[n] s.time := by
  induction n generalizing s with
  | zero => rfl
  | succ n ih =>
    rw [Function.iterate_succ_apply, Function.iterate_succ_apply, ih]
    rfl

/-- What some number of ticks does to the books, whatever it does to the observers. -/
theorem books_iterate_ticked {s s' : Simulator α} {elapsed : α} {n : Nat}
    (h : s'.unobserved = (fun s => s.ticked elapsed)^[n] s.unobserved) :
    s'.setup = s.setup ∧ s'.time = (· + elapsed)^[n] s.time ∧ s'.ticks = s.ticks + n := by
  have hsetup := congrArg Simulator.setup h
  have htime := congrArg Simulator.time h
  have hticks := congrArg Simulator.ticks h
  rw [setup_iterate] at hsetup
  rw [time_iterate_ticked] at htime
  rw [ticks_iterate] at hticks
  exact ⟨hsetup, htime, hticks⟩

end Simulator

namespace Rig
variable {elapsed : α} {rig : Rig α}

theorem stepDeeds_of_none (h : tickProblem? elapsed = none) : stepDeeds elapsed = [.tick elapsed] := by
  rw [stepDeeds, if_neg (tickProblem?_eq_none.mp h)]

/-- A series of steps ends early if one of them raises. -/
theorem seriesDeeds_eq_replicate (h : tickProblem? elapsed = none) (n : Nat) (rig : Rig α) :
    ∃ j ≤ n, seriesDeeds elapsed n rig = List.replicate j (.tick elapsed) := by
  induction n generalizing rig with
  | zero => exact ⟨0, le_rfl, rfl⟩
  | succ n ih =>
    rw [seriesDeeds, stepDeeds_of_none h]
    rcases (step elapsed).run rig with ⟨_ | _ | _, next⟩
    · obtain ⟨j, hj, hd⟩ := ih next
      exact ⟨j + 1, Nat.succ_le_succ hj, congrArg ([Deed.tick elapsed] ++ ·) hd⟩
    · exact ⟨1, Nat.le_add_left 1 n, rfl⟩
    · exact ⟨1, Nat.le_add_left 1 n, rfl⟩

theorem runDeeds_eq_replicate (h : tickProblem? rig.simulator.setup.tickLength = none) :
    ∃ j, (0 < j → rig.simulator.hasTimeLeft = true ∧ j ≤ rig.simulator.ticksLeft) ∧
      rig.runDeeds = List.replicate j (.tick rig.simulator.setup.tickLength) := by
  rw [runDeeds]
  split_ifs with hl
  · rcases (log .info _).run rig with ⟨_ | _ | _, begun⟩
    · obtain ⟨j, hj, hd⟩ := seriesDeeds_eq_replicate h rig.simulator.ticksLeft begun.holding
      exact ⟨j, fun _ => ⟨hl, hj⟩, hd⟩
    · exact ⟨0, fun hj => absurd hj (lt_irrefl 0), rfl⟩
    · exact ⟨0, fun hj => absurd hj (lt_irrefl 0), rfl⟩
  · exact ⟨0, fun hj => absurd hj (lt_irrefl 0), rfl⟩

theorem deeds_paced (h : tickProblem? rig.simulator.setup.tickLength = none) {call : Call α} (hc : call.Paced) :
    ∃ j, rig.deeds call = List.replicate j (.tick rig.simulator.setup.tickLength) := by
  cases call with
  | step | reset | adoptScene | adoptTime => exact hc.elim
  | stepNominal => exact ⟨1, stepDeeds_of_none h⟩
  | run =>
    obtain ⟨j, -, hd⟩ := runDeeds_eq_replicate h
    exact ⟨j, hd⟩
  | addObserver | clearObservers | meanwhile => exact ⟨0, rfl⟩

theorem unobserved_of_deeds {start : Simulator α} {n : Nat} {deeds : List (Deed α)} {s : Simulator α}
    (hd : deeds = List.replicate n (.tick elapsed))
    (h : s.unobserved = deeds.foldl start.does rig.simulator.unobserved) :
    s.unobserved = (fun s => s.ticked elapsed)^[n] rig.simulator.unobserved := by
  rw [h, hd, Simulator.foldl_does_replicate]

/-- Calls at the pace of a simulator leave it as some number of ticks does. -/
theorem after_paced {start : Simulator α} (hf : start.Fresh) (hs : rig.simulator.setup = start.setup)
    (h : tickProblem? start.setup.tickLength = none) {calls : List (Call α)} (hc : ∀ call ∈ calls, call.Paced)
    {rig' : Rig α} (ha : rig.after calls = some rig') :
    ∃ k, rig'.simulator.unobserved = (fun s => s.ticked start.setup.tickLength)^[k] rig.simulator.unobserved := by
  induction calls generalizing rig with
  | nil =>
    cases ha
    exact ⟨0, rfl⟩
  | cons call rest ih =>
    obtain ⟨hcall, hrest⟩ := List.forall_mem_cons.mp hc
    obtain ⟨j, hd⟩ := deeds_paced (hs ▸ h) hcall
    have hj := unobserved_of_deeds hd (answer_does hf hs call)
    rw [hs] at hj
    have hsetup := (Simulator.books_iterate_ticked hj).1.trans hs
    have hn : ((answer call).run rig).1 ≠ .aborted := by
      intro hn
      rw [after] at ha
      rcases hr : (answer call).run rig with ⟨_ | _ | _, next⟩ <;> rw [hr] at hn ha
      · cases hn
      · cases hn
      · cases ha
    rw [after_cons hn] at ha
    obtain ⟨k, hk⟩ := ih hsetup hrest ha
    exact ⟨k + j, by rw [hk, hj, Function.iterate_add_apply]⟩

theorem stepNominal_ticks (h : tickProblem? rig.simulator.setup.tickLength = none) :
    (stepNominal.run rig).1 ≠ .aborted ∧
      (stepNominal.run rig).2.simulator.unobserved =
        rig.simulator.unobserved.ticked rig.simulator.setup.tickLength := by
  obtain ⟨hf, hn⟩ := not_or.mp (tickProblem?_eq_none.mp h)
  obtain ⟨ha, hu⟩ := step_commits (not_not.mp hf) hn rig
  exact ⟨ha, congrArg Prod.fst hu⟩

/-- A run takes ticks only as long as there is time left. -/
theorem run_ticks (h : tickProblem? rig.simulator.setup.tickLength = none) :
    ∃ j, (0 < j → rig.simulator.hasTimeLeft = true ∧ j ≤ rig.simulator.ticksLeft) ∧
      (run.run rig).2.simulator.unobserved =
        (fun s => s.ticked rig.simulator.setup.tickLength)^[j] rig.simulator.unobserved := by
  obtain ⟨j, hj, hd⟩ := runDeeds_eq_replicate h
  exact ⟨j, hj, unobserved_of_deeds hd (run_does rig.simulator rig)⟩

/-- If nobody refuses anything, it takes all that are left. -/
theorem run_ticks_all (hu : rig.Unopposed) (hl : rig.simulator.hasTimeLeft = true)
    (h : tickProblem? rig.simulator.setup.tickLength = none) :
    (run.run rig).2.simulator.unobserved =
      (fun s => s.ticked rig.simulator.setup.tickLength)^[rig.simulator.ticksLeft] rig.simulator.unobserved := by
  obtain ⟨begun, rig', hbegun, hsame, hr, -, hseries⟩ := run_takes_series hu hl h
  rw [hr, hseries, series_commits h _ hbegun, hsame]

/-- A new simulator has no observers, and its own sinks refuse nothing. -/
theorem unopposed_of_create {setup : SimulatorSetup α} {st st' : Station} {start : Simulator α}
    (hc : (Simulator.create setup).run st = (.returned start, st')) : (Rig.mk start st').Unopposed := by
  refine ⟨Simulator.compliant_of_create hc, ?_⟩
  rcases Simulator.create_cases setup st with ⟨fault, hr⟩ | ⟨scene, made, -, hr, -⟩
  · rw [hr] at hc
    cases hc
  · rw [hr] at hc
    cases hc
    exact List.forall_mem_nil _

/-- Step after step is taken, whoever refuses what. -/
theorem after_steps (h : tickProblem? rig.simulator.setup.tickLength = none) (n : Nat) :
    ∃ rig', rig.after (List.replicate n .stepNominal) = some rig' ∧
      rig'.simulator.unobserved =
        (fun s => s.ticked rig.simulator.setup.tickLength)^[n] rig.simulator.unobserved := by
  induction n generalizing rig with
  | zero => exact ⟨rig, rfl, rfl⟩
  | succ n ih =>
    obtain ⟨ha, hu⟩ := stepNominal_ticks h
    set next := (stepNominal.run rig).2 with hnext
    have hsetup : next.simulator.setup = rig.simulator.setup := (Simulator.books_iterate_ticked (n := 1) hu).1
    obtain ⟨rig', hafter, hn⟩ := @ih next (hsetup ▸ h)
    have ha' : ((answer .stepNominal).run rig).1 ≠ .aborted := ha
    refine ⟨rig', ?_, ?_⟩
    · rw [List.replicate_succ, after_cons ha']
      exact hafter
    · rw [hn, hu, hsetup, ← Function.iterate_succ_apply]

end Rig
end Flotation
