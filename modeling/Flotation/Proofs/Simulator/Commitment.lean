import Flotation.Proofs.Log.Frames
import Flotation.Simulator.Rig

/-! A tick is committed as a whole or not at all, whichever sinks refuse what it tells them. -/
namespace Flotation
open Flotation.Action
variable {α : Type} [Scalar α]

/-- The simulator one tick later, before anyone is told. -/
def Simulator.ticked (s : Simulator α) (elapsed : α) : Simulator α :=
  { s with
    scene := s.scene.advance elapsed
    time := s.time + elapsed
    ticks := s.ticks + 1
    latest := some (s.scene.tick elapsed) }

/-- The simulator but for its observers. -/
def Simulator.unobserved (s : Simulator α) : Simulator α := { s with observers := [] }

namespace Rig
variable {β : Type}

/-- A view of the rig in which no entry can be seen. -/
def unlogged (rig : Rig α) : Simulator α × Context × List (String × Float) :=
  (rig.simulator, rig.station.context, rig.station.outlets.heights)

/-- A view of the rig in which neither an entry nor an observation can be seen. -/
def untold (rig : Rig α) : Simulator α × Context := (rig.simulator.unobserved, rig.station.context)

theorem keeps_atStation {x : Action Station β} (h : Keeps Station.standing x) :
    Keeps unlogged (atStation x : Action (Rig α) β) := by
  apply Keeps.onPart h
  intro rig st hs
  simp only [Station.standing, Prod.mk.injEq] at hs
  simp only [unlogged, hs.1, hs.2.2.2]

theorem untold_of_unlogged {x : Action (Rig α) β} (h : Keeps unlogged x) : Keeps untold x :=
  h.mono fun view => (view.1.unobserved, view.2.1)

theorem keeps_log (level : Level) (message : String) :
    Keeps unlogged (log level message : Action (Rig α) Unit) :=
  .bind (.read _) fun _ => keeps_atStation (Station.keeps_log _ _ _)

theorem keeps_reject (problem : TickProblem) (elapsed : α) : Keeps unlogged (reject problem elapsed) :=
  .bind (.read _) fun _ => keeps_atStation (Station.keeps_reject _ _ _)

theorem keeps_announce (tick : Tick α) : Keeps unlogged (announce tick) := by
  refine .bind (.read _) fun s => ?_
  split
  · exact keeps_log _ _
  · exact .pure ()

theorem keeps_logHeight (height : α) : Keeps unlogged (logHeight height) := by
  refine .bind (.read _) fun st => ?_
  split
  · exact keeps_log _ _
  · exact .pure ()

theorem keeps_emit (height : α) : Keeps untold (emit height) := by
  intro rig
  simp only [emit]
  split
  · exact ⟨by simp, rfl⟩
  · exact ⟨by simp, rfl⟩

/-- What a tick tells the log and the observers when it has been committed. -/
def tell (tick : Tick α) : Action (Rig α) Unit := do
  announce tick
  logHeight tick.height
  emit tick.height

theorem keeps_tell (tick : Tick α) : Keeps untold (tell tick) :=
  .bind (untold_of_unlogged (keeps_announce _)) fun _ =>
    .bind (untold_of_unlogged (keeps_logHeight _)) fun _ => keeps_emit _

theorem take_run (elapsed : α) (rig : Rig α) :
    (take elapsed).run rig = (tell (rig.simulator.scene.tick elapsed)).run
      { rig with simulator := rig.simulator.ticked elapsed } := rfl

/-- Commitment comes first, and nothing that follows it can take it back. -/
theorem take_commits (elapsed : α) (rig : Rig α) :
    ((take elapsed).run rig).1 ≠ .aborted ∧
      ((take elapsed).run rig).2.untold =
        ((rig.simulator.ticked elapsed).unobserved, rig.station.context) :=
  keeps_tell _ { rig with simulator := rig.simulator.ticked elapsed }

/-- A context is in force for just the body. -/
theorem run_within (context : Context) {body : Action (Rig α) Unit} {rig : Rig α}
    (h : (body.run { rig with station := { rig.station with context } }).1 ≠ .aborted) :
    ((within context body).run rig).1 =
        (body.run { rig with station := { rig.station with context } }).1 ∧
      ((within context body).run rig).2 =
        { (body.run { rig with station := { rig.station with context } }).2 with
          station := { (body.run { rig with station := { rig.station with context } }).2.station with
            context := rig.station.context } } := by
  have he : (within context body).run rig =
      (body.closing (atStation (Station.leave rig.station.context))).run
        { rig with station := { rig.station with context } } := rfl
  rw [he, closing]
  rcases hb : body.run { rig with station := { rig.station with context } } with ⟨_ | _ | _, rig'⟩ <;>
    rw [hb] at h
  · simp only [hb]
    exact ⟨rfl, rfl⟩
  · simp only [hb]
    exact ⟨rfl, rfl⟩
  · exact absurd rfl h

theorem step_rejects {elapsed : α} (h : ¬ Scalar.isFinite elapsed ∨ elapsed < 0.0) :
    Keeps unlogged (step elapsed) := by
  by_cases hf : Scalar.isFinite elapsed = true
  · have hn : elapsed < 0.0 := h.resolve_left (not_not.mpr hf)
    rw [step, if_neg (not_not.mpr hf), if_pos hn]
    exact keeps_reject _ _
  · rw [step, if_pos hf]
    exact keeps_reject _ _

theorem step_commits {elapsed : α} (hf : Scalar.isFinite elapsed) (hn : ¬ elapsed < 0.0) (rig : Rig α) :
    ((step elapsed).run rig).1 ≠ .aborted ∧
      ((step elapsed).run rig).2.untold =
        ((rig.simulator.ticked elapsed).unobserved, rig.station.context) := by
  have he : step elapsed = within Simulator.tickContext (take elapsed) := by
    rw [step, if_neg (not_not.mpr hf), if_neg hn]
  obtain ⟨ha, hu⟩ :=
    take_commits elapsed { rig with station := { rig.station with context := Simulator.tickContext } }
  obtain ⟨ho, hs⟩ := run_within Simulator.tickContext ha
  rw [he, ho, hs]
  refine ⟨ha, ?_⟩
  rw [untold, Prod.mk.injEq]
  exact ⟨congrArg Prod.fst hu, rfl⟩

/-- A step of any length ends with the simulator as it was, observers included, or with the whole tick
committed. It may raise what a sink or an observer complains of, but never ends the program, and it leaves
the context as it found it. -/
theorem step_all_or_nothing (rig : Rig α) (elapsed : α) :
    ((step elapsed).run rig).1 ≠ .aborted ∧
      ((step elapsed).run rig).2.station.context = rig.station.context ∧
      if ¬ Scalar.isFinite elapsed ∨ elapsed < 0.0 then
        ((step elapsed).run rig).2.simulator = rig.simulator ∧
          ((step elapsed).run rig).2.station.outlets.heights = rig.station.outlets.heights
      else
        ((step elapsed).run rig).2.simulator.scene = rig.simulator.scene.advance elapsed ∧
          ((step elapsed).run rig).2.simulator.time = rig.simulator.time + elapsed ∧
          ((step elapsed).run rig).2.simulator.ticks = rig.simulator.ticks + 1 ∧
          ((step elapsed).run rig).2.simulator.latest = some (rig.simulator.scene.tick elapsed) := by
  split_ifs with h
  · obtain ⟨ha, hk⟩ := step_rejects h rig
    simp only [unlogged, Prod.mk.injEq] at hk
    exact ⟨ha, hk.2.1, hk.1, hk.2.2⟩
  · obtain ⟨hf, hn⟩ := not_or.mp h
    obtain ⟨ha, hu⟩ := step_commits (not_not.mp hf) hn rig
    obtain ⟨hs, hc⟩ := Prod.mk.inj hu
    refine ⟨ha, hc, ?_, ?_, ?_, ?_⟩
    · exact congrArg Simulator.scene hs
    · exact congrArg Simulator.time hs
    · exact congrArg Simulator.ticks hs
    · exact congrArg Simulator.latest hs

end Rig
end Flotation
