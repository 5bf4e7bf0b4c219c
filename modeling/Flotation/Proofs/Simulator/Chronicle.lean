import Flotation.Proofs.Simulator.Commitment
import Flotation.Simulator.Control
import Flotation.Simulator.Run

/-! Chronicles: what is asked of a simulator call by call, and what of it comes to pass. Calls are made at a
station where anything else may happen in the meantime. -/
namespace Flotation
open Flotation.Action
variable {α : Type} [Scalar α]

/-- What can be asked of a simulator, and whatever else becomes of its station. -/
inductive Call (α : Type) [Scalar α] where
  | step (elapsed : α)
  | stepNominal
  | run
  | reset
  | adoptScene (scene : Scene α)
  | adoptTime (time : α)
  | addObserver (observer : Option (HeightSink α))
  | clearObservers
  | meanwhile (change : Station → Station)

/-- What comes to pass: a tick that is committed, or a reset, a scene or a time that is accepted. -/
inductive Deed (α : Type) [Scalar α] where
  | tick (elapsed : α)
  | reset
  | adoptScene (scene : Scene α)
  | adoptTime (time : α)

/-- The simulator after a deed, if it started out as another. -/
def Simulator.does (start s : Simulator α) : Deed α → Simulator α
  | .tick elapsed => s.ticked elapsed
  | .reset => { s with scene := start.scene, time := start.time, ticks := start.ticks, latest := none }
  | .adoptScene scene => { s with scene, latest := none }
  | .adoptTime time => { s with time }

/-- As it comes out of its setup. -/
structure Simulator.Fresh (s : Simulator α) : Prop where
  build_eq : s.setup.build = .ok s.scene
  time_eq : s.time = s.setup.start
  ticks_eq : s.ticks = 0
  latest_eq : s.latest = none

theorem Simulator.does_setup (start s : Simulator α) (deeds : List (Deed α)) :
    (deeds.foldl start.does s).setup = s.setup := by
  induction deeds generalizing s with
  | nil => rfl
  | cons deed rest ih =>
    rw [List.foldl_cons, ih]
    cases deed <;> rfl

namespace Rig

def answer : Call α → Action (Rig α) Unit
  | .step elapsed => step elapsed
  | .stepNominal => stepNominal
  | .run => do
    let _ ← run
    return ()
  | .reset => reset
  | .adoptScene scene => adoptScene scene
  | .adoptTime time => adoptTime time
  | .addObserver observer => addObserver observer
  | .clearObservers => clearObservers
  | .meanwhile change => .update fun rig => { rig with station := change rig.station }

/-- The rig after some calls, unless one of them aborts the program. Whatever they raise is caught. -/
def after (rig : Rig α) : List (Call α) → Option (Rig α)
  | [] => some rig
  | call :: rest =>
    match (answer call).run rig with
    | (.aborted, _) => none
    | (_, rig) => rig.after rest

/-- A step commits its tick if the length can be taken, whatever the sinks make of it. -/
def stepDeeds (elapsed : α) : List (Deed α) :=
  if ¬ Scalar.isFinite elapsed ∨ elapsed < 0.0 then [] else [.tick elapsed]

/-- The deeds of a series of steps, which ends early with the first that raises. -/
def seriesDeeds (elapsed : α) : Nat → Rig α → List (Deed α)
  | 0, _ => []
  | n + 1, rig =>
    stepDeeds elapsed ++
      match (step elapsed).run rig with
      | (.returned (), rig) => seriesDeeds elapsed n rig
      | _ => []

/-- The rig with its log held. -/
def holding (rig : Rig α) : Rig α :=
  { rig with station := { rig.station with service := rig.station.service.buffer true } }

/-- A run takes its steps if there is time left and its first entry is not refused. -/
def runDeeds (rig : Rig α) : List (Deed α) :=
  if rig.simulator.hasTimeLeft then
    match (log .info (Simulator.runningText rig.simulator.ticksLeft rig.simulator.setup.tickLength)).run
        rig with
    | (.returned (), begun) =>
      seriesDeeds rig.simulator.setup.tickLength rig.simulator.ticksLeft begun.holding
    | _ => []
  else []

def deeds (rig : Rig α) : Call α → List (Deed α)
  | .step elapsed => stepDeeds elapsed
  | .stepNominal => stepDeeds rig.simulator.setup.tickLength
  | .run => rig.runDeeds
  | .reset => [.reset]
  | .adoptScene scene =>
    if Scalar.isFinite scene.sphere.height && Scalar.isFinite scene.sphere.velocity &&
        Scalar.isFinite scene.gravity then [.adoptScene scene]
    else []
  | .adoptTime time => if Scalar.isFinite time then [.adoptTime time] else []
  | _ => []

/-- All that comes to pass in the course of some calls, in order. -/
def chronicle (rig : Rig α) : List (Call α) → List (Deed α)
  | [] => []
  | call :: rest =>
    rig.deeds call ++
      match (answer call).run rig with
      | (.aborted, _) => []
      | (_, rig) => rig.chronicle rest

theorem after_cons {rig : Rig α} {call : Call α} (h : ((answer call).run rig).1 ≠ .aborted)
    (rest : List (Call α)) : rig.after (call :: rest) = ((answer call).run rig).2.after rest := by
  rw [after]
  rcases hr : (answer call).run rig with ⟨_ | _ | _, next⟩
  · rfl
  · rfl
  · rw [hr] at h
    exact absurd rfl h

theorem chronicle_cons {rig : Rig α} {call : Call α} (h : ((answer call).run rig).1 ≠ .aborted)
    (rest : List (Call α)) :
    rig.chronicle (call :: rest) = rig.deeds call ++ ((answer call).run rig).2.chronicle rest := by
  rw [chronicle]
  rcases hr : (answer call).run rig with ⟨_ | _ | _, next⟩
  · rfl
  · rfl
  · rw [hr] at h
    exact absurd rfl h

variable (start : Simulator α)

theorem step_does (elapsed : α) (rig : Rig α) :
    ((step elapsed).run rig).2.simulator.unobserved =
      (stepDeeds elapsed).foldl start.does rig.simulator.unobserved := by
  unfold stepDeeds
  split_ifs with h
  · exact congrArg (fun view => Simulator.unobserved view.1) (step_rejects h rig).2
  · obtain ⟨hf, hn⟩ := not_or.mp h
    exact congrArg Prod.fst (step_commits (not_not.mp hf) hn rig).2

theorem series_does (elapsed : α) (n : Nat) (rig : Rig α) :
    ((Action.times (step elapsed) n).run rig).2.simulator.unobserved =
      (seriesDeeds elapsed n rig).foldl start.does rig.simulator.unobserved := by
  induction n generalizing rig with
  | zero => rfl
  | succ n ih =>
    have hs := step_does start elapsed rig
    rw [Action.times, run_bind, seriesDeeds, List.foldl_append, ← hs]
    rcases (step elapsed).run rig with ⟨_ | _ | _, rig'⟩
    · exact ih rig'
    · rfl
    · rfl

theorem closing_simulator (body : Action (Rig α) Unit) (close : Action Station Unit) (rig : Rig α) :
    ((body.closing (atStation close)).run rig).2.simulator = (body.run rig).2.simulator := by
  rcases closing_state body (atStation close) rig with h | h
  · rw [h]
  · rw [h]
    rfl

/-- What becomes of the log in the end does not reach the simulator. -/
theorem buffered_simulator (body : Action (Rig α) Unit) (rig : Rig α) :
    ((buffered body).run rig).2.simulator = (body.run rig.holding).2.simulator :=
  closing_simulator body (Station.closeScope rig.station.service.buffering) rig.holding

theorem log_simulator (level : Level) (message : String) (rig : Rig α) :
    ((log level message).run rig).2.simulator = rig.simulator :=
  congrArg Prod.fst (keeps_log level message rig).2

/-- The simulator is left to the first of two actions if the second is for the log alone. -/
theorem bind_simulator {β γ : Type} {x : Action (Rig α) β} {f : β → Action (Rig α) γ}
    (hf : ∀ b, Keeps unlogged (f b)) (rig : Rig α) :
    ((x >>= f).run rig).2.simulator = (x.run rig).2.simulator := by
  rw [run_bind]
  rcases x.run rig with ⟨b | _ | _, r⟩
  · exact congrArg Prod.fst (hf b r).2
  · rfl
  · rfl

theorem run_does (rig : Rig α) :
    (run.run rig).2.simulator.unobserved = rig.runDeeds.foldl start.does rig.simulator.unobserved := by
  rw [run, run_bind_returned (run_read _ rig), runDeeds]
  by_cases h : rig.simulator.hasTimeLeft = true
  · have hl := log_simulator .info
      (Simulator.runningText rig.simulator.ticksLeft rig.simulator.setup.tickLength) rig
    have hrest (b : Unit) : Keeps unlogged (do
        let done ← Action.read (σ := Rig α) Rig.simulator
        log .info done.completeText
        return rig.simulator.ticksLeft) :=
      .bind (.read _) fun _ => .bind (keeps_log _ _) fun _ => .pure _
    rw [if_pos h, if_pos h, run_bind]
    rcases hr : (log .info (Simulator.runningText rig.simulator.ticksLeft
      rig.simulator.setup.tickLength)).run rig with ⟨_ | _ | _, begun⟩ <;> rw [hr] at hl
    · have hb := bind_simulator (x := buffered
        (.times (step rig.simulator.setup.tickLength) rig.simulator.ticksLeft)) hrest begun
      dsimp only at hl hb ⊢
      rw [hb, buffered_simulator, series_does start]
      change List.foldl _ begun.simulator.unobserved _ = _
      rw [hl]
    · exact congrArg Simulator.unobserved hl
    · exact congrArg Simulator.unobserved hl
  · rw [if_neg h, if_neg h]
    rfl

variable {start}

/-- Every call does to the simulator, but for its observers, what its deeds say. -/
theorem answer_does (hf : start.Fresh) {rig : Rig α} (hs : rig.simulator.setup = start.setup)
    (call : Call α) :
    ((answer call).run rig).2.simulator.unobserved =
      (rig.deeds call).foldl start.does rig.simulator.unobserved := by
  cases call with
  | step elapsed => exact step_does start elapsed rig
  | stepNominal => exact step_does start rig.simulator.setup.tickLength rig
  | run =>
    have hr (n : Nat) : Keeps unlogged (pure () : Action (Rig α) Unit) := .pure ()
    exact (congrArg _ (bind_simulator hr rig)).trans (run_does start rig)
  | reset =>
    have hl := log_simulator .info "Simulator reset" { rig with simulator := { rig.simulator with
      scene := start.scene, time := rig.simulator.setup.start, ticks := 0, latest := none } }
    have hb : rig.simulator.setup.build = .ok start.scene := hs ▸ hf.build_eq
    rw [answer, reset, run_bind_returned (run_read _ rig), hb, deeds, List.foldl_cons, List.foldl_nil,
      Simulator.does, hf.time_eq, hf.ticks_eq, ← hs]
    exact congrArg Simulator.unobserved hl
  | adoptScene scene =>
    rw [answer, adoptScene, deeds]
    cases Scalar.isFinite scene.sphere.height <;> cases Scalar.isFinite scene.sphere.velocity <;>
      cases Scalar.isFinite scene.gravity <;> rfl
  | adoptTime time =>
    rw [answer, adoptTime, deeds]
    split
    · rfl
    · rfl
  | addObserver observer => cases observer <;> rfl
  | clearObservers => rfl
  | meanwhile change => rfl

/-- The books of a simulator follow from its chronicle alone, whatever its observers and its log went
through. -/
theorem after_does (hf : start.Fresh) {rig rig' : Rig α} (hs : rig.simulator.setup = start.setup)
    {calls : List (Call α)} (h : rig.after calls = some rig') :
    rig'.simulator.unobserved = (rig.chronicle calls).foldl start.does rig.simulator.unobserved := by
  induction calls generalizing rig with
  | nil =>
    cases h
    rfl
  | cons call rest ih =>
    have hd := answer_does hf hs call
    have hsetup : ((answer call).run rig).2.simulator.setup = start.setup := by
      have he := congrArg Simulator.setup hd
      rw [Simulator.does_setup] at he
      exact he.trans hs
    rw [after] at h
    rw [chronicle, List.foldl_append, ← hd]
    rcases hr : (answer call).run rig with ⟨_ | _ | _, next⟩ <;> rw [hr] at h hsetup
    · exact ih hsetup h
    · exact ih hsetup h
    · cases h

end Rig
end Flotation
