import Flotation.Proofs.Scene.Course
import Flotation.Proofs.Simulator.Chronicle
import Flotation.Proofs.Simulator.Making
import Mathlib.Data.List.DropRight

/-! The books of a simulator: its time, its count of ticks, its scene and its latest tick are what its
chronicle makes of them, each of the four with a beginning of its own. -/
namespace Flotation
open Flotation.Action
variable {α : Type} [Scalar α]

namespace Deed

@[simp] def length? : Deed α → Option α
  | .tick elapsed => some elapsed
  | _ => none

@[simp] def isReset : Deed α → Bool
  | .reset => true
  | _ => false

@[simp] def setsTime : Deed α → Bool
  | .reset | .adoptTime _ => true
  | _ => false

@[simp] def setsScene : Deed α → Bool
  | .reset | .adoptScene _ => true
  | _ => false

/-- The lengths of the ticks since the latest deed of a kind. -/
def lengthsSince (kind : Deed α → Bool) (deeds : List (Deed α)) : List α :=
  (deeds.rtakeWhile fun deed => !kind deed).filterMap length?

/-- The time at the latest deed that set it. -/
def lastTime (start : α) (deeds : List (Deed α)) : α :=
  match deeds.reverse.find? setsTime with
  | some (.adoptTime time) => time
  | _ => start

/-- The scene at the latest deed that set it. -/
def lastScene (start : Scene α) (deeds : List (Deed α)) : Scene α :=
  match deeds.reverse.find? setsScene with
  | some (.adoptScene scene) => scene
  | _ => start

@[simp] theorem lengthsSince_concat (kind : Deed α → Bool) (deeds : List (Deed α)) (deed : Deed α) :
    lengthsSince kind (deeds ++ [deed]) =
      if kind deed then [] else lengthsSince kind deeds ++ deed.length?.toList := by
  rw [lengthsSince, List.rtakeWhile_concat]
  cases kind deed with
  | true => rfl
  | false =>
    rw [Bool.not_false, if_pos rfl, List.filterMap_append, if_neg Bool.false_ne_true]
    cases deed <;> rfl

@[simp] theorem lastTime_concat (start : α) (deeds : List (Deed α)) (deed : Deed α) :
    lastTime start (deeds ++ [deed]) =
      match deed with
      | .reset => start
      | .adoptTime time => time
      | _ => lastTime start deeds := by
  rw [lastTime, List.reverse_append]
  cases deed <;> rfl

@[simp] theorem lastScene_concat (start : Scene α) (deeds : List (Deed α)) (deed : Deed α) :
    lastScene start (deeds ++ [deed]) =
      match deed with
      | .reset => start
      | .adoptScene scene => scene
      | _ => lastScene start deeds := by
  rw [lastScene, List.reverse_append]
  cases deed <;> rfl

end Deed

open Deed

/-- The latest of some ticks, if there was any, each of which starts where the one before it ended. -/
def Scene.latestOf (scene : Scene α) (lengths : List α) : Option (Tick α) :=
  lengths.getLast?.map (scene.advances lengths.dropLast).tick

@[simp] theorem Scene.latestOf_nil (scene : Scene α) : scene.latestOf [] = none := rfl

@[simp] theorem Scene.latestOf_concat (scene : Scene α) (lengths : List α) (elapsed : α) :
    scene.latestOf (lengths ++ [elapsed]) = some ((scene.advances lengths).tick elapsed) := by
  rw [latestOf, List.getLast?_concat, List.dropLast_concat, Option.map_some]

theorem Scene.latestOf_isSome (scene : Scene α) (lengths : List α) :
    (scene.latestOf lengths).isSome ↔ lengths ≠ [] := by
  rw [latestOf, Option.isSome_map, List.getLast?_isSome]

/-- The latest of some ticks starts where all others have left the scene. -/
theorem Scene.latestOf_eq_some {scene : Scene α} {lengths : List α} {tick : Tick α}
    (h : scene.latestOf lengths = some tick) :
    ∃ before elapsed, lengths = before ++ [elapsed] ∧
      tick = (scene.advances before).tick elapsed := by
  rcases lengths.eq_nil_or_concat' with rfl | ⟨before, elapsed, rfl⟩
  · cases h
  · rw [latestOf_concat] at h
    cases h
    exact ⟨before, elapsed, rfl, rfl⟩

namespace Simulator

/-- The books of a simulator as its chronicle has them. -/
structure Books (start : Simulator α) (deeds : List (Deed α)) (s : Simulator α) : Prop where
  ticks_eq : s.ticks = (lengthsSince isReset deeds).length
  time_eq : s.time = (lengthsSince setsTime deeds).foldl (· + ·) (lastTime start.time deeds)
  scene_eq : s.scene = (lastScene start.scene deeds).advances (lengthsSince setsScene deeds)
  latest_eq : s.latest = (lastScene start.scene deeds).latestOf (lengthsSince setsScene deeds)

theorem Books.does {start s : Simulator α} (hf : start.Fresh) {deeds : List (Deed α)}
    (h : Books start deeds s) (deed : Deed α) : Books start (deeds ++ [deed]) (start.does s deed) := by
  obtain ⟨hn, ht, hs, hl⟩ := h
  cases deed with
  | tick elapsed =>
    constructor
    · simp [Simulator.does, ticked, hn]
    · simp [Simulator.does, ticked, ht]
    · simp [Simulator.does, ticked, hs]
    · simp [Simulator.does, ticked, hs]
  | reset => constructor <;> simp [Simulator.does, hf.ticks_eq]
  | adoptScene scene => constructor <;> simp [Simulator.does, hn, ht]
  | adoptTime time => constructor <;> simp [Simulator.does, hn, hs, hl]

theorem Fresh.books {start : Simulator α} (hf : start.Fresh) (deeds : List (Deed α)) :
    Books start deeds (deeds.foldl start.does start.unobserved) := by
  induction deeds using List.reverseRecOn with
  | nil => exact ⟨hf.ticks_eq, rfl, rfl, hf.latest_eq⟩
  | append_singleton deeds deed ih =>
    rw [List.foldl_concat]
    exact ih.does hf deed

/-- A simulator that has been made is as it comes out of its setup. -/
theorem fresh_of_create {setup : SimulatorSetup α} {st st' : Station} {s : Simulator α}
    (h : (create setup).run st = (.returned s, st')) : s.Fresh ∧ s.setup = setup := by
  rcases create_cases setup st with ⟨fault, hr⟩ | ⟨scene, made, hb, hr, -⟩
  · rw [hr] at h
    cases h
  · rw [hr] at h
    cases h
    exact ⟨⟨hb, rfl, rfl, rfl⟩, rfl⟩

end Simulator

open Simulator

/-- The books of a simulator after any calls. Its count of ticks, its time, its scene and its latest tick go
back to a moment of their own each: nothing but a reset starts the count anew, a time that is set does not
bear on the latest tick, and a scene that is set does not bear on the time. Observers and sinks have no part
in any of them, whatever they refuse. -/
theorem Rig.books_follow_chronicle {setup : SimulatorSetup α} {st st' : Station} {start : Simulator α}
    (hc : (create setup).run st = (.returned start, st')) {calls : List (Call α)} {rig : Rig α}
    (h : (Rig.mk start st').after calls = some rig) :
    let deeds := (Rig.mk start st').chronicle calls
    rig.simulator.ticks = (lengthsSince isReset deeds).length ∧
      rig.simulator.time =
        (lengthsSince setsTime deeds).foldl (· + ·) (lastTime setup.start deeds) ∧
      rig.simulator.scene =
        (lastScene start.scene deeds).advances (lengthsSince setsScene deeds) ∧
      (rig.simulator.latest.isSome ↔ lengthsSince setsScene deeds ≠ []) ∧
      ∀ tick, rig.simulator.latest = some tick →
        tick.height = rig.simulator.height ∧ tick.velocity = rig.simulator.velocity ∧
          ∃ before elapsed, lengthsSince setsScene deeds = before ++ [elapsed] ∧
            tick.ratio = ((lastScene start.scene deeds).advances before).sphere.submersion := by
  intro deeds
  obtain ⟨hf, rfl⟩ := fresh_of_create hc
  have hd := after_does hf rfl h
  obtain ⟨hn, ht, hs, hl⟩ := hd ▸ hf.books deeds
  change rig.simulator.scene = _ at hs
  change rig.simulator.latest = _ at hl
  refine ⟨hn, hf.time_eq ▸ ht, hs, hl ▸ Scene.latestOf_isSome _ _, fun tick htick => ?_⟩
  obtain ⟨before, elapsed, he, rfl⟩ := Scene.latestOf_eq_some (hl ▸ htick)
  rw [he, Scene.advances_concat] at hs
  refine ⟨?_, ?_, before, elapsed, he, Scene.tick_ratio _ _⟩
  · rw [Simulator.height, hs, Scene.height_advance]
  · rw [Simulator.velocity, hs, Scene.velocity_advance]

/-- A tick, a fresh start, a tick that an observer complains of, a length that is rejected, and a tick at
another time. -/
def Rig.eventful : List (Call Float) :=
  [.step 0.5, .reset, .addObserver (some (.failing 1)), .step 0.25, .step (-1.0), .adoptTime 2.0,
    .stepNominal]

theorem Rig.eventful_books_follow :
    ∃ start st rig, (create (.standard : SimulatorSetup Float)).run {} = (.returned start, st) ∧
      (Rig.mk start st).after eventful = some rig ∧
      rig.simulator.ticks = 2 ∧ rig.simulator.time = 2.0 + 0.01 ∧
      ∃ tick, rig.simulator.latest = some tick ∧
        tick.height = rig.simulator.height ∧ tick.velocity = rig.simulator.velocity := by
  -- What the calls leave is too large to be compared as a whole; what is asked of it here is not.
  have hm : (launched (.standard : SimulatorSetup Float) {}).any (fun rig =>
      (rig.after eventful).isSome && decide (lastTime 0.0 (rig.chronicle eventful) = 2.0) &&
        decide (lengthsSince isReset (rig.chronicle eventful) = [0.25, 0.01]) &&
        decide (lengthsSince setsTime (rig.chronicle eventful) = [0.01]) &&
        decide (lengthsSince setsScene (rig.chronicle eventful) = [0.25, 0.01])) = true := by
    decide +kernel
  obtain ⟨⟨start, st⟩, hn, hm⟩ := (Option.any_eq_true _ _).mp hm
  have hc := create_of_launched hn
  simp only [Bool.and_eq_true, decide_eq_true_eq, Option.isSome_iff_exists] at hm
  obtain ⟨⟨⟨⟨⟨rig, ha⟩, hl⟩, hr⟩, ht⟩, hs⟩ := hm
  obtain ⟨hticks, htime, -, hsome, hlatest⟩ := books_follow_chronicle hc ha
  have hstart : (SimulatorSetup.standard : SimulatorSetup Float).start = 0.0 := rfl
  obtain ⟨tick, htick⟩ := Option.isSome_iff_exists.mp (hsome.mpr (by rw [hs]; decide))
  obtain ⟨hh, hv, -⟩ := hlatest tick htick
  refine ⟨start, st, rig, hc, ha, ?_, ?_, tick, htick, hh, hv⟩
  · rw [hticks, hr]
    rfl
  · rw [htime, ht, hstart, hl]
    rfl

end Flotation
