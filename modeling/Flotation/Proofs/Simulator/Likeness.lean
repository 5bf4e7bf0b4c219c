import Flotation.Proofs.Concord
import Flotation.Proofs.Setup.Building
import Flotation.Proofs.Simulator.Chronicle
import Flotation.Proofs.Simulator.Making

/-! Likeness of simulators: what the motion of a sphere depends on. Names, log settings, counts, observers
and the station have no part in it, and simulators that are alike stay so if they are asked the same. -/
namespace Flotation
open Flotation.Action
variable {α : Type} [Scalar α]

/-- The same scene at the same time, under setups that agree on times and constants. Both setups have been
built from before. -/
structure Simulator.Alike (a b : Simulator α) : Prop where
  scene_eq : a.scene = b.scene
  time_eq : a.time = b.time
  start_eq : a.setup.start = b.setup.start
  finish_eq : a.setup.finish = b.setup.finish
  tickLength_eq : a.setup.tickLength = b.setup.tickLength
  plan_eq : a.setup.scene = b.setup.scene
  built : ∃ scene, a.setup.build = .ok scene ∧ b.setup.build = .ok scene

namespace Simulator.Alike
variable {a b a' b' : Simulator α}

/-- Observers make no difference. -/
theorem unobserved_iff : Alike a.unobserved b.unobserved ↔ Alike a b :=
  ⟨fun ⟨hs, ht, hb, hf, hl, hp, hm⟩ => ⟨hs, ht, hb, hf, hl, hp, hm⟩,
    fun ⟨hs, ht, hb, hf, hl, hp, hm⟩ => ⟨hs, ht, hb, hf, hl, hp, hm⟩⟩

theorem of_unobserved (h : Alike a b) (ha : a'.unobserved = a.unobserved)
    (hb : b'.unobserved = b.unobserved) : Alike a' b' := by
  rw [← unobserved_iff] at h ⊢
  rw [ha, hb]
  exact h

theorem ticked (h : Alike a b) (elapsed : α) : Alike (a.ticked elapsed) (b.ticked elapsed) :=
  ⟨congrArg (·.advance elapsed) h.scene_eq, congrArg (· + elapsed) h.time_eq, h.start_eq, h.finish_eq,
    h.tickLength_eq, h.plan_eq, h.built⟩

theorem hasTimeLeft_eq (h : Alike a b) : a.hasTimeLeft = b.hasTimeLeft := by
  rw [Simulator.hasTimeLeft, Simulator.hasTimeLeft, Simulator.remaining, Simulator.remaining, h.finish_eq,
    h.time_eq]

theorem ticksLeft_eq (h : Alike a b) : a.ticksLeft = b.ticksLeft := by
  rw [Simulator.ticksLeft, Simulator.ticksLeft, Simulator.tickQuotient, Simulator.tickQuotient,
    Simulator.remaining, Simulator.remaining, h.finish_eq, h.time_eq, h.tickLength_eq]

end Simulator.Alike

/-- Simulators made from setups that agree on times and constants are alike. -/
theorem Simulator.alike_of_create {setup setup' : SimulatorSetup α} {st st' u u' : Station}
    {a b : Simulator α} (ha : (create setup).run st = (.returned a, u))
    (hb : (create setup').run st' = (.returned b, u')) (hs : setup.start = setup'.start)
    (hf : setup.finish = setup'.finish) (ht : setup.tickLength = setup'.tickLength)
    (hp : setup.scene = setup'.scene) : a.Alike b := by
  rcases create_cases setup st with ⟨fault, hr⟩ | ⟨scene, made, hscene, hr, -⟩ <;> rw [ha] at hr <;>
    cases hr
  rcases create_cases setup' st' with ⟨fault, hr⟩ | ⟨scene', made', hscene', hr, -⟩ <;> rw [hb] at hr <;>
    cases hr
  have he := (SimulatorSetup.build_eq_ok hscene).2
  rw [hp, (SimulatorSetup.build_eq_ok hscene').2] at he
  cases he
  exact ⟨rfl, hs, hs, hf, ht, hp, _, hscene, hscene'⟩

/-- What can be seen of a simulator after a tick. -/
structure Frame (α : Type) where
  time : α
  height : α
  velocity : α
  latest : Option (Tick α)

def Simulator.frame (s : Simulator α) : Frame α := ⟨s.time, s.height, s.velocity, s.latest⟩

namespace Rig
variable {r r' : Rig α}

/-- The simulators of two rigs are alike, whatever their stations. -/
def Alike (r r' : Rig α) : Prop := r.simulator.Alike r'.simulator

/-- What can be seen after each tick of a series, up to the first step that raises. -/
def seriesFilm (elapsed : α) : Nat → Rig α → List (Frame α)
  | 0, _ => []
  | n + 1, rig =>
    match (step elapsed).run rig with
    | (.returned (), rig) => rig.simulator.frame :: seriesFilm elapsed n rig
    | _ => []

def runFilm (rig : Rig α) : List (Frame α) :=
  if rig.simulator.hasTimeLeft then
    match (log .info (Simulator.runningText rig.simulator.ticksLeft rig.simulator.setup.tickLength)).run
        rig with
    | (.returned (), begun) =>
      seriesFilm rig.simulator.setup.tickLength rig.simulator.ticksLeft begun.holding
    | _ => []
  else []

/-- What can be seen after each tick that a call takes. -/
def film (rig : Rig α) : Call α → List (Frame α)
  | .step elapsed => seriesFilm elapsed 1 rig
  | .stepNominal => seriesFilm rig.simulator.setup.tickLength 1 rig
  | .run => rig.runFilm
  | _ => []

end Rig

namespace Station

theorem faultless_dispatch (batch : List Entry) : Faultless (dispatch batch) := by
  intro st h
  rw [dispatch_run] at h ⊢
  cases hc : (deliver batch st.service.slots st.outlets).complaint with
  | none => exact ⟨(), rfl⟩
  | some reason =>
    rw [hc] at h
    cases h

theorem faultless_logEntry (entry : Entry) : Faultless (logEntry entry) := by
  intro st h
  rcases logEntry_cases entry st with ⟨-, hr⟩ | ⟨-, ⟨-, hr⟩ | ⟨-, hr⟩⟩ <;> rw [hr] at h ⊢
  · exact ⟨(), rfl⟩
  · exact ⟨(), rfl⟩
  · exact faultless_dispatch _ _ h

theorem faultless_log (level : Level) (time : Float) (message : String) :
    Faultless (log level time message) :=
  .bind (.read _) fun _ => faultless_logEntry _

theorem faultless_report (fault : Fault) (time : Float) (component : String) :
    Faultless (report fault time component) :=
  .bind (.read _) fun _ => faultless_logEntry _

/-- Unless a sink complains, a rejection ends in the fault. -/
theorem reject_calm {β : Type} {fault : Fault} {time : Float} {component : String} {st : Station}
    (h : ((reject fault time component : Action Station β).run st).1.calm = true) :
    ((reject fault time component : Action Station β).run st).1 = .raised (.fault fault) := by
  obtain ⟨_, hr⟩ := faultless_report fault time component st (calm_of_bind h)
  rcases he : (report fault time component).run st with ⟨outcome, t⟩
  rw [he] at hr
  change outcome = _ at hr
  subst hr
  rw [reject, run_bind_returned he]
  rfl

end Station

namespace Rig
variable {r r' : Rig α}

theorem faultless_log (level : Level) (message : String) :
    Faultless (log level message : Action (Rig α) Unit) :=
  .bind (.read _) fun _ => (Station.faultless_log _ _ _).onPart

theorem faultless_announce (tick : Tick α) : Faultless (announce tick) := by
  refine .bind (.read _) fun s => ?_
  split
  · exact faultless_log _ _
  · exact .pure ()

theorem faultless_logHeight (height : α) : Faultless (logHeight height) := by
  refine .bind (.read _) fun st => ?_
  split
  · exact faultless_log _ _
  · exact .pure ()

theorem faultless_emit (height : α) : Faultless (emit height) := by
  intro rig h
  simp only [emit] at h ⊢
  cases hc : (observe height rig.simulator.observers rig.station.outlets).complaint with
  | none => exact ⟨(), rfl⟩
  | some reason =>
    rw [hc] at h
    cases h

theorem faultless_tell (tick : Tick α) : Faultless (tell tick) :=
  .bind (faultless_announce _) fun _ => .bind (faultless_logHeight _) fun _ => faultless_emit _

/-- What is told to sinks and observers may differ. -/
private theorem asides {x y : Action (Rig α) Unit} (hx : Faultless x) (hy : Faultless y)
    (kx : Keeps untold x) (ky : Keeps untold y) (h : Alike r r') : Concur Alike (x.run r) (y.run r') :=
  .of_faultless hx hy (h.of_unobserved (congrArg Prod.fst (kx r).2) (congrArg Prod.fst (ky r').2))

theorem log_concurs (h : Alike r r') (level : Level) (message message' : String) :
    Concur Alike ((log level message).run r) ((log level message').run r') :=
  asides (faultless_log _ _) (faultless_log _ _) (untold_of_unlogged (keeps_log _ _))
    (untold_of_unlogged (keeps_log _ _)) h

theorem reject_calm {problem : TickProblem} {elapsed : α} {rig : Rig α}
    (h : ((reject problem elapsed).run rig).1.calm = true) :
    ((reject problem elapsed).run rig).1 = .raised (.fault (.tick problem
      (some ⟨Scalar.toFloat rig.simulator.time, Scalar.toFloat elapsed⟩))) := Station.reject_calm h

theorem reject_concurs (h : Alike r r') (problem : TickProblem) (elapsed : α) :
    Concur Alike ((reject problem elapsed).run r) ((reject problem elapsed).run r') := by
  intro hx hy
  have hr (rig : Rig α) := congrArg Prod.fst (untold_of_unlogged (keeps_reject problem elapsed) rig).2
  refine ⟨?_, h.of_unobserved (hr r) (hr r')⟩
  rw [reject_calm hx, reject_calm hy, h.time_eq]

theorem take_concurs (h : Alike r r') (elapsed : α) :
    Concur Alike ((take elapsed).run r) ((take elapsed).run r') := by
  rw [take_run, take_run]
  exact asides (faultless_tell _) (faultless_tell _) (keeps_tell _) (keeps_tell _)
    (Simulator.Alike.ticked h elapsed)

/-- Contexts do not matter either. -/
theorem within_concurs (h : Alike r r') (context context' : Context) {body body' : Action (Rig α) Unit}
    (hb : ∀ r r', Alike r r' → Concur Alike (body.run r) (body'.run r')) :
    Concur Alike ((within context body).run r) ((within context' body').run r') := by
  change Concur Alike ((body.closing (atStation (Station.leave r.station.context))).run _)
    ((body'.closing (atStation (Station.leave r'.station.context))).run _)
  exact .closing (hb { r with station := { r.station with context } }
    { r' with station := { r'.station with context := context' } } h) fun _ _ hr => hr

/-- Nor does it matter how the log was buffering before it is held. -/
theorem buffered_concurs (h : Alike r r') {body body' : Action (Rig α) Unit}
    (hb : ∀ r r', Alike r r' → Concur Alike (body.run r) (body'.run r')) :
    Concur Alike ((buffered body).run r) ((buffered body').run r') := by
  change Concur Alike
    ((body.closing (atStation (Station.closeScope r.station.service.buffering))).run r.holding)
    ((body'.closing (atStation (Station.closeScope r'.station.service.buffering))).run r'.holding)
  exact .closing (hb r.holding r'.holding h) fun _ _ hr => hr

theorem step_concurs (h : Alike r r') (elapsed : α) :
    Concur Alike ((step elapsed).run r) ((step elapsed).run r') := by
  unfold step
  split
  · exact reject_concurs h _ _
  · split
    · exact reject_concurs h _ _
    · exact within_concurs h _ _ fun _ _ hr => take_concurs hr elapsed

theorem run_concurs (h : Alike r r') : Concur Alike (run.run r) (run.run r') := by
  rw [run, run_bind_returned (run_read _ r), run_bind_returned (run_read _ r'), ← h.hasTimeLeft_eq,
    ← h.ticksLeft_eq, ← h.tickLength_eq]
  split
  · refine .bind (log_concurs h _ _ _) fun _ _ _ hr => .bind (buffered_concurs hr fun _ _ hr => ?_)
      fun _ s t hr => ?_
    · exact .times (fun _ _ hr => step_concurs hr _) _ hr
    · rw [run_bind_returned (run_read _ s), run_bind_returned (run_read _ t)]
      exact .bind (log_concurs hr _ _ _) fun _ _ _ hr => .alike hr
  · exact .alike h

theorem reset_concurs (h : Alike r r') : Concur Alike (reset.run r) (reset.run r') := by
  obtain ⟨scene, hs, hs'⟩ := h.built
  rw [reset, run_bind_returned (run_read _ r), run_bind_returned (run_read _ r'), hs, hs']
  refine .bind (.alike h) fun scene s t hr => .bind (.alike ?_) fun _ _ _ hr => log_concurs hr _ _ _
  exact ⟨rfl, hr.start_eq, hr.start_eq, hr.finish_eq, hr.tickLength_eq, hr.plan_eq, hr.built⟩

theorem adoptScene_concurs (h : Alike r r') (scene : Scene α) :
    Concur Alike ((adoptScene scene).run r) ((adoptScene scene).run r') := by
  unfold adoptScene
  split
  · exact .alike h
  · split
    · exact .alike h
    · exact .alike ⟨rfl, h.time_eq, h.start_eq, h.finish_eq, h.tickLength_eq, h.plan_eq, h.built⟩

theorem adoptTime_concurs (h : Alike r r') (time : α) :
    Concur Alike ((adoptTime time).run r) ((adoptTime time).run r') := by
  unfold adoptTime
  split
  · exact .alike ⟨h.scene_eq, rfl, h.start_eq, h.finish_eq, h.tickLength_eq, h.plan_eq, h.built⟩
  · exact .alike h

/-- A step that returns has taken its tick. -/
theorem frame_of_step {elapsed : α} {rig rig' : Rig α} (h : (step elapsed).run rig = (.returned (), rig')) :
    rig'.simulator.frame = (rig.simulator.ticked elapsed).frame := by
  have hreject (problem : TickProblem) : (reject problem elapsed).run rig ≠ (.returned (), rig') := by
    intro hr
    have hcalm : ((reject problem elapsed).run rig).1.calm = true := by
      rw [hr]
      rfl
    have hc := reject_calm hcalm
    rw [hr] at hc
    cases hc
  by_cases hf : Scalar.isFinite elapsed = true
  · by_cases hn : elapsed < 0.0
    · rw [step, if_neg (not_not.mpr hf), if_pos hn] at h
      exact absurd h (hreject _)
    · have hc := congrArg Prod.fst (step_commits hf hn rig).2
      rw [h] at hc
      exact (congrArg Simulator.frame hc :)
  · rw [step, if_pos hf] at h
    exact absurd h (hreject _)

theorem seriesFilm_eq {elapsed : α} {n : Nat} (h : Alike r r')
    (hx : ((Action.times (step elapsed) n).run r).1.calm = true)
    (hy : ((Action.times (step elapsed) n).run r').1.calm = true) :
    seriesFilm elapsed n r = seriesFilm elapsed n r' := by
  induction n generalizing r r' with
  | zero => rfl
  | succ n ih =>
    obtain ⟨ho, hr⟩ := step_concurs h elapsed (calm_of_bind hx) (calm_of_bind hy)
    rw [Action.times, run_bind] at hx hy
    rw [seriesFilm, seriesFilm]
    rcases hs : (step elapsed).run r with ⟨_ | failure | _, s⟩ <;>
      rcases ht : (step elapsed).run r' with ⟨_ | other | _, t⟩ <;>
      rw [hs] at ho hr hx <;> rw [ht] at ho hr hy <;> cases ho
    · have hf : (r.simulator.ticked elapsed).frame = (r'.simulator.ticked elapsed).frame := by
        rw [Simulator.ticked, Simulator.ticked, h.scene_eq, h.time_eq]
        rfl
      dsimp only
      rw [frame_of_step hs, frame_of_step ht, hf, ih hr hx hy]

theorem runFilm_eq (h : Alike r r') (hx : (run.run r).1.calm = true) (hy : (run.run r').1.calm = true) :
    r.runFilm = r'.runFilm := by
  rw [run, run_bind_returned (run_read _ r)] at hx
  rw [run, run_bind_returned (run_read _ r'), ← h.hasTimeLeft_eq, ← h.ticksLeft_eq, ← h.tickLength_eq] at hy
  rw [runFilm, runFilm, ← h.hasTimeLeft_eq, ← h.ticksLeft_eq, ← h.tickLength_eq]
  by_cases hl : r.simulator.hasTimeLeft = true
  · rw [if_pos hl] at hx hy ⊢
    rw [if_pos hl]
    obtain ⟨ho, hr⟩ := log_concurs h _ _ _ (calm_of_bind hx) (calm_of_bind hy)
    rw [run_bind] at hx hy
    rcases hs : (log .info (Simulator.runningText r.simulator.ticksLeft
        r.simulator.setup.tickLength)).run r with ⟨_ | failure | _, s⟩ <;>
      rcases ht : (log .info (Simulator.runningText r.simulator.ticksLeft
        r.simulator.setup.tickLength)).run r' with ⟨_ | other | _, t⟩ <;>
      rw [hs] at ho hr hx <;> rw [ht] at ho hr hy <;> cases ho
    · have hheld : Alike s.holding t.holding := hr
      exact seriesFilm_eq hheld (run_of_closing_calm (calm_of_bind hx)).1 (run_of_closing_calm (calm_of_bind hy)).1
  · rw [if_neg hl, if_neg hl]

/-- No call gives the simulator another setup. -/
theorem answer_setup (call : Call α) (rig : Rig α) :
    ((answer call).run rig).2.simulator.setup = rig.simulator.setup := by
  have hd {s : Simulator α} {deeds : List (Deed α)}
      (h : s.unobserved = deeds.foldl rig.simulator.does rig.simulator.unobserved) :
      s.setup = rig.simulator.setup := by
    have hs := congrArg Simulator.setup h
    rwa [Simulator.does_setup] at hs
  cases call with
  | step elapsed => exact hd (step_does rig.simulator elapsed rig)
  | stepNominal => exact hd (step_does rig.simulator rig.simulator.setup.tickLength rig)
  | run =>
    have hr := bind_simulator (x := run) (fun _ => Keeps.pure ()) rig
    exact (congrArg Simulator.setup hr).trans (hd (run_does rig.simulator rig))
  | reset =>
    rw [answer, reset, run_bind_returned (run_read _ rig)]
    cases rig.simulator.setup.build with
    | error fault => rfl
    | ok scene => rfl
  | adoptScene scene =>
    rw [answer, adoptScene]
    split_ifs <;> rfl
  | adoptTime time =>
    rw [answer, adoptTime]
    split_ifs <;> rfl
  | addObserver observer => cases observer <;> rfl
  | clearObservers => rfl
  | meanwhile change => rfl

end Rig
end Flotation
