import Flotation.Proofs.Simulator.Chronicle
import Flotation.Proofs.Log.Compliance

/-! Twins: simulators that are one and the same but for the console of their own. Which console that is never
makes a difference, nor does the station, as long as it takes what it is told in the same way. -/
namespace Flotation

namespace Action
variable {σ τ α β : Type}

/-- Two actions ended alike, be it in an abortion, and left related states. -/
structure Accord (R : σ → τ → Prop) (p : Outcome α × σ) (q : Outcome α × τ) : Prop where
  outcome_eq : p.1 = q.1
  related : R p.2 q.2

namespace Accord
variable {R : σ → τ → Prop} {s : σ} {t : τ}

theorem alike {outcome : Outcome α} (h : R s t) : Accord R (outcome, s) (outcome, t) := ⟨rfl, h⟩

theorem bind {x : Action σ α} {y : Action τ α} {f : α → Action σ β} {g : α → Action τ β}
    (h : Accord R (x.run s) (y.run t)) (hf : ∀ a s t, R s t → Accord R ((f a).run s) ((g a).run t)) :
    Accord R ((x >>= f).run s) ((y >>= g).run t) := by
  obtain ⟨ho, hr⟩ := h
  rw [run_bind, run_bind]
  rcases hx : x.run s with ⟨a | failure | _, s'⟩ <;> rcases hy : y.run t with ⟨b | other | _, t'⟩ <;>
    rw [hx, hy] at ho hr <;> cases ho
  · exact hf a s' t' hr
  · exact alike hr
  · exact alike hr

theorem times {x : Action σ Unit} {y : Action τ Unit} (h : ∀ s t, R s t → Accord R (x.run s) (y.run t))
    (n : Nat) (hr : R s t) : Accord R ((Action.times x n).run s) ((Action.times y n).run t) := by
  induction n generalizing s t with
  | zero => exact alike hr
  | succ n ih => exact bind (h s t hr) fun _ _ _ hr => ih hr

theorem closing {x : Action σ α} {y : Action τ α} {c : Action σ Unit} {d : Action τ Unit}
    (h : Accord R (x.run s) (y.run t)) (hc : ∀ s t, R s t → Accord R (c.run s) (d.run t)) :
    Accord R ((x.closing c).run s) ((y.closing d).run t) := by
  obtain ⟨ho, hr⟩ := h
  by_cases ha : (x.run s).1 = .aborted
  · rw [closing_aborted ha, closing_aborted (ho ▸ ha)]
    exact alike hr
  · obtain ⟨co, cr⟩ := hc _ _ hr
    by_cases hret : (c.run (x.run s).2).1 = .returned ()
    · rw [closing_run ha (Prod.ext hret rfl), closing_run (ho ▸ ha) (Prod.ext (co ▸ hret) rfl)]
      exact ⟨ho, cr⟩
    · rw [closing_fails ha hret, closing_fails (ho ▸ ha) (co ▸ hret)]
      exact alike cr

end Accord
end Action

open Flotation.Action
variable {α : Type} [Scalar α]

namespace Station

/-- A relation of stations that a simulator respects: all it does at related stations ends alike and leaves
them related. -/
structure Congruence (R : Station → Station → Prop) : Prop where
  entry : ∀ {u v}, R u v → ∀ entry : Context → Entry,
    Accord R ((logEntry (entry u.context)).run u) ((logEntry (entry v.context)).run v)
  enter : ∀ {u v}, R u v → ∀ context, R { u with context } { v with context }
  leave : ∀ {u v u' v'}, R u v → R u' v' → R { u' with context := u.context } { v' with context := v.context }
  hold : ∀ {u v}, R u v →
    R { u with service := u.service.buffer true } { v with service := v.service.buffer true }
  release : ∀ {u v u' v'}, R u v → R u' v' →
    Accord R ((closeScope u.service.buffering).run u') ((closeScope v.service.buffering).run v')
  height : ∀ {u v}, R u v → ∀ tag height,
    R { u with outlets := u.outlets.noteHeight tag height }
      { v with outlets := v.outlets.noteHeight tag height }

/-- There is no difference between a station and itself, whatever its sinks refuse. -/
theorem congruence_eq : Congruence Eq where
  entry h _ := by
    cases h
    exact .alike rfl
  enter h _ := by rw [h]
  leave h h' := by rw [h, h']
  hold h := by rw [h]
  release h h' := by
    cases h
    cases h'
    exact .alike rfl
  height h _ _ := by rw [h]

/-- At neither station does any sink ever refuse a batch. -/
def Willing (u v : Station) : Prop := u.service.Compliant ∧ v.service.Compliant

/-- Between stations whose sinks take everything there is none either. -/
theorem congruence_willing : Congruence Willing where
  entry h entry := by
    obtain ⟨u', hu, bu⟩ := logEntry_compliant h.1 (entry _)
    obtain ⟨v', hv, bv⟩ := logEntry_compliant h.2 (entry _)
    rw [hu, hv]
    refine .alike ⟨?_, ?_⟩
    · rw [bu.service_eq]
      exact h.1.logged _
    · rw [bv.service_eq]
      exact h.2.logged _
  enter h _ := h
  leave _ h' := h'
  hold h := h
  release h h' := by
    obtain ⟨u'', hu, bu⟩ := closeScope_compliant h'.1 _
    obtain ⟨v'', hv, bv⟩ := closeScope_compliant h'.2 _
    rw [hu, hv]
    refine .alike ⟨?_, ?_⟩
    · rw [bu.service_eq]
      exact Service.Compliant.distribute h'.1 _
    · rw [bv.service_eq]
      exact Service.Compliant.distribute h'.2 _
  height h _ _ := h

end Station

/-- Whatever else becomes of related stations leaves them related. -/
def Call.Respects (R : Station → Station → Prop) : Call α → Prop
  | .meanwhile change => ∀ u v, R u v → R (change u) (change v)
  | _ => True

/-- The simulator with another number for its console. -/
def Simulator.numbered (s : Simulator α) (serial : Nat) : Simulator α := { s with serial }

/-- The simulator but for the number of its console. -/
def Simulator.unnumbered (s : Simulator α) : Simulator α := s.numbered 0

namespace Rig
variable {R : Station → Station → Prop} {m n : Nat} {r r' : Rig α} {β γ : Type}

/-- The same simulator twice, at related stations and with a console of its own at each. -/
inductive Twins (R : Station → Station → Prop) (m n : Nat) : Rig α → Rig α → Prop
  | mk (s : Simulator α) (hm : s.serial = m) {u v : Station} (h : R u v) :
    Twins R m n ⟨s, u⟩ ⟨s.numbered n, v⟩

theorem Twins.unnumbered_eq (h : Twins R m n r r') : r.simulator.unnumbered = r'.simulator.unnumbered := by
  cases h
  rfl

theorem Twins.related (h : Twins R m n r r') : R r.station r'.station := by
  cases h
  assumption

/-- Twins that are asked for the action end alike and stay twins. -/
structure Impartial (x : Action (Rig α) β) : Prop where
  twins : ∀ {R : Station → Station → Prop} {m n : Nat} {r r' : Rig α}, Station.Congruence R → Twins R m n r r' →
    Accord (Twins R m n) (x.run r) (x.run r')

namespace Impartial

theorem pure (b : β) : Impartial (Pure.pure b : Action (Rig α) β) := ⟨fun _ h => .alike h⟩

theorem raise (failure : Failure) : Impartial (.raise failure : Action (Rig α) β) := ⟨fun _ h => .alike h⟩

theorem ofExcept (made : Except Fault β) : Impartial (.ofExcept made : Action (Rig α) β) := by
  cases made with
  | ok b => exact pure b
  | error fault => exact raise _

theorem bind {x : Action (Rig α) β} {f : β → Action (Rig α) γ} (hx : Impartial x)
    (hf : ∀ b, Impartial (f b)) : Impartial (x >>= f) :=
  ⟨fun hR h => (hx.twins hR h).bind fun b _ _ h => (hf b).twins hR h⟩

theorem times {x : Action (Rig α) Unit} (hx : Impartial x) (n : Nat) : Impartial (.times x n) :=
  ⟨fun hR h => .times (fun _ _ h => hx.twins hR h) n h⟩

/-- What is read from the simulator must not come from the number of its console. -/
theorem reading {f : Simulator α → Action (Rig α) β} (hf : ∀ s, Impartial (f s))
    (hn : ∀ s n, f (s.numbered n) = f s) : Impartial (.read Rig.simulator >>= f) := by
  refine ⟨fun hR h => ?_⟩
  have ht := h
  obtain ⟨s, hm, h⟩ := h
  rw [run_bind_returned (run_read _ _), run_bind_returned (run_read _ _)]
  dsimp only
  rw [hn]
  exact (hf s).twins hR ht

theorem onSimulator {f : Simulator α → Simulator α} (hf : ∀ s n, f (s.numbered n) = (f s).numbered n) :
    Impartial (Rig.onSimulator f) := by
  refine ⟨fun hR h => ⟨rfl, ?_⟩⟩
  obtain ⟨s, hm, h⟩ := h
  have hs := congrArg Simulator.serial (hf s s.serial)
  simp only [Rig.onSimulator, run_update, hf]
  exact .mk (f s) (hs.trans hm) h

theorem atStation {x : Action Station β}
    (hx : ∀ {R : Station → Station → Prop} {u v : Station}, Station.Congruence R → R u v →
      Accord R (x.run u) (x.run v)) : Impartial (Rig.atStation x : Action (Rig α) β) := by
  refine ⟨fun hR h => ?_⟩
  obtain ⟨s, hm, h⟩ := h
  obtain ⟨ho, hr⟩ := hx hR h
  exact ⟨ho, .mk s hm hr⟩

end Impartial

theorem impartial_log (level : Level) (message : String) : Impartial (log level message : Action (Rig α) Unit) :=
  .reading (fun s => .atStation fun hR h =>
    hR.entry h fun context => ⟨level, Scalar.toFloat s.time, message, context⟩) fun _ _ => rfl

theorem impartial_reject (problem : TickProblem) (elapsed : α) : Impartial (reject problem elapsed) := by
  refine .reading (fun s => .atStation fun hR h => .bind ?_ fun _ _ _ hr => .alike hr) fun _ _ => rfl
  let fault : Fault := .tick problem (some ⟨Scalar.toFloat s.time, Scalar.toFloat elapsed⟩)
  exact hR.entry h fun context =>
    ⟨fault.severity.level, Scalar.toFloat s.time, fault.message, ⟨context.entity, Simulator.component⟩⟩

theorem impartial_announce (tick : Tick α) : Impartial (announce tick) := by
  refine .reading (fun s => ?_) fun _ _ => rfl
  split
  · exact impartial_log _ _
  · exact .pure ()

/-- The log would drop an entry of a height anyway if it does not accept it. -/
theorem logHeight_eq (height : α) :
    logHeight height = log .debug ("height=" ++ Decimal.fixed 6 (Scalar.toFloat height)) := by
  have h (rig : Rig α) : (logHeight height).run rig =
      (log .debug ("height=" ++ Decimal.fixed 6 (Scalar.toFloat height))).run rig := by
    rw [logHeight, run_bind_returned (run_read _ rig)]
    split
    · rfl
    · rename_i ha
      rw [log, run_bind_returned (run_read _ rig), Rig.atStation, run_onPart, Station.log,
        run_bind_returned (run_read _ rig.station)]
      rcases Station.logEntry_cases ⟨.debug, Scalar.toFloat rig.simulator.time,
        "height=" ++ Decimal.fixed 6 (Scalar.toFloat height), rig.station.context⟩ rig.station with
          ⟨-, hr⟩ | ⟨ha', -⟩
      · rw [hr]
        rfl
      · exact absurd ha' ha
  exact congrArg Action.mk (funext h)

/-- Observers do not know the station, and all they leave at it are heights. -/
theorem observe_alike (hR : Station.Congruence R) (height : α) (observers : List (HeightSink α)) {u v : Station}
    (h : R u v) :
    (observe height observers u.outlets).complaint = (observe height observers v.outlets).complaint ∧
      (observe height observers u.outlets).observers = (observe height observers v.outlets).observers ∧
      R { u with outlets := (observe height observers u.outlets).outlets }
        { v with outlets := (observe height observers v.outlets).outlets } := by
  induction observers generalizing u v with
  | nil => exact ⟨rfl, rfl, h⟩
  | cons observer rest ih =>
    rw [observe, observe]
    dsimp only
    cases (observer.handed height).complaint with
    | some reason => exact ⟨rfl, rfl, h⟩
    | none =>
      obtain ⟨hc, ho, hr⟩ := ih (hR.height h observer.tag (Scalar.toFloat height))
      exact ⟨hc, congrArg (observer.handed height :: ·) ho, hr⟩

theorem impartial_emit (height : α) : Impartial (emit height) := by
  refine ⟨fun {_ _ n _ _} hR h => ?_⟩
  obtain @⟨s, hm, u, v, h⟩ := h
  obtain ⟨hc, ho, hr⟩ := observe_alike hR height s.observers h
  have ht := Twins.mk (n := n) { s with observers := (observe height s.observers v.outlets).observers } hm hr
  simp only [emit, observed, Simulator.numbered, hc, ho]
  split
  · exact .alike ht
  · exact .alike ht

theorem impartial_take (elapsed : α) : Impartial (take elapsed) := by
  have htell (tick : Tick α) : Impartial (tell tick) := by
    rw [tell, logHeight_eq]
    exact .bind (impartial_announce tick) fun _ => .bind (impartial_log _ _) fun _ => impartial_emit _
  exact .reading (fun s => .bind (.onSimulator fun _ _ => rfl) fun _ => htell _) fun _ _ => rfl

theorem impartial_within (context : Context) {body : Action (Rig α) Unit} (hb : Impartial body) :
    Impartial (within context body) := by
  refine ⟨fun hR h => ?_⟩
  obtain ⟨s, hm, h⟩ := h
  change Accord _ ((body.closing (Rig.atStation (Station.leave _))).run _)
    ((body.closing (Rig.atStation (Station.leave _))).run _)
  refine .closing (hb.twins hR (.mk s hm (hR.enter h context))) fun _ _ ht => ?_
  obtain ⟨s', hm', h'⟩ := ht
  exact .alike (.mk s' hm' (hR.leave h h'))

theorem impartial_buffered {body : Action (Rig α) Unit} (hb : Impartial body) : Impartial (buffered body) := by
  refine ⟨fun hR h => ?_⟩
  obtain ⟨s, hm, h⟩ := h
  change Accord _ ((body.closing (Rig.atStation (Station.closeScope _))).run _)
    ((body.closing (Rig.atStation (Station.closeScope _))).run _)
  refine .closing (hb.twins hR (.mk s hm (hR.hold h))) fun _ _ ht => ?_
  obtain ⟨s', hm', h'⟩ := ht
  obtain ⟨ho, hr⟩ := hR.release h h'
  exact ⟨ho, .mk s' hm' hr⟩

theorem impartial_step (elapsed : α) : Impartial (step elapsed) := by
  unfold step
  split
  · exact impartial_reject _ _
  · split
    · exact impartial_reject _ _
    · exact impartial_within _ (impartial_take elapsed)

theorem impartial_stepNominal : Impartial (stepNominal : Action (Rig α) Unit) :=
  .reading (fun _ => impartial_step _) fun _ _ => rfl

theorem impartial_run : Impartial (run : Action (Rig α) Nat) := by
  refine .reading (fun s => ?_) fun _ _ => rfl
  split
  · refine .bind (impartial_log _ _) fun _ => .bind (impartial_buffered (.times (impartial_step _) _)) fun _ => ?_
    exact .reading (fun _ => .bind (impartial_log _ _) fun _ => .pure _) fun _ _ => rfl
  · exact .pure 0

theorem impartial_reset : Impartial (reset : Action (Rig α) Unit) :=
  .reading (fun _ => .bind (.ofExcept _) fun _ => .bind (.onSimulator fun _ _ => rfl) fun _ => impartial_log _ _)
    fun _ _ => rfl

theorem impartial_adoptScene (scene : Scene α) : Impartial (adoptScene scene) := by
  rw [adoptScene]
  split_ifs
  · exact .raise _
  · exact .raise _
  · exact .onSimulator fun _ _ => rfl

theorem impartial_adoptTime (time : α) : Impartial (adoptTime time) := by
  rw [adoptTime]
  split_ifs
  · exact .onSimulator fun _ _ => rfl
  · exact .raise _

theorem impartial_addObserver (observer : Option (HeightSink α)) : Impartial (addObserver observer) := by
  cases observer with
  | none => exact .raise _
  | some sink =>
    rw [addObserver]
    exact .onSimulator fun _ _ => rfl

theorem impartial_clearObservers : Impartial (clearObservers : Action (Rig α) Unit) := by
  rw [clearObservers]
  exact .onSimulator fun _ _ => rfl

/-- Twins answer alike. -/
theorem answer_twins (hR : Station.Congruence R) (h : Twins R m n r r') {call : Call α} (hc : call.Respects R) :
    Accord (Twins R m n) ((answer call).run r) ((answer call).run r') := by
  cases call with
  | step elapsed => exact (impartial_step elapsed).twins hR h
  | stepNominal => exact impartial_stepNominal.twins hR h
  | run => exact (impartial_run.bind fun _ => .pure ()).twins hR h
  | reset => exact impartial_reset.twins hR h
  | adoptScene scene => exact (impartial_adoptScene scene).twins hR h
  | adoptTime time => exact (impartial_adoptTime time).twins hR h
  | addObserver observer => exact (impartial_addObserver observer).twins hR h
  | clearObservers => exact impartial_clearObservers.twins hR h
  | meanwhile change =>
    obtain ⟨s, hm, h⟩ := h
    exact .alike (.mk s hm (hc _ _ h))

/-- How each call ends and what it makes of the simulator, its observers included. A call that aborts the
program is the last. -/
def trail (rig : Rig α) : List (Call α) → List (Outcome Unit × Simulator α)
  | [] => []
  | call :: rest =>
    match (answer call).run rig with
    | (.aborted, rig) => [(.aborted, rig.simulator.unnumbered)]
    | (outcome, rig) => (outcome, rig.simulator.unnumbered) :: rig.trail rest

theorem trail_twins (hR : Station.Congruence R) (h : Twins R m n r r') {calls : List (Call α)}
    (hc : ∀ call ∈ calls, call.Respects R) : r.trail calls = r'.trail calls := by
  induction calls generalizing r r' with
  | nil => rfl
  | cons call rest ih =>
    obtain ⟨hcall, hrest⟩ := List.forall_mem_cons.mp hc
    obtain ⟨ho, ht⟩ := answer_twins hR h hcall
    rw [trail, trail]
    rcases hx : (answer call).run r with ⟨_ | _ | _, s⟩ <;>
      rcases hy : (answer call).run r' with ⟨_ | _ | _, s'⟩ <;> rw [hx, hy] at ho ht <;> cases ho <;>
      dsimp only
    · rw [ht.unnumbered_eq, ih ht hrest]
    · rw [ht.unnumbered_eq, ih ht hrest]
    · rw [ht.unnumbered_eq]

end Rig
end Flotation
