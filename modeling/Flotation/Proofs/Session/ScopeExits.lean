import Flotation.Proofs.Session.FailingSinks
import Flotation.Proofs.Session.NestedScopes
import Flotation.Proofs.Session.Programs
import Flotation.Proofs.Session.Relics

/-! The ways out of a scope of buffered logging. Whatever is done in a scope, and whether it ends well or by a
failure, closing the scope delivers what is held and puts the buffering back. The program is aborted there if, and
only if, a sink refuses what is to be delivered. -/
namespace Flotation
open Flotation.Action

namespace Station
variable {st : Station}

theorem flush_returns_iff : (flush.run st).1 = .returned () ↔ st.service.clogged = false := by
  cases h : st.service.clogged with
  | false => exact iff_of_true (by rw [flush_accepted h]) rfl
  | true =>
    obtain ⟨reason, hr⟩ := flush_refused h
    exact iff_of_false (by rw [hr]; simp) (by simp)

/-- What comes behind a flush does not keep it from returning. -/
theorem flush_then_returns_iff {x : Action Station Unit} (hx : ∀ st, (x.run st).1 = .returned ()) :
    ((flush >>= fun _ => x).run st).1 = .returned () ↔ st.service.clogged = false := by
  rw [← flush_returns_iff, run_bind]
  rcases flush.run st with ⟨_ | _ | _, st'⟩
  · exact iff_of_true (hx st') rfl
  · simp
  · simp

theorem closeScope_returns_iff {before : Bool} :
    ((closeScope before).run st).1 = .returned () ↔ st.service.clogged = false :=
  flush_then_returns_iff fun _ => rfl

theorem closeScope_accepted (before : Bool) (h : st.service.clogged = false) :
    ∃ st', (closeScope before).run st = (.returned (), st') ∧
      st'.service = st.service.flushed.buffer before := by
  refine ⟨{ st.relieved with service := st.relieved.service.buffer before }, ?_, rfl⟩
  rw [closeScope, run_bind_returned (flush_accepted h)]
  rfl

end Station

theorem Simulator.destroy_aborts_iff {α : Type} [Scalar α] (a : Simulator α) (st : Station) :
    (a.destroy.run st).1 = .aborted ↔ st.service.clogged = true := by
  rw [destroy, closing_aborts_iff, run_pure, ne_eq, Station.flush_then_returns_iff fun _ => rfl,
    Bool.not_eq_false]
  exact or_iff_right (by simp)

namespace Rig
variable {α : Type} [Scalar α]

/-- The service as a run has it when the steps are done and their log is to be delivered. -/
def closings (rig : Rig α) : List Service :=
  if rig.simulator.hasTimeLeft then
    match (log .info (Simulator.runningText rig.simulator.ticksLeft rig.simulator.setup.tickLength)).run rig with
    | (.returned (), begun) =>
      [((Action.times (step rig.simulator.setup.tickLength) rig.simulator.ticksLeft).run
        begun.holding).2.station.service]
    | _ => []
  else []

theorem buffered_aborts_iff {body : Action (Rig α) Unit} (rig : Rig α)
    (hb : (body.run rig.holding).1 ≠ .aborted) :
    ((buffered body).run rig).1 = .aborted ↔ (body.run rig.holding).2.station.service.clogged = true := by
  have he : (buffered body).run rig =
      (body.closing (atStation (Station.closeScope rig.station.service.buffering))).run rig.holding := rfl
  have hc : ((atStation (Station.closeScope rig.station.service.buffering)).run (body.run rig.holding).2).1 =
      .returned () ↔ _ := Station.closeScope_returns_iff
  rw [he, closing_aborts_iff, ne_eq, hc, Bool.not_eq_false]
  exact or_iff_right hb

theorem run_aborts_iff (rig : Rig α) :
    (run.run rig).1 = .aborted ↔ ∃ service ∈ rig.closings, service.clogged = true := by
  rw [closings, run, run_bind_returned (run_read _ rig)]
  by_cases hl : rig.simulator.hasTimeLeft = true
  · have hlog := (keeps_log .info
      (Simulator.runningText rig.simulator.ticksLeft rig.simulator.setup.tickLength) rig).1
    rw [if_pos hl, if_pos hl, run_bind]
    rcases hr : (log .info (Simulator.runningText rig.simulator.ticksLeft rig.simulator.setup.tickLength)).run rig
      with ⟨_ | _ | _, begun⟩ <;> rw [hr] at hlog
    · have hseries := ((steady_step rig.simulator.setup.tickLength).times rig.simulator.ticksLeft begun.holding).1
      dsimp only
      rw [bind_aborts_iff, buffered_aborts_iff begun hseries]
      · simp
      · exact fun _ done => ((Keeps.bind (.read _) fun _ => .bind (steady_log _ _) fun _ => .pure _) done).1
    · exact iff_of_false (by simp) (by simp)
    · exact absurd rfl hlog
  · rw [if_neg hl, if_neg hl]
    exact iff_of_false (by simp) (by simp)

end Rig

namespace Session
variable {name : String} {s : Session}

/-- The services as a request has them when what they hold is to be delivered for good: a scope is closed, or a
simulator is taken down, or has run to its end. -/
def closings (s : Session) (r : Request) : List Service :=
  match r.command with
  | .closeScope => (s.scopes.head?.map fun scope => s.service scope.1).toList
  | .newSimulator blueprint =>
    match blueprint.read with
    | .error _ => []
    | .ok setup =>
      match (Simulator.create setup).run s.station, s.simulators.get? r.simulator with
      | (.returned _, made), some _ => [made.service]
      | _, _ => []
  | .destroy => ((s.simulators.get? r.simulator).map fun _ => s.station.service).toList
  | .run => ((s.simulators.get? r.simulator).map fun simulator => Rig.closings ⟨simulator, s.station⟩).getD []
  | _ => []

theorem quietly_aborts_iff {σ : Type} {x : Action σ Unit} {s : σ} :
    ((quietly x).run s).1 = .aborted ↔ (x.run s).1 = .aborted :=
  bind_aborts_iff fun _ _ => by simp

/-- Closing a scope ends in one of two ways. -/
theorem closeScope_cases {before : Bool} {scopes : List (String × Bool)}
    (hs : s.scopes = (name, before) :: scopes) :
    (s.service name).clogged = false ∧
        (∃ t, closeScope.run s = (.returned (), t) ∧ t.scopes = scopes ∧
          t.service name = (s.service name).flushed.buffer before) ∨
      (s.service name).clogged = true ∧ (closeScope.run s).1 = .aborted := by
  cases hc : (s.service name).clogged with
  | false =>
    have hst : (stationFor name s).service.clogged = false := hc
    obtain ⟨st, hr, hservice⟩ := Station.closeScope_accepted before hst
    exact .inl ⟨rfl, _, closeScope_run hs hr, scopes_settle _ _ _, (service_settle _ _ _).trans hservice⟩
  | true =>
    refine .inr ⟨rfl, ?_⟩
    have hn : ((atService name (Station.closeScope before)).run { s with scopes }).1 ≠ .returned () := by
      refine mt Station.closeScope_returns_iff.mp ?_
      rw [service_stationFor]
      exact ne_false_of_eq_true hc
    rw [closeScope, run_bind_returned (run_read _ s), hs]
    dsimp only
    rw [run_bind_returned (run_update _ s), closing_aborts_iff]
    exact .inr hn

theorem newSimulator_aborts_iff (setup : SimulatorSetup Float) :
    ((newSimulator name (.setup setup)).run s).1 = .aborted ↔
      ∃ made, (∃ new, (Simulator.create setup).run s.station = (.returned new, made)) ∧
        (s.simulators.get? name).isSome = true ∧ made.service.clogged = true := by
  have hcreate := (Simulator.steady_create setup s.station).1
  rcases hr : (Simulator.create setup).run s.station with ⟨new | failure | _, made⟩ <;> rw [hr] at hcreate
  · cases hg : s.simulators.get? name with
    | none =>
      rw [newSimulator_run hg hr]
      simp
    | some old =>
      rcases hd : old.destroy.run made with ⟨outcome, st⟩
      have ha := old.destroy_aborts_iff made
      rw [hd] at ha
      rw [newSimulator_run_taken hg hr hd]
      exact ha.trans (by simp)
  · rw [newSimulator_raised hr]
    simp
  · exact absurd rfl hcreate

theorem closeScope_aborts_iff :
    (closeScope.run s).1 = .aborted ↔ ∃ scope ∈ s.scopes.head?, (s.service scope.1).clogged = true := by
  cases hs : s.scopes with
  | nil =>
    rw [closeScope, run_bind_returned (run_read _ s), hs]
    exact iff_of_false (by simp) (by simp)
  | cons scope scopes =>
    obtain ⟨owner, before⟩ := scope
    rcases closeScope_cases hs with ⟨hc, t, hr, -⟩ | ⟨hc, ha⟩
    · exact iff_of_false (by rw [hr]; simp) (by simp [hc])
    · exact iff_of_true ha (by simp [hc])

theorem takeDown_aborts_iff :
    ((destroy name).run s).1 = .aborted ↔
      (s.simulators.get? name).isSome = true ∧ s.station.service.clogged = true := by
  cases hg : s.simulators.get? name with
  | none =>
    rw [takeDown_run_none hg]
    exact iff_of_false (by simp) (by simp)
  | some old =>
    rcases hd : old.destroy.run s.station with ⟨outcome, st⟩
    have ha := old.destroy_aborts_iff s.station
    rw [hd] at ha
    rw [takeDown_run hg hd]
    exact ha.trans (by simp)

theorem reply_run_aborts_iff :
    ((atSimulator name (reply .run)).run s).1 = .aborted ↔
      ∃ a ∈ s.simulators.get? name, ∃ service ∈ Rig.closings ⟨a, s.station⟩, service.clogged = true := by
  cases hg : s.simulators.get? name with
  | none =>
    rw [run_atSimulator_none hg]
    exact iff_of_false (by simp) (by simp)
  | some a =>
    have ha := Rig.run_aborts_iff ⟨a, s.station⟩
    rw [← bind_aborts_iff (f := fun ticks => pure (Answer.ticks ticks)) fun _ _ => by simp] at ha
    rw [run_atSimulator hg]
    exact ha.trans (by simp)

/-- A request aborts the program just if a sink refuses what is to be delivered for good. -/
theorem perform_aborts_iff (s : Session) (r : Request) :
    ((perform r).run s).1 = .aborted ↔ ∃ service ∈ s.closings r, service.clogged = true := by
  cases hc : r.command.closes with
  | false =>
    have hn : s.closings r = [] := by
      rw [closings]
      revert hc
      cases r.command <;> simp [Command.closes]
    rw [hn]
    refine iff_of_false ?_ (by simp)
    cases hs : r.command.shifts with
    | false => exact (steady_perform hs hc s).1
    | true =>
      obtain ⟨service, simulator, console, command⟩ := r
      cases command with
      | pushContext => rintro ⟨⟩
      | popContext =>
        rw [perform, run_bind, popContext, run_bind_returned (run_read _ s)]
        cases s.contexts <;> rintro ⟨⟩
      | _ => cases hs
  | true =>
    obtain ⟨service, simulator, console, command⟩ := r
    cases command with
    | closeScope =>
      rw [perform, quietly_aborts_iff, closeScope_aborts_iff, closings]
      cases s.scopes <;> simp
    | newSimulator blueprint =>
      rw [perform, quietly_aborts_iff, closings]
      dsimp only
      cases hb : blueprint.read with
      | error fault =>
        rw [newSimulator_unread hb]
        exact iff_of_false (by simp) (by simp)
      | ok setup =>
        rw [newSimulator_read hb, newSimulator_aborts_iff]
        dsimp only
        rcases (Simulator.create setup).run s.station with ⟨_ | _ | _, made⟩ <;>
          rcases s.simulators.get? simulator with _ | old <;> simp
    | destroy =>
      rw [perform, quietly_aborts_iff, takeDown_aborts_iff, closings]
      cases s.simulators.get? simulator <;> simp
    | run =>
      refine reply_run_aborts_iff.trans ?_
      rw [closings]
      cases s.simulators.get? simulator <;> simp
    | _ => cases hc

/-- Give a service a sink of any make. -/
def enlist (service : String) (sink : Sink) (threshold : Level) : Action Session Unit :=
  atService service (Station.onService (·.attachSink sink threshold))

/-- The session after a service has been given a sink. -/
def enlisted (s : Session) (service : String) (sink : Sink) (threshold : Level) : Session :=
  settle service { stationFor service s with service := (s.service service).attachSink sink threshold } s

theorem enlist_run (service : String) (sink : Sink) (threshold : Level) (s : Session) :
    (enlist service sink threshold).run s = (.returned (), s.enlisted service sink threshold) := rfl

/-- Run a body in a scope. -/
def inScope (name : String) (body : Action Session Unit) : Action Session Unit := do
  openScope name
  body.closing closeScope

/-- What a scope comes to when it is closed: the service has delivered what the body left it to deliver, and is
buffering as it was when the scope was opened. -/
structure Exit (name : String) (opening left closed : Session) : Prop where
  scopes_eq : closed.scopes = opening.scopes
  service_eq : closed.service name = (left.service name).flushed.buffer (opening.service name).buffering

theorem run_inScope (name : String) (body : Action Session Unit) (s : Session) :
    (inScope name body).run s = (body.closing closeScope).run (s.opened name) := by
  have ho : (openScope name).run s = (.returned (), s.opened name) := by
    rw [opened, ← scopes_settle name { stationFor name s with service := (s.service name).buffer true } s]
    rfl
  rw [inScope, run_bind_returned ho]

/-- A body that keeps its scopes in order, in a scope: the outcome is that of the body unless what is left cannot be
delivered. -/
theorem inScope_cases {body : Action Session Unit} {outcome : Outcome Unit} {left : Session}
    (hr : body.run (s.opened name) = (outcome, left))
    (hs : outcome ≠ .aborted → left.scopes = (s.opened name).scopes) :
    outcome = .aborted ∧ ((inScope name body).run s).1 = .aborted ∨
      outcome ≠ .aborted ∧
        ((left.service name).clogged = false ∧
            (∃ closed, (inScope name body).run s = (outcome, closed) ∧ Exit name s left closed) ∨
          (left.service name).clogged = true ∧ ((inScope name body).run s).1 = .aborted) := by
  rw [run_inScope]
  have hbody : (body.run (s.opened name)).1 = outcome := congrArg Prod.fst hr
  by_cases hn : outcome = .aborted
  · rw [closing_aborted (hbody.trans hn)]
    exact .inl ⟨hn, rfl⟩
  · have hb : (body.run (s.opened name)).1 ≠ .aborted := hbody ▸ hn
    refine .inr ⟨hn, ?_⟩
    rcases closeScope_cases (hs hn) with ⟨hc, t, ht, hscopes, hservice⟩ | ⟨hc, ha⟩
    · rw [closing_run hb (by rw [hr, ht]), hr]
      exact .inl ⟨hc, t, rfl, hscopes, hservice⟩
    · rw [closing_fails hb (by rw [hr, ha]; simp)]
      exact .inr ⟨hc, rfl⟩

end Session

/-- What is done with scopes that nest: requests, of which none opens or closes a scope by itself, sinks of any make
that a service is given, bodies in a scope of their own, and failures that are raised and caught. -/
inductive Block where
  | done
  | raise (failure : Failure)
  | ask (request : Request) (unscoped : request.command.scoping = false) (next : Answer → Block)
  | enlist (service : String) (sink : Sink) (threshold : Level) (next : Block)
  | scope (service : String) (body next : Block)
  | attempt (body : Block) (next : Option Failure → Block)

namespace Block

def action : Block → Action Session Unit
  | done => pure ()
  | raise failure => .raise failure
  | ask request _ next => do
    let answer ← Session.perform request
    (next answer).action
  | enlist service sink threshold next => do
    Session.enlist service sink threshold
    next.action
  | scope service body next => do
    Session.inScope service body.action
    next.action
  | attempt body next => do
    let failure ← body.action.caught
    (next failure).action

/-- The services as a block has them when what they hold is to be delivered for good, in order: a scope is closed,
or a simulator is taken down, or has run to its end. -/
def closings (b : Block) (s : Session) : List Service :=
  match b with
  | done | raise _ => []
  | ask request _ next =>
    s.closings request ++
      match (Session.perform request).run s with
      | (.returned answer, t) => (next answer).closings t
      | _ => []
  | enlist service sink threshold next => next.closings (s.enlisted service sink threshold)
  | scope service body next =>
    body.closings (s.opened service) ++
      match body.action.run (s.opened service) with
      | (.aborted, _) => []
      | (_, left) =>
        left.service service ::
          match (Session.inScope service body.action).run s with
          | (.returned (), t) => next.closings t
          | _ => []
  | attempt body next =>
    body.closings s ++
      match body.action.caught.run s with
      | (.returned failure, t) => (next failure).closings t
      | _ => []

/-- All scopes that are opened in a block are closed when it is left, unless the program is aborted. -/
theorem scopes_eq (b : Block) (s : Session) (hn : (b.action.run s).1 ≠ .aborted) :
    (b.action.run s).2.scopes = s.scopes := by
  induction b generalizing s with
  | done => rfl
  | raise failure => rfl
  | ask r unscoped next ih =>
    have hr := Session.scopes_perform unscoped s
    rw [action, run_bind] at hn ⊢
    rcases hp : (Session.perform r).run s with ⟨answer | failure | _, t⟩ <;> rw [hp] at hn hr
    · exact (ih answer t hn).trans hr
    · exact hr
    · exact absurd rfl hn
  | enlist service sink threshold next ih =>
    rw [action, run_bind_returned (Session.enlist_run service sink threshold s)] at hn ⊢
    exact (ih _ hn).trans (Session.scopes_settle _ _ _)
  | scope service body next ihb ihn =>
    rw [action, run_bind] at hn ⊢
    have hscope : ((Session.inScope service body.action).run s).1 ≠ .aborted →
        ((Session.inScope service body.action).run s).2.scopes = s.scopes := by
      intro h
      rcases Session.inScope_cases rfl (ihb (s.opened service)) with
        ⟨-, ha⟩ | ⟨-, ⟨-, closed, hc, hexit⟩ | ⟨-, ha⟩⟩
      · exact absurd ha h
      · rw [hc]
        exact hexit.scopes_eq
      · exact absurd ha h
    rcases hx : (Session.inScope service body.action).run s with ⟨_ | failure | _, t⟩ <;> rw [hx] at hn hscope
    · exact (ihn t hn).trans (hscope (by simp))
    · exact hscope (by simp)
    · exact absurd rfl hn
  | attempt body next ihb ihn =>
    have hs := ihb s
    rw [action, run_bind, caught] at hn ⊢
    dsimp only at hn ⊢
    rcases hb : body.action.run s with ⟨_ | failure | _, t⟩ <;> rw [hb] at hn hs
    · exact (ihn none t hn).trans (hs (by simp))
    · exact (ihn (some failure) t hn).trans (hs (by simp))
    · exact absurd rfl hn

theorem clogged_append (first later : List Service) :
    (∃ service ∈ first ++ later, service.clogged = true) ↔
      (∃ service ∈ first, service.clogged = true) ∨ ∃ service ∈ later, service.clogged = true := by
  simp only [List.mem_append, or_and_right, exists_or]

/-- A block is aborted just if a sink refuses what is to be delivered for good. -/
theorem aborts_iff (b : Block) (s : Session) :
    (b.action.run s).1 = .aborted ↔ ∃ service ∈ b.closings s, service.clogged = true := by
  induction b generalizing s with
  | done => simp [action, closings]
  | raise failure => simp [action, closings]
  | ask r unscoped next ih =>
    have hr := Session.perform_aborts_iff s r
    rw [action, closings, run_bind, clogged_append, ← hr]
    rcases (Session.perform r).run s with ⟨answer | failure | _, t⟩
    · exact (ih answer t).trans (or_iff_right (by simp)).symm
    · exact iff_of_false (by simp) (by simp)
    · exact iff_of_true rfl (.inl rfl)
  | enlist service sink threshold next ih =>
    rw [action, closings, run_bind_returned (Session.enlist_run service sink threshold s)]
    exact ih _
  | scope service body next ihb ihn =>
    rw [action, closings, clogged_append, ← ihb]
    rcases hb : body.action.run (s.opened service) with ⟨outcome, left⟩
    have hs := body.scopes_eq (s.opened service)
    rw [hb] at hs
    rcases Session.inScope_cases hb hs with ⟨hn, ha⟩ | ⟨hn, ⟨hc, closed, hr, -⟩ | ⟨hc, ha⟩⟩
    · exact iff_of_true (bind_aborts ha) (.inl hn)
    · rcases outcome with _ | failure | _
      · rw [run_bind_returned hr, hr, or_iff_right (by simp), List.exists_mem_cons_iff, hc]
        exact (ihn closed).trans (or_iff_right (by simp)).symm
      · rw [run_bind_raised hr, hr]
        exact iff_of_false (by simp) (by simp [hc])
      · exact absurd rfl hn
    · refine iff_of_true (bind_aborts ha) (.inr ?_)
      rcases outcome with _ | failure | _
      · exact ⟨_, List.mem_cons_self, hc⟩
      · exact ⟨_, List.mem_cons_self, hc⟩
      · exact absurd rfl hn
  | attempt body next ihb ihn =>
    rw [action, closings, run_bind, clogged_append, ← ihb, caught]
    dsimp only
    rcases body.action.run s with ⟨_ | failure | _, t⟩
    · exact (ihn none t).trans (or_iff_right (by simp)).symm
    · exact (ihn (some failure) t).trans (or_iff_right (by simp)).symm
    · exact iff_of_true rfl (.inl rfl)

/-- Whatever is done in a scope, and however it ends: unless a sink refuses what is to be delivered for good, in this
scope or in one inside it or by a simulator, closing the scope leaves the outcome to the body and the service
buffering as it was when the scope was opened, with nothing held. The counters, the threshold and the sinks are as
the body left them, and every sink has been handed what was still held for it. -/
theorem scope_restores_buffering (name : String) (s : Session) (body : Block)
    (h : ∀ service ∈ (scope name body done).closings s, service.clogged = false) :
    ∃ outcome left closed, outcome ≠ .aborted ∧
      body.action.run (s.opened name) = (outcome, left) ∧
      (Session.inScope name body.action).run s = (outcome, closed) ∧
      (closed.service name).buffering = (s.service name).buffering ∧
      (closed.service name).held = [] ∧
      (∀ level, (closed.service name).count level = (left.service name).count level) ∧
      (closed.service name).threshold = (left.service name).threshold ∧
      (closed.service name).lineup = (left.service name).lineup ∧
      (closed.service name).slots = (left.service name).slots.map (·.served (left.service name).pending) ∧
      closed.scopes = s.scopes := by
  rcases hb : body.action.run (s.opened name) with ⟨outcome, left⟩
  rw [closings, hb] at h
  obtain ⟨hbody, hleft⟩ := List.forall_mem_append.mp h
  have hn : outcome ≠ .aborted := by
    intro ha
    have hab := (body.aborts_iff (s.opened name)).mp (by rw [hb, ha])
    obtain ⟨service, hm, hc⟩ := hab
    rw [hbody service hm] at hc
    cases hc
  have hs := body.scopes_eq (s.opened name)
  rw [hb] at hs
  have hc : (left.service name).clogged = false := by
    cases outcome with
    | aborted => exact absurd rfl hn
    | _ => exact hleft _ List.mem_cons_self
  rcases Session.inScope_cases hb hs with ⟨ha, -⟩ | ⟨-, ⟨-, closed, hr, hexit⟩ | ⟨hclogged, -⟩⟩
  · exact absurd ha hn
  · have hlineup : (left.service name).flushed.lineup = (left.service name).lineup :=
      Service.lineup_eq_of_continues (List.forall₂_map_right_iff.mpr
        (List.forall₂_same.mpr fun slot _ => slot.continues_served _))
    refine ⟨outcome, left, closed, hn, rfl, hr, ?_⟩
    rw [hexit.service_eq]
    exact ⟨rfl, rfl, fun _ => rfl, rfl, hlineup, rfl, hexit.scopes_eq⟩
  · rw [hc] at hclogged
    cases hclogged

end Block

/-- A sink that refuses its second batch and no other. -/
def faltering : Sink := ⟨.nowhere, fun received => if received.length = 2 then some "full" else none⟩

/-- Buffering is switched off on the way, a scope inside is left by a failure, a simulator runs and is taken down, a
sink is added that refuses something later on, and the scope itself is left by a failure with a message still
held. -/
def restless : Block :=
  let on (command : Command) : Request := ⟨Session.sharedService, "main", none, command⟩
  let say (message : String) : Request := on (.log .info 0.0 message none)
  .ask (say "held") rfl fun _ =>
  .ask (on (.buffer false)) rfl fun _ =>
  .ask (say "at once") rfl fun _ =>
  .attempt (.scope Session.sharedService (.ask (say "inside") rfl fun _ => .raise (.sink "given up")) .done) fun _ =>
  .ask (on (.newSimulator (.setup { SimulatorSetup.standard with finish := 0.02 }))) rfl fun _ =>
  .ask (on .run) rfl fun _ =>
  .ask (on .destroy) rfl fun _ =>
  .ask (on (.attachSink (.batches "late") .trace)) rfl fun _ =>
  .enlist Session.sharedService faltering .trace <|
  .ask (say "taken") rfl fun _ =>
  .attempt (.ask (say "refused") rfl fun _ => .done) fun _ =>
  .ask (on (.buffer true)) rfl fun _ =>
  .ask (say "last") rfl fun _ =>
  .raise (.sink "given up")

theorem restless_scope_restores :
    (∀ service ∈ (Block.scope Session.sharedService restless .done).closings
        (Session.withSlots [Session.willing]), service.clogged = false) ∧
      ((Block.scope Session.sharedService restless .done).closings (Session.withSlots [Session.willing])).length = 4 ∧
      ∃ reason closed, (Session.inScope Session.sharedService restless.action).run
          (Session.withSlots [Session.willing]) = (.raised (.sink reason), closed) ∧
        (closed.service Session.sharedService).buffering = false ∧
        (closed.service Session.sharedService).held = [] ∧
        (closed.service Session.sharedService).slots.map (fun slot => slot.entries.map (·.message)) =
          [["taken", "refused", "last"], ["taken", "refused", "last"]] := by
  have h : ((Block.scope Session.sharedService restless .done).closings
      (Session.withSlots [Session.willing])).any Service.clogged = false := by decide +kernel
  have hc := fun service hm => eq_false_of_ne_true (List.any_eq_false.mp h service hm)
  obtain ⟨outcome, left, closed, hn, hb, hr, hbuf, hh, -, -, -, hs, -⟩ :=
    restless.scope_restores_buffering Session.sharedService (Session.withSlots [Session.willing]) hc
  have ho : (restless.action.run ((Session.withSlots [Session.willing]).opened Session.sharedService)).1.calm =
      false := by decide +kernel
  rw [hb] at ho
  obtain ⟨reason, rfl⟩ : ∃ reason, outcome = .raised (.sink reason) := by
    rcases outcome with _ | (_ | reason) | _
    · cases ho
    · cases ho
    · exact ⟨reason, rfl⟩
    · exact absurd rfl hn
  obtain rfl : _ = left := congrArg Prod.snd hb
  refine ⟨hc, by decide +kernel, reason, closed, hr, hbuf, hh, ?_⟩
  rw [hs]
  decide +kernel

end Flotation
