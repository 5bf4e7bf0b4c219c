import Flotation.Proofs.Log.Provenance
import Flotation.Proofs.Session.Contexts

/-! Programs on a session, in which contexts nest. A context is in force for its body and no longer, even if a
failure leaves several of them at once. -/
namespace Flotation
open Flotation.Action

/-- What an action raises, if it raises anything, and not its failure. -/
def Action.caught {σ : Type} (x : Action σ Unit) : Action σ (Option Failure) := ⟨fun s =>
  match x.run s with
  | (.returned (), s) => (.returned none, s)
  | (.raised failure, s) => (.returned (some failure), s)
  | (.aborted, s) => (.aborted, s)⟩

/-- A program makes requests and decides from the answers how to go on. Contexts are changed only by bodies that
run under one of their own. What a body raises can be caught. -/
inductive Program where
  | done
  | raise (failure : Failure)
  | ask (request : Request) (steady : request.command.shifts = false) (next : Answer → Program)
  | under (context : Context) (body next : Program)
  | attempt (body : Program) (next : Option Failure → Program)

/-- A request as it was made: the session it found, and the context of the innermost body around it. -/
structure Occasion where
  context : Context
  session : Session
  request : Request

namespace Session

/-- Run a body under a context. -/
def within (context : Context) (body : Action Session Unit) : Action Session Unit := do
  let before ← atStation (Station.enter context)
  body.closing (atStation (Station.leave before))

def inContext (s : Session) (context : Context) : Session := { s with station := { s.station with context } }

end Session

namespace Occasion

def action (o : Occasion) : Action Session Answer := Session.perform o.request

/-- What the request does to the service of a name. -/
def acts (name : String) (o : Occasion) : List Act := o.session.acts name o.request

end Occasion

namespace Program

def action : Program → Action Session Unit
  | done => pure ()
  | raise failure => .raise failure
  | ask request _ next => do
    let answer ← Session.perform request
    (next answer).action
  | under context body next => do
    Session.within context body.action
    next.action
  | attempt body next => do
    let failure ← body.action.caught
    (next failure).action

/-- The requests that a program makes when it is run under a context, in order. -/
def occasions (p : Program) (context : Context) (s : Session) : List Occasion :=
  match p with
  | done | raise _ => []
  | ask request _ next =>
    ⟨context, s, request⟩ ::
      match (Session.perform request).run s with
      | (.returned answer, t) => (next answer).occasions context t
      | _ => []
  | under inner body next =>
    body.occasions inner (s.inContext inner) ++
      match (Session.within inner body.action).run s with
      | (.returned (), t) => next.occasions context t
      | _ => []
  | attempt body next =>
    body.occasions context s ++
      match body.action.caught.run s with
      | (.returned failure, t) => (next failure).occasions context t
      | _ => []

/-- The sessions on the way of a program: those that its requests find, and the one that it leaves. -/
def stops (p : Program) (s : Session) : List Session :=
  (p.occasions s.context s).map (·.session) ++ [(p.action.run s).2]

theorem last_stop (p : Program) (s : Session) :
    (p.stops s)[(p.occasions s.context s).length]? = some (p.action.run s).2 := by
  simp [stops]

end Program

namespace Session
variable {s : Session} {context : Context}

theorem service_inContext (name : String) : (s.inContext context).service name = s.service name := by
  rw [service, service]
  split <;> rfl

/-- The context from before is in force again, unless the body aborts the program. -/
theorem run_within (body : Action Session Unit) :
    (within context body).run s =
      match body.run (s.inContext context) with
      | (.aborted, t) => (.aborted, t)
      | (outcome, t) => (outcome, t.inContext s.context) := by
  have he : (within context body).run s =
      (body.closing (atStation (Station.leave s.context))).run (s.inContext context) := rfl
  rw [he]
  rcases hr : body.run (s.inContext context) with ⟨_ | _ | _, t⟩ <;> simp only [closing, hr] <;> rfl

end Session

def Outcome.aborts {α : Type} : Outcome α → Bool
  | .aborted => true
  | _ => false

theorem Outcome.aborts_iff {α : Type} {outcome : Outcome α} : outcome.aborts = true ↔ outcome = .aborted := by
  cases outcome <;> simp [aborts]

/-- How programs get from one session to another under a context, and what they ask on the way. A body is entered
under a context of its own, and left with the context from before unless the program was aborted. -/
inductive Journey : Context → Session → List Occasion → Bool → Session → Prop where
  | idle {context s} : Journey context s [] false s
  | ask {context s} {r : Request} (steady : r.command.shifts = false) :
    Journey context s [⟨context, s, r⟩] ((Session.perform r).run s).1.aborts ((Session.perform r).run s).2
  | append {context s earlier t later aborted u} :
    Journey context s earlier false t → Journey context t later aborted u →
      Journey context s (earlier ++ later) aborted u
  | leave {context inner s occasions} {t : Session} :
    Journey inner (s.inContext inner) occasions false t →
      Journey context s occasions false (t.inContext s.context)
  | abort {context inner occasions t} {s : Session} :
    Journey inner (s.inContext inner) occasions true t → Journey context s occasions true t

/-- What a program does is a journey. -/
theorem Program.journey (p : Program) (context : Context) (s : Session) :
    Journey context s (p.occasions context s) (p.action.run s).1.aborts (p.action.run s).2 := by
  induction p generalizing context s with
  | done => exact .idle
  | raise failure => exact .idle
  | ask r steady next ih =>
    have hask : Journey context s _ _ _ := .ask steady
    rw [occasions, action, run_bind]
    rcases hr : (Session.perform r).run s with ⟨answer | failure | _, t⟩ <;> rw [hr] at hask
    · exact .append hask (ih answer context t)
    · exact hask
    · exact hask
  | under inner body next ihb ihn =>
    have hbody := ihb inner (s.inContext inner)
    rw [occasions, action, run_bind, Session.run_within]
    rcases hr : body.action.run (s.inContext inner) with ⟨_ | failure | _, t⟩ <;> rw [hr] at hbody
    · exact .append (.leave hbody) (ihn context _)
    · rw [List.append_nil]
      exact .leave hbody
    · rw [List.append_nil]
      exact .abort hbody
  | attempt body next ihb ihn =>
    have hbody := ihb context s
    rw [occasions, action, run_bind, caught]
    dsimp only
    rcases hr : body.action.run s with ⟨_ | failure | _, t⟩ <;> rw [hr] at hbody
    · exact .append hbody (ihn none context t)
    · exact .append hbody (ihn (some failure) context t)
    · rw [List.append_nil]
      exact hbody

namespace Journey
variable {context : Context} {s t : Session} {occasions : List Occasion} {aborted : Bool}

/-- A program that is not aborted goes back to the context it found. -/
theorem context_eq (h : Journey context s occasions aborted t) (ha : aborted = false) :
    t.context = s.context := by
  induction h with
  | idle => rfl
  | ask steady => exact Session.recovers_perform steady _
  | append _ _ ih ih' => exact (ih' ha).trans (ih rfl)
  | leave => rfl
  | abort => cases ha

/-- Every request finds the context of the innermost body around it, and leaves it in force. -/
theorem found (h : Journey context s occasions aborted t) (hc : s.context = context) :
    ∀ o ∈ occasions, o.session.context = o.context ∧ (o.action.run o.session).2.context = o.context := by
  induction h with
  | idle => exact List.forall_mem_nil _
  | ask steady => exact List.forall_mem_singleton.mpr ⟨hc, (Session.recovers_perform steady _).trans hc⟩
  | append h _ ih ih' => exact List.forall_mem_append.mpr ⟨ih hc, ih' ((h.context_eq rfl).trans hc)⟩
  | leave _ ih => exact ih rfl
  | abort _ ih => exact ih rfl

/-- A program is aborted only by a request that closes something. -/
theorem closed (h : Journey context s occasions aborted t) (ha : aborted = true) :
    ∃ o ∈ occasions, o.request.command.closes = true ∧ (o.action.run o.session).1 = .aborted := by
  induction h with
  | idle => cases ha
  | @ask context s r steady =>
    have hn := Outcome.aborts_iff.mp ha
    refine ⟨_, List.mem_singleton_self _, ?_, hn⟩
    by_contra hc
    exact (Session.steady_perform steady (eq_false_of_ne_true hc) s).1 hn
  | append _ _ _ ih' =>
    obtain ⟨o, hm, ho⟩ := ih' ha
    exact ⟨o, List.mem_append_right _ hm, ho⟩
  | leave => cases ha
  | abort _ ih => exact ih ha

end Journey

/-- Each occasion finds the service of the name as the one before has left it. -/
inductive Trail (name : String) : Service → List Occasion → Service → Prop where
  | nil {service} : Trail name service [] service
  | cons {o : Occasion} {later service} :
    Trail name ((o.acts name).foldl Service.undergo (o.session.service name)) later service →
      Trail name (o.session.service name) (o :: later) service

namespace Trail
variable {name : String} {before between after service : Service} {occasions later : List Occasion}

theorem append (h : Trail name before occasions between) (k : Trail name between later after) :
    Trail name before (occasions ++ later) after := by
  induction h with
  | nil => exact k
  | cons _ ih => exact .cons (ih k)

/-- At every stop on the way the service is made of what was done to it so far. -/
theorem service_eq (h : Trail name before occasions after) {i : Nat}
    (hi : (occasions.map (·.session.service name) ++ [after])[i]? = some service) :
    service = ((occasions.take i).flatMap (·.acts name)).foldl Service.undergo before := by
  induction h generalizing i with
  | nil =>
    cases i with
    | zero => exact (Option.some.inj hi).symm
    | succ i => cases hi
  | cons _ ih =>
    cases i with
    | zero => exact (Option.some.inj hi).symm
    | succ i =>
      rw [List.take_succ_cons, List.flatMap_cons, List.foldl_append]
      exact ih hi

end Trail

theorem Journey.trail {context : Context} {s t : Session} {occasions : List Occasion} {aborted : Bool}
    (h : Journey context s occasions aborted t) (name : String) :
    Trail name (s.service name) occasions (t.service name) := by
  induction h with
  | idle => exact .nil
  | @ask context s r steady =>
    have hs : ((Session.perform r).run s).2.service name = _ := (Session.perform_undergoes name s r).service_eq
    rw [hs]
    exact .cons (o := ⟨context, s, r⟩) .nil
  | append _ _ ih ih' => exact ih.append ih'
  | leave _ ih =>
    rw [Session.service_inContext] at ih ⊢
    exact ih
  | abort _ ih =>
    rw [Session.service_inContext] at ih
    exact ih

/-- Contexts nest. A program that is not aborted leaves the context it found, even if it is left by a failure that
gets through several bodies, and only a request that closes something can abort it. On the way every request finds
the context of the innermost body around it, and what it has logged, by whichever service, has the context that
goes with that one. At every stop the service of any name is made of what the requests so far have done to it, and
what it holds and what its sinks were handed by then is just as it was logged, however late it was delivered. -/
theorem Program.contexts_nest (p : Program) (s : Session) (name : String) :
    ((p.action.run s).1 ≠ .aborted → (p.action.run s).2.context = s.context) ∧
      ((p.action.run s).1 = .aborted →
        ∃ o ∈ p.occasions s.context s, o.request.command.closes = true ∧ (o.action.run o.session).1 = .aborted) ∧
      (∀ o ∈ p.occasions s.context s,
        o.session.context = o.context ∧ (o.action.run o.session).2.context = o.context ∧
          ∀ entry, .log entry ∈ o.acts name →
            entry.context = o.request.command.contextAt o.context entry.level) ∧
      ∀ i t, (p.stops s)[i]? = some t →
        t.service name = (((p.occasions s.context s).take i).flatMap (·.acts name)).foldl Service.undergo
            (s.service name) ∧
          ∀ entry, (t.service name).Knows entry → (s.service name).Knows entry ∨
            ∃ o ∈ (p.occasions s.context s).take i, .log entry ∈ o.acts name := by
  have hj := p.journey s.context s
  refine ⟨fun hn => ?_, fun ha => ?_, fun o ho => ?_, fun i t hi => ?_⟩
  · exact hj.context_eq (eq_false_of_ne_true (mt Outcome.aborts_iff.mp hn))
  · exact hj.closed (Outcome.aborts_iff.mpr ha)
  · obtain ⟨hbefore, hafter⟩ := hj.found rfl o ho
    refine ⟨hbefore, hafter, fun entry he => ?_⟩
    exact hbefore ▸ Session.acts_under name o.session o.request _ he
  · have hm := congrArg (Option.map (·.service name)) hi
    rw [← List.getElem?_map, stops, List.map_append, List.map_map] at hm
    have hs : t.service name = _ := (hj.trail name).service_eq hm
    refine ⟨hs, fun entry he => ?_⟩
    rw [hs] at he
    exact (Service.knows_foldl he).imp id List.mem_flatMap.mp

/-- A message that is refused gets through two bodies, a step is rejected, one is taken that an observer refuses,
and what is held within a body is delivered after it. -/
def soundings : Program :=
  let on (command : Command) : Request := ⟨Session.sharedService, "main", none, command⟩
  let say (message : String) : Request := on (.log .info 0.0 message none)
  .ask (on (.newSimulator (.setup .standard))) rfl fun _ =>
  .ask (on .detachSinks) rfl fun _ =>
  .ask (on (.attachSink (.failing 1 "log") .trace)) rfl fun _ =>
  .ask (on (.setThreshold .debug)) rfl fun _ =>
  .ask (on (.addObserver (some (.failing 0)))) rfl fun _ =>
  .under ⟨"harbour", "watch"⟩
    (.attempt
      (.under ⟨"pier", "crane"⟩ (.under ⟨"pier", "rope"⟩ (.ask (say "refused") rfl fun _ => .done) .done) .done)
      fun _ =>
    .attempt (.under ⟨"pier", "gauge"⟩ (.ask (on (.step (some (-1.0)) 1)) rfl fun _ => .done) .done) fun _ =>
    .attempt (.ask (on (.step (some 0.5) 1)) rfl fun _ => .done) fun _ =>
    .ask (on (.buffer true)) rfl fun _ =>
    .under ⟨"pier", "lamp"⟩ (.ask (say "held") rfl fun _ => .done)
      (.ask (say "held as well") rfl fun _ => .done))
    (.ask (on .flush) rfl fun _ => .done)

/-- All that the sink was handed has the context it was logged under. -/
theorem soundings_nest :
    let t := (soundings.action.run {}).2
    (soundings.action.run {}).1 ≠ .aborted ∧ t.context = ({} : Session).context ∧
      (soundings.stops {})[(soundings.occasions {} {}).length]? = some t ∧
      ((t.service Session.sharedService).slots.flatMap (·.entries)).map (·.context) =
        [⟨"pier", "rope"⟩, ⟨"pier", "Simulator"⟩, Simulator.tickContext, Simulator.tickContext, ⟨"pier", "lamp"⟩,
          ⟨"harbour", "watch"⟩] ∧
      ∀ entry, (t.service Session.sharedService).Knows entry →
        ∃ o ∈ soundings.occasions {} {}, o.session.context = o.context ∧
          entry.context = o.request.command.contextAt o.context entry.level := by
  intro t
  have ho : (soundings.action.run {}).1.aborts = false := by decide +kernel
  have hn : (soundings.action.run {}).1 ≠ .aborted := mt Outcome.aborts_iff.mpr (ne_true_of_eq_false ho)
  have hl : (soundings.stops {})[(soundings.occasions {} {}).length]? = some t := soundings.last_stop {}
  obtain ⟨hcontext, -, hfound, hstop⟩ := soundings.contexts_nest {} Session.sharedService
  refine ⟨hn, hcontext hn, hl, by decide +kernel, fun entry hk => ?_⟩
  rcases (hstop _ t hl).2 entry hk with (hh | ⟨slot, hm, -⟩) | ⟨o, hm, hlog⟩
  · cases hh
  · cases hm
  · obtain ⟨hf, -, hc⟩ := hfound o (List.mem_of_mem_take hm)
    exact ⟨o, List.mem_of_mem_take hm, hf, hc entry hlog⟩

end Flotation
