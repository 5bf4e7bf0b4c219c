import Flotation.Proofs.Session.LogActs

/-! Counting. The counters of a log service go by what is logged and by the threshold of the moment, and by
nothing that becomes of the entries afterwards. -/
namespace Flotation

/-- The number of entries at a level after some acts, from their number and the threshold before: one more for
each that is logged while the level comes up to the threshold, since the ledger was last begun anew. -/
def Act.tally (level threshold : Level) (known : Nat) : List Act → Nat
  | [] => known
  | .log entry :: rest =>
    tally level threshold (if entry.level = level ∧ threshold ≤ level then known + 1 else known) rest
  | .setThreshold threshold :: rest => tally level threshold known rest
  | .newLedger :: rest => tally level threshold 0 rest
  | _ :: rest => tally level threshold known rest

namespace Service
variable (s : Service)

@[simp] theorem threshold_undergo_log (entry : Entry) : (s.undergo (.log entry)).threshold = s.threshold := by
  rw [undergo]
  split
  · split <;> rfl
  · rfl

@[simp] theorem threshold_undergo_flush : (s.undergo .flush).threshold = s.threshold := by
  rw [undergo]
  split <;> rfl

variable (level : Level)

/-- An entry that is accepted is counted before anything becomes of it. -/
theorem count_undergo_log (entry : Entry) :
    (s.undergo (.log entry)).count level =
      if entry.level = level ∧ s.threshold ≤ level then s.count level + 1 else s.count level := by
  by_cases ha : s.accepts entry.level = true
  · have hu : (s.undergo (.log entry)).count level = (s.enter entry).count level := by
      rw [undergo, if_pos ha]
      split <;> rfl
    rw [hu, count_enter]
    by_cases hl : entry.level = level
    · have ht : s.threshold ≤ level := hl ▸ of_decide_eq_true ha
      rw [if_pos hl, if_pos ⟨hl, ht⟩]
    · rw [if_neg hl, if_neg fun hc => hl hc.1, Nat.add_zero]
  · rw [undergo, if_neg ha, if_neg]
    rintro ⟨rfl, ht⟩
    exact ha (decide_eq_true ht)

@[simp] theorem count_undergo_flush : (s.undergo .flush).count level = s.count level := by
  rw [undergo]
  split <;> rfl

theorem count_foldl_undergo (acts : List Act) :
    (acts.foldl undergo s).count level = Act.tally level s.threshold (s.count level) acts := by
  induction acts generalizing s with
  | nil => rfl
  | cons act rest ih =>
    rw [List.foldl_cons, ih]
    cases act with
    | log entry => rw [count_undergo_log, threshold_undergo_log, Act.tally]
    | flush =>
      rw [count_undergo_flush, threshold_undergo_flush]
      rfl
    | buffer | setThreshold | attachSink | detachSinks | dropHeld | newLedger => rfl

end Service

/-- What a user can do: make a request, or give a service a sink of any make. -/
inductive Turn where
  | request (r : Request)
  | enlist (service : String) (sink : Sink) (threshold : Level)

namespace Session

/-- The session after a turn, unless it aborts the program. -/
def afterTurn (s : Session) : Turn → Option Session
  | .request r => s.after [r]
  | .enlist service sink threshold =>
    some (settle service
      { stationFor service s with service := (s.service service).attachSink sink threshold } s)

/-- What a turn does to the service of a name. -/
def turnActs (name : String) (s : Session) : Turn → List Act
  | .request r => s.acts name r
  | .enlist service sink threshold => addressed service name [.attachSink sink threshold]

/-- The session after some turns, unless one of them aborts the program. -/
def afterTurns (s : Session) (turns : List Turn) : Option Session := turns.foldlM afterTurn s

/-- What some turns do to the service of a name, one after the other, up to one that aborts the program. -/
def courseOfTurns (name : String) (s : Session) : List Turn → List Act
  | [] => []
  | turn :: rest =>
    s.turnActs name turn ++
      match s.afterTurn turn with
      | some t => t.courseOfTurns name rest
      | none => []

theorem afterTurn_undergoes {s t : Session} {turn : Turn} (h : s.afterTurn turn = some t) (name : String) :
    t.service name = (s.turnActs name turn).foldl Service.undergo (s.service name) := by
  cases turn with
  | request r =>
    have hn := not_aborted_of_after h
    rw [afterTurn, after_cons hn] at h
    cases h
    exact (perform_undergoes name s r).service_eq
  | enlist service sink threshold =>
    cases h
    rw [turnActs, addressed]
    split_ifs with hs
    · subst hs
      exact service_settle service _ s
    · exact service_settle_of_ne (Ne.symm hs) _ s

theorem afterTurns_undergoes {s t : Session} {turns : List Turn} (h : s.afterTurns turns = some t)
    (name : String) :
    t.service name = (s.courseOfTurns name turns).foldl Service.undergo (s.service name) := by
  induction turns generalizing s with
  | nil =>
    cases h
    rfl
  | cons turn rest ih =>
    obtain ⟨u, hu, ht⟩ := Option.bind_eq_some_iff.mp h
    rw [courseOfTurns, hu, List.foldl_append, ← afterTurn_undergoes hu]
    exact ih ht

/-- Whatever is done in the course of a session, and whatever sinks it is given, every service becomes what was
done to it, and each of its counters tells how often something was logged at that level while the level was
enabled, since the ledger was last begun anew. An entry counts whether it was delivered, is held, was dropped,
had no sink or was refused by one, and whether the user, a simulator or a fault that was reported had it
logged. -/
theorem counters_follow_turns {s t : Session} {turns : List Turn} (h : s.afterTurns turns = some t)
    (name : String) (level : Level) :
    t.service name = (s.courseOfTurns name turns).foldl Service.undergo (s.service name) ∧
      (t.service name).count level = Act.tally level (s.service name).threshold
        ((s.service name).count level) (s.courseOfTurns name turns) := by
  have hs := afterTurns_undergoes h name
  refine ⟨hs, ?_⟩
  rw [hs]
  exact (s.service name).count_foldl_undergo level _

/-- Half a second in one step, and the rest in two. -/
def brief : SimulatorSetup Float := { SimulatorSetup.standard with finish := 0.52 }

/-- A sink that refuses every other batch. -/
def fickle : Sink := ⟨.nowhere, fun received => if received.length % 2 = 0 then none else some "full"⟩

/-- Entries that are refused, held and dropped, and one that is too slight; then a simulator that is refused an
event, rejects a step, is refused the beginning of a run and is taken down, and one that cannot be made. -/
def uneven : List Turn :=
  let ask (command : Command) : Turn := .request ⟨sharedService, "main", none, command⟩
  [.enlist sharedService fickle .trace, ask (.log .warning 0.0 "refused" none), ask (.buffer true),
    ask (.log .warning 0.0 "held" none), ask .dropHeld, ask (.log .debug 0.0 "too slight" none),
    ask (.setThreshold .debug), ask (.newSimulator (.setup brief)), ask (.buffer false),
    .enlist sharedService fickle .trace, ask (.step (some 0.5) 1), ask (.step (some (-1.0)) 1), ask .run,
    ask (.newSimulator (.file "missing")), ask .destroy, ask (.log .info 0.0 "unheard" none)]

/-- The simulator has started the ledger anew: what is counted is its own, and the entry after its end. -/
theorem uneven_counters :
    ∃ t, ({} : Session).afterTurns uneven = some t ∧
      (t.service sharedService).count .info =
        Act.tally .info .info 0 (({} : Session).courseOfTurns sharedService uneven) ∧
      (t.service sharedService).count .info = 3 ∧ (t.service sharedService).count .event = 1 ∧
      (t.service sharedService).count .error = 1 ∧ (t.service sharedService).count .warning = 0 := by
  have hm : (({} : Session).afterTurns uneven).any (fun t =>
      decide ([Level.info, .event, .error, .warning].map (t.service sharedService).count = [3, 1, 1, 0])) =
        true := by
    decide +kernel
  obtain ⟨t, ht, hc⟩ := (Option.any_eq_true _ _).mp hm
  simp only [decide_eq_true_eq, List.map_cons, List.cons.injEq] at hc
  obtain ⟨hi, he, hr, hw, -⟩ := hc
  exact ⟨t, ht, (counters_follow_turns ht sharedService .info).2, hi, he, hr, hw⟩

end Session
end Flotation
