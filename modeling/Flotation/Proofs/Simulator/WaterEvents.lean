import Flotation.Proofs.Simulator.Telling
import Mathlib.Data.List.Chain

/-! The entries that tell of the water. The sphere enters and leaves by turns, whatever is rejected in between
and whoever complains. -/
namespace Flotation
open Flotation.Action Station
variable {α : Type} [Scalar α]

/-- The entry tells that the sphere has entered or left the water. -/
def Entry.tellsOfWater (e : Entry) : Bool :=
  e.message == Motion.waterText true || e.message == Motion.waterText false

/-- The call asks for ticks, or changes who observes them. -/
def Call.ticks : Call α → Bool
  | .step _ | .stepNominal | .run | .addObserver _ | .clearObservers => true
  | .reset | .adoptScene _ | .adoptTime _ | .meanwhile _ => false

theorem Text.head?_append {first second : String} {c : Char} (h : first.toList.head? = some c) :
    (first ++ second).toList.head? = some c := by
  rw [String.toList_append, List.head?_append, h, Option.some_or]

/-- The texts on the water begin with a letter that no other text begins with. -/
theorem Entry.tellsOfWater_eq_false {e : Entry} {c : Char} (h : e.message.toList.head? = some c)
    (hc : c ≠ 'S') : e.tellsOfWater = false := by
  have hne (submerged : Bool) : e.message ≠ Motion.waterText submerged := by
    intro he
    rw [he] at h
    cases submerged <;> exact hc (Option.some.inj h).symm
  rw [tellsOfWater, beq_eq_false_iff_ne.mpr (hne true), beq_eq_false_iff_ne.mpr (hne false)]
  rfl

namespace Motion

theorem waterText_injective : Function.Injective waterText := by
  intro a b h
  revert h
  cases a <;> cases b <;> decide

theorem crossing?_eq_some {passage : Motion α × Motion α} {e : Entry} (h : crossing? passage = some e) :
    passage.2.submerged = !passage.1.submerged ∧ e.level = .event ∧
      e.message = waterText passage.2.submerged := by
  rw [crossing?] at h
  split at h
  · rename_i hn
    cases h
    exact ⟨Bool.eq_not_of_ne hn, rfl, rfl⟩
  · cases h

theorem crossing?_tellsOfWater {passage : Motion α × Motion α} {e : Entry} (h : crossing? passage = some e) :
    e.tellsOfWater = true := by
  rw [Entry.tellsOfWater, (crossing?_eq_some h).2.2]
  cases passage.2.submerged <;> rfl

theorem heightEntry_tellsOfWater (m : Motion α) : m.heightEntry.tellsOfWater = false :=
  Entry.tellsOfWater_eq_false (Text.head?_append rfl) (by decide : 'h' ≠ 'S')

theorem rejection_tellsOfWater (context : Context) (problem : TickProblem) (elapsed : α) (m : Motion α) :
    (m.rejection context problem elapsed).tellsOfWater = false := by
  apply Entry.tellsOfWater_eq_false _ (by decide : '[' ≠ 'S')
  rw [rejection, Fault.message, Text.toList_beforeNull, String.toList_append]
  rfl

theorem runningEntry_tellsOfWater (context : Context) (s : Simulator α) :
    (s.runningEntry context).tellsOfWater = false :=
  Entry.tellsOfWater_eq_false
    (Text.head?_append (Text.head?_append (Text.head?_append (Text.head?_append rfl)))) (by decide : 'R' ≠ 'S')

theorem completeEntry_tellsOfWater (context : Context) (s : Simulator α) :
    (s.completeEntry context).tellsOfWater = false :=
  Entry.tellsOfWater_eq_false
    (Text.head?_append (Text.head?_append (Text.head?_append (Text.head?_append rfl)))) (by decide : 'R' ≠ 'S')

/-- Of all that is told of some steps, the ticks that pass the surface tell of the water. -/
theorem filter_entries (context : Context) (m : Motion α) (lengths : List α) :
    (m.entries context lengths).filter Entry.tellsOfWater =
      (m.passages (takable lengths)).filterMap crossing? := by
  induction lengths generalizing m with
  | nil => rfl
  | cons elapsed rest ih =>
    rw [entries, List.filter_append, ih, stepEntries, stepped, takable_cons]
    cases tickProblem? elapsed with
    | none =>
      dsimp only
      rw [passages, List.filter_append, List.filter_singleton, heightEntry_tellsOfWater, cond_false,
        List.append_nil, List.filterMap_cons]
      cases hc : crossing? (m, m.ticked elapsed) with
      | none => rfl
      | some e =>
        rw [Option.toList_some, List.filter_singleton, crossing?_tellsOfWater hc]
        rfl
    | some problem =>
      dsimp only
      rw [List.filter_singleton, rejection_tellsOfWater]
      rfl

theorem passages_append (m : Motion α) (first second : List α) :
    m.passages (first ++ second) = m.passages first ++ (first.foldl ticked m).passages second := by
  induction first generalizing m with
  | nil => rfl
  | cons elapsed rest ih => rw [List.cons_append, passages, ih, passages, List.cons_append, List.foldl_cons]

/-- Entering and leaving take turns, beginning with what the sphere can do first and ending with where it is
in the end. -/
theorem crossings_alternate (m : Motion α) (lengths : List α) :
    (((m.passages lengths).filterMap crossing?).map (·.message)).IsChain (· ≠ ·) ∧
      (∀ e ∈ ((m.passages lengths).filterMap crossing?).head?, e.message = waterText (!m.submerged)) ∧
      (((m.passages lengths).filterMap crossing?).getLast?.map (·.message)).getD (waterText m.submerged) =
        waterText (lengths.foldl ticked m).submerged := by
  induction lengths generalizing m with
  | nil => exact ⟨.nil, nofun, rfl⟩
  | cons elapsed rest ih =>
    obtain ⟨hchain, hhead, hlast⟩ := ih (m.ticked elapsed)
    rw [passages, List.filterMap_cons, List.foldl_cons]
    cases hc : crossing? (m, m.ticked elapsed) with
    | none =>
      have he : (m.ticked elapsed).submerged = m.submerged := by
        rw [crossing?] at hc
        split at hc
        · cases hc
        · rename_i hn
          exact not_not.mp hn
      rw [he] at hhead hlast
      exact ⟨hchain, hhead, hlast⟩
    | some e =>
      obtain ⟨hflip, -, hmessage⟩ := crossing?_eq_some hc
      dsimp only at hflip hmessage ⊢
      refine ⟨?_, ?_, ?_⟩
      · rw [List.map_cons, List.isChain_cons]
        refine ⟨fun text ht => ?_, hchain⟩
        rw [List.head?_map] at ht
        obtain ⟨next, hn, rfl⟩ := Option.map_eq_some_iff.mp ht
        rw [hmessage, hhead next hn]
        exact fun h => (Bool.eq_not_self _).mp (waterText_injective h)
      · intro first hf
        rw [← Option.some.inj hf, hmessage, hflip]
      · rw [List.getLast?_cons, Option.map_some, Option.getD_some, ← hlast, ← hmessage]
        cases ((Motion.passages (m.ticked elapsed) rest).filterMap crossing?).getLast? <;> rfl

end Motion

namespace Rig
variable {P : List Entry → Station → Prop} {written : List Entry} {rig : Rig α}

/-- The diary of a rig after ticks of some lengths: what it has come to tell of the water are the passages of
the surface. -/
structure Watered (P : List Entry → Station → Prop) (written : List Entry) (lengths : List α)
    (before after : Rig α) : Prop where
  motion_eq : after.simulator.motion = lengths.foldl Motion.ticked before.simulator.motion
  diary : ∃ told, P (written ++ told) after.station ∧ told.filter Entry.tellsOfWater =
    (before.simulator.motion.passages lengths).filterMap Motion.crossing?

theorem Watered.of_tells {β : Type} {lengths : List α} {told : List Entry} {result : Outcome β × Rig α}
    (h : Tells P (written ++ told) (lengths.foldl Motion.stepped rig.simulator.motion) rig result)
    (ht : told.filter Entry.tellsOfWater =
      (rig.simulator.motion.passages (Motion.takable lengths)).filterMap Motion.crossing?) :
    Watered P written (Motion.takable lengths) rig result.2 :=
  ⟨h.motion_eq.trans (Motion.foldl_stepped _ _), told, h.keeping.diary, ht⟩

theorem Watered.of_step (hP : Diary P) (h : P written rig.station) (elapsed : α) :
    Watered P written (Motion.takable [elapsed]) rig ((step elapsed).run rig).2 := by
  have hf := Motion.filter_entries rig.station.context rig.simulator.motion [elapsed]
  rw [Motion.entries, Motion.entries, List.append_nil] at hf
  exact .of_tells (step_tells hP h elapsed) hf

theorem Watered.idle {after : Rig α} (h : P written rig.station) (hm : after.simulator.motion = rig.simulator.motion)
    (hs : after.station = rig.station) : Watered P written [] rig after := by
  refine ⟨hm, [], ?_, rfl⟩
  rw [hs, List.append_nil]
  exact h

/-- A run tells of the water in its steps alone. -/
theorem run_watered (hP : Diary P) (h : P written rig.station) :
    (run.run rig).1 ≠ .aborted ∧ ∃ lengths, rig.runDeeds = lengths.map .tick ∧
      Watered P written lengths rig (run.run rig).2 := by
  by_cases hl : rig.simulator.hasTimeLeft = true
  · obtain ⟨k, last, ht, hlast, hd, -⟩ := run_tells hP h hl
    refine ⟨ht.not_aborted, _, hd, .of_tells ht ?_⟩
    have hn : last.filter Entry.tellsOfWater = [] := by
      rcases hlast with rfl | rfl
      · rfl
      · rw [List.filter_singleton, Motion.completeEntry_tellsOfWater, cond_false]
    rw [List.filter_cons, Motion.runningEntry_tellsOfWater, if_neg Bool.false_ne_true, List.filter_append,
      Motion.filter_entries, hn, List.append_nil]
  · rw [run_idle hl]
    exact ⟨by simp, [], if_neg hl, .idle h rfl rfl⟩

/-- A call that only asks for ticks tells of the water in those it takes. -/
theorem answer_watered (hP : Diary P) (h : P written rig.station) {call : Call α} (hc : call.ticks = true) :
    ((answer call).run rig).1 ≠ .aborted ∧ ∃ lengths, rig.deeds call = lengths.map .tick ∧
      Watered P written lengths rig ((answer call).run rig).2 := by
  cases call with
  | step elapsed =>
    exact ⟨(step_tells hP h elapsed).not_aborted, _, stepDeeds_eq elapsed, .of_step hP h elapsed⟩
  | stepNominal =>
    exact ⟨(step_tells hP h rig.simulator.setup.tickLength).not_aborted, _, stepDeeds_eq _,
      .of_step hP h rig.simulator.setup.tickLength⟩
  | run =>
    obtain ⟨ha, lengths, hd, hw⟩ := run_watered hP h
    refine ⟨mt (outcome_bind_pure _ _ rig).mp ha, lengths, hd, ?_⟩
    rw [answer, state_bind_pure]
    exact hw
  | addObserver observer =>
    cases observer <;> exact ⟨by simp [answer, addObserver, onSimulator], [], rfl, .idle h rfl rfl⟩
  | clearObservers => exact ⟨by simp [answer, clearObservers, onSimulator], [], rfl, .idle h rfl rfl⟩
  | _ => cases hc

/-- Calls that only ask for ticks are answered, and all they take tell of the water. -/
theorem after_watered (hP : Diary P) (h : P written rig.station) {calls : List (Call α)}
    (hc : ∀ call ∈ calls, call.ticks = true) :
    ∃ rig' lengths, rig.after calls = some rig' ∧ rig.chronicle calls = lengths.map .tick ∧
      ∃ told, P (written ++ told) rig'.station ∧
        rig'.simulator.motion = lengths.foldl Motion.ticked rig.simulator.motion ∧
        told.filter Entry.tellsOfWater =
          (rig.simulator.motion.passages lengths).filterMap Motion.crossing? := by
  induction calls generalizing rig written with
  | nil => exact ⟨rig, [], rfl, rfl, [], by rwa [List.append_nil], rfl, rfl⟩
  | cons call rest ih =>
    obtain ⟨hfirst, hrest⟩ := List.forall_mem_cons.mp hc
    obtain ⟨ha, lengths, hd, hm, told, hp, ht⟩ := answer_watered hP h hfirst
    obtain ⟨rig', later, hr, hch, told', hp', hm', ht'⟩ := ih hp hrest
    rw [hm] at hm' ht'
    refine ⟨rig', lengths ++ later, ?_, ?_, told ++ told', ?_, ?_, ?_⟩
    · rw [after_cons ha, hr]
    · rw [chronicle_cons ha, hd, hch, List.map_append]
    · rwa [← List.append_assoc]
    · rw [hm', List.foldl_append]
    · rw [List.filter_append, ht, ht', Motion.passages_append, List.filterMap_append]

/-- With sinks that never refuse, and the level of events accepted, calls that only ask for ticks leave in the
ledger an entry on the water for each tick that passes the surface, at the time after it, and for no other.
Entering and leaving take turns: what comes first is to enter just if the sphere was out of the water before,
and what comes last agrees with where it is now. Steps may be rejected, observers may complain, and motions
need not be finite. -/
theorem water_events_alternate (rig : Rig α) (hs : rig.station.service.Compliant)
    (he : rig.station.service.accepts .event = true) {calls : List (Call α)}
    (hc : ∀ call ∈ calls, call.ticks = true) :
    ∃ (rig' : Rig α) (accepted : List Entry) (lengths : List α), rig.after calls = some rig' ∧
      rig'.station.service.ledger = accepted.reverse ++ rig.station.service.ledger ∧
      rig.chronicle calls = lengths.map .tick ∧
      rig'.simulator.motion = lengths.foldl Motion.ticked rig.simulator.motion ∧
      let events := accepted.filter Entry.tellsOfWater
      events = (rig.simulator.motion.passages lengths).filterMap Motion.crossing? ∧
        (events.map (·.message)).IsChain (· ≠ ·) ∧
        (∀ e ∈ events.head?, e.message = Motion.waterText true ↔ rig.simulator.submerged = false) ∧
        ∀ e ∈ events.getLast?, e.message = Motion.waterText true ↔ rig'.simulator.submerged = true := by
  have hstart : Ledgered rig.station.service.threshold rig.station.service.ledger [] rig.station :=
    ⟨hs, rfl, rfl⟩
  obtain ⟨rig', lengths, hr, hch, told, ⟨-, -, hledger⟩, hm, ht⟩ :=
    after_watered (Ledgered.diary _ _) hstart hc
  obtain ⟨hchain, hhead, hlast⟩ := Motion.crossings_alternate rig.simulator.motion lengths
  rw [← hm] at hlast
  have hevents : (told.filter fun e => rig.station.service.threshold ≤ e.level).filter Entry.tellsOfWater =
      (rig.simulator.motion.passages lengths).filterMap Motion.crossing? := by
    rw [List.filter_comm, ht, List.filter_eq_self]
    intro e hm
    obtain ⟨passage, -, hp⟩ := List.mem_filterMap.mp hm
    rw [(Motion.crossing?_eq_some hp).2.1]
    exact he
  refine ⟨rig', _, lengths, hr, hledger, hch, hm, ?_⟩
  dsimp only
  rw [List.nil_append, hevents]
  refine ⟨rfl, hchain, fun e hm => ?_, fun e hm => ?_⟩
  · rw [hhead e hm, Motion.waterText_injective.eq_iff]
    exact iff_of_eq (Bool.not_eq_true' _)
  · rw [Option.mem_def.mp hm, Option.map_some, Option.getD_some] at hlast
    rw [hlast, Motion.waterText_injective.eq_iff]
    rfl

/-- Down into the water, a length that is rejected, and up again under an observer that complains, also of the
first tick of a run. -/
def plunge : List (Call Float) :=
  [.step 0.5, .step (-1.0), .addObserver (some (.failing 0)), .step 0.5, .run]

theorem plunge_events_alternate :
    ∃ rig, Simulator.launched (.standard : SimulatorSetup Float) {} = some rig ∧
      rig.station.service.Compliant ∧ rig.station.service.accepts .event = true ∧
      (∀ call ∈ plunge, call.ticks = true) ∧
      ∃ (rig' : Rig Float) (accepted : List Entry), rig.after plunge = some rig' ∧
        rig'.station.service.ledger = accepted.reverse ++ rig.station.service.ledger ∧
        ((accepted.filter Entry.tellsOfWater).map (·.message)).IsChain (· ≠ ·) ∧
        rig'.station.service.ledger.countP Entry.tellsOfWater = 2 := by
  have hm : (Simulator.launched (.standard : SimulatorSetup Float) {}).any (fun rig =>
      rig.station.service.accepts .event && (rig.after plunge).any
        (fun rig' => rig'.station.service.ledger.countP Entry.tellsOfWater == 2)) = true := by
    decide +kernel
  obtain ⟨rig, hr, hb⟩ := (Option.any_eq_true _ _).mp hm
  obtain ⟨he, hn⟩ := Bool.and_eq_true_iff.mp hb
  have hs := Simulator.compliant_of_create (Simulator.create_of_launched hr)
  have hc : ∀ call ∈ plunge, call.ticks = true := by
    simp [plunge, Call.ticks]
  obtain ⟨rig', accepted, lengths, ha, hl, -, -, -, hchain, -⟩ := water_events_alternate rig hs he hc
  rw [ha, Option.any_some] at hn
  exact ⟨rig, hr, hs, he, hc, rig', accepted, ha, hl, hchain, beq_iff_eq.mp hn⟩

end Rig
end Flotation
