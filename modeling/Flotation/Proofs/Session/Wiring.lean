import Flotation.Proofs.Session.Moves
import Flotation.Proofs.Session.Relics
import Flotation.Proofs.Simulator.Telling

/-! The wiring of a session: which sinks the services have, and which simulators are there to own them. -/
namespace Flotation
open Flotation.Action Simulator

/-- The number of consoles that simulators have put up, the number that the simulator of a name goes by, and
the sinks of each service. -/
structure Wiring where
  serials : Nat
  alive : String → Option Nat
  lineup : String → List (Sink × Level)

namespace Wiring
variable {w : Wiring} {name : String} {serial : Nat} {lineup : List (Sink × Level)}

/-- The simulator with the number was there once and is no longer. -/
def Gone (w : Wiring) (serial : Nat) : Prop := serial < w.serials ∧ ∀ name, w.alive name ≠ some serial

/-- No sink refuses anything. Those that go to the console of a simulator are at the shared service, and the
simulator is there. No two simulators go by one number. -/
structure Sound (w : Wiring) : Prop where
  willing : ∀ name, ∀ place ∈ w.lineup name, ∀ received, place.1.refusal received = none
  manned : ∀ name, ∀ place ∈ w.lineup name, ∀ serial, place.1.target = .console (consoleId serial) →
    name = Session.sharedService ∧ ∃ holder, w.alive holder = some serial
  numbered : ∀ name serial, w.alive name = some serial → serial < w.serials
  distinct : ∀ name other serial, w.alive name = some serial → w.alive other = some serial → name = other

/-- The service of a name has other sinks. -/
def refit (w : Wiring) (name : String) (lineup : List (Sink × Level)) : Wiring :=
  { w with lineup := fun other => if other = name then lineup else w.lineup other }

/-- There is another simulator of the name, or none. -/
def staff (w : Wiring) (name : String) (serial : Option Nat) : Wiring :=
  { w with alive := fun other => if other = name then serial else w.alive other }

/-- One more console has been put up. -/
def next (w : Wiring) : Wiring := { w with serials := w.serials + 1 }

/-- A new simulator of the name takes the shared service over. -/
def arrive (w : Wiring) (name : String) (lineup : List (Sink × Level)) : Wiring :=
  ((w.refit Session.sharedService []).next.staff name (some w.serials)).refit Session.sharedService lineup

/-- The simulator of the name goes, and all sinks of the shared service go with it. -/
def depart (w : Wiring) (name : String) : Wiring := (w.refit Session.sharedService []).staff name none

theorem lineup_refit_self (w : Wiring) (name : String) (lineup : List (Sink × Level)) :
    (w.refit name lineup).lineup name = lineup := if_pos rfl

theorem refit_self (w : Wiring) (name : String) : w.refit name (w.lineup name) = w := by
  have h (other : String) : (w.refit name (w.lineup name)).lineup other = w.lineup other := by
    rw [refit]
    dsimp only
    split
    · rename_i ho
      rw [ho]
    · rfl
  exact congrArg (Wiring.mk _ _) (funext h)

theorem staff_self (w : Wiring) (name : String) : w.staff name (w.alive name) = w := by
  have h (other : String) : (w.staff name (w.alive name)).alive other = w.alive other := by
    rw [staff]
    dsimp only
    split
    · rename_i ho
      rw [ho]
    · rfl
  exact congrArg (Wiring.mk _ · _) (funext h)

namespace Sound

/-- A simulator that is not there has no sink. -/
theorem spares (h : w.Sound) (hs : ∀ holder, w.alive holder ≠ some serial) (name : String) :
    Spares serial (w.lineup name) := by
  intro place hm
  refine ⟨h.willing name place hm, fun ht => ?_⟩
  obtain ⟨-, holder, ha⟩ := h.manned name place hm serial ht
  exact hs holder ha

/-- Nor has one that is still to come. -/
theorem spares_next (h : w.Sound) (name : String) : Spares w.serials (w.lineup name) :=
  h.spares (fun holder ha => Nat.lt_irrefl _ (h.numbered holder _ ha)) name

theorem refit (h : w.Sound) (hw : ∀ place ∈ lineup, ∀ received, place.1.refusal received = none)
    (hm : ∀ place ∈ lineup, ∀ serial, place.1.target = .console (consoleId serial) →
      name = Session.sharedService ∧ ∃ holder, w.alive holder = some serial) :
    (w.refit name lineup).Sound := by
  refine ⟨fun other place hp => ?_, fun other place hp => ?_, h.numbered, h.distinct⟩ <;>
    dsimp only [Wiring.refit] at hp <;> split_ifs at hp with ho
  · exact hw place hp
  · exact h.willing other place hp
  · rw [ho]
    exact hm place hp
  · exact h.manned other place hp

/-- Without sinks at the shared service simulators can come and go, as long as each has a number of its
own. -/
theorem staff (h : w.Sound) (hn : w.lineup Session.sharedService = []) {serial : Option Nat}
    (hs : ∀ n ∈ serial, n < w.serials ∧ ∀ holder, w.alive holder ≠ some n) : (w.staff name serial).Sound := by
  have halive {other : String} {n : Nat} (ha : (w.staff name serial).alive other = some n) :
      other = name ∧ serial = some n ∨ w.alive other = some n := by
    dsimp only [Wiring.staff] at ha
    split_ifs at ha with ho
    · exact .inl ⟨ho, ha⟩
    · exact .inr ha
  refine ⟨h.willing, fun other place hp n ht => ?_, fun other n ha => ?_, fun first second n hf hl => ?_⟩
  · obtain ⟨rfl, -⟩ := h.manned other place hp n ht
    rw [Wiring.staff, hn] at hp
    cases hp
  · rcases halive ha with ⟨-, he⟩ | ha
    · exact (hs n he).1
    · exact h.numbered other n ha
  · rcases halive hf with ⟨ho, he⟩ | ha <;> rcases halive hl with ⟨ho', he'⟩ | ha'
    · exact ho.trans ho'.symm
    · exact absurd ha' ((hs n he).2 second)
    · exact absurd ha ((hs n he').2 first)
    · exact h.distinct first second n ha ha'

theorem bare (h : w.Sound) : (w.refit name []).Sound := h.refit nofun nofun

theorem arrive (h : w.Sound) (name : String) (settings : LogSettings) :
    (w.arrive name (ownPlaces settings w.serials)).Sound := by
  have hb : (w.refit Session.sharedService []).next.Sound := by
    obtain ⟨hw, hm, hn, hd⟩ : (w.refit Session.sharedService []).Sound := h.bare
    exact ⟨hw, hm, fun holder serial ha => Nat.lt_succ_of_lt (hn holder serial ha), hd⟩
  refine Sound.refit (hb.staff (lineup_refit_self w Session.sharedService []) ?_)
    (fun place hp => (own_place hp).1) fun place hp serial ht => ?_
  · rintro n ⟨⟩
    exact ⟨Nat.lt_succ_self _, fun holder ha => Nat.lt_irrefl _ (h.numbered holder _ ha)⟩
  · rw [(own_place hp).2 serial ht]
    exact ⟨rfl, name, if_pos rfl⟩

theorem depart (h : w.Sound) (name : String) : (w.depart name).Sound :=
  h.bare.staff (lineup_refit_self w _ []) nofun

/-- What departs is gone, for nobody else has its number. -/
theorem gone_depart (h : w.Sound) (ha : w.alive name = some serial) : (w.depart name).Gone serial := by
  refine ⟨h.numbered name serial ha, fun other hs => ?_⟩
  dsimp only [Wiring.depart, Wiring.staff] at hs
  split_ifs at hs with ho
  exact ho (h.distinct other name serial hs ha)

end Sound

namespace Gone

theorem refit (h : w.Gone serial) (name : String) (lineup : List (Sink × Level)) :
    (w.refit name lineup).Gone serial := h

theorem arrive (h : w.Gone serial) (name : String) (lineup : List (Sink × Level)) :
    (w.arrive name lineup).Gone serial := by
  refine ⟨Nat.lt_succ_of_lt h.1, fun other ha => ?_⟩
  dsimp only [Wiring.arrive, Wiring.staff, Wiring.refit, Wiring.next] at ha
  split_ifs at ha
  · exact Nat.ne_of_gt h.1 (Option.some.inj ha)
  · exact h.2 other ha

theorem depart (h : w.Gone serial) (name : String) : (w.depart name).Gone serial := by
  refine ⟨h.1, fun other ha => ?_⟩
  dsimp only [Wiring.depart, Wiring.staff, Wiring.refit] at ha
  split_ifs at ha
  exact h.2 other ha

end Gone
end Wiring
end Flotation
