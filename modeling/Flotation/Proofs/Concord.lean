import Flotation.Action

/-! Concord of actions that start out alike: unless a sink complains on one side, they end alike on both. -/
namespace Flotation

/-- No sink has complained: the end is regular, or a fault found by the library. -/
def Outcome.calm {α : Type} : Outcome α → Bool
  | .returned _ | .raised (.fault _) => true
  | .raised (.sink _) | .aborted => false

theorem Outcome.calm_raised {α β : Type} (failure : Failure) :
    (Outcome.raised failure : Outcome α).calm = (Outcome.raised failure : Outcome β).calm := by
  cases failure <;> rfl

namespace Action
variable {σ τ α β : Type}

theorem calm_of_bind {x : Action σ α} {f : α → Action σ β} {s : σ} (h : ((x >>= f).run s).1.calm = true) :
    (x.run s).1.calm = true := by
  rw [run_bind] at h
  rcases hx : x.run s with ⟨a | (fault | reason) | _, t⟩ <;> rw [hx] at h
  · rfl
  · rfl
  · cases h
  · cases h

theorem state_bind_pure (x : Action σ α) (f : α → β) (s : σ) :
    ((x >>= fun a => pure (f a)).run s).2 = (x.run s).2 := by
  rw [run_bind]
  rcases x.run s with ⟨_ | _ | _, t⟩ <;> rfl

theorem outcome_bind_pure (x : Action σ α) (f : α → β) (s : σ) :
    ((x >>= fun a => pure (f a)).run s).1 = .aborted ↔ (x.run s).1 = .aborted := by
  rw [run_bind]
  rcases x.run s with ⟨_ | _ | _, t⟩ <;> simp

theorem times_one (x : Action σ Unit) : times x 1 = x := bind_pure_unit

/-- A closing action that does not return is never calm. -/
theorem run_of_closing_calm {body : Action σ α} {close : Action σ Unit} {s : σ}
    (h : ((body.closing close).run s).1.calm = true) :
    (body.run s).1.calm = true ∧
      (body.closing close).run s = ((body.run s).1, (close.run (body.run s).2).2) := by
  rcases hb : body.run s with ⟨outcome, t⟩
  rcases hc : close.run t with ⟨_ | _ | _, u⟩ <;> cases outcome <;> simp only [closing, hb, hc] at h ⊢
  all_goals first | exact ⟨h, trivial⟩ | cases h

/-- It is only sinks that keep the action from returning. -/
def Faultless (x : Action σ α) : Prop :=
  ∀ s, (x.run s).1.calm = true → ∃ a, (x.run s).1 = .returned a

namespace Faultless

theorem pure (a : α) : Faultless (Pure.pure a : Action σ α) := fun _ _ => ⟨a, rfl⟩

theorem read (f : σ → α) : Faultless (Action.read f) := fun s _ => ⟨f s, rfl⟩

theorem update (f : σ → σ) : Faultless (Action.update f) := fun _ _ => ⟨(), rfl⟩

theorem bind {x : Action σ α} {f : α → Action σ β} (hx : Faultless x) (hf : ∀ a, Faultless (f a)) :
    Faultless (x >>= f) := by
  intro s h
  obtain ⟨a, ha⟩ := hx s (calm_of_bind h)
  rcases hr : x.run s with ⟨outcome, t⟩
  rw [hr] at ha
  change outcome = _ at ha
  subst ha
  rw [run_bind_returned hr] at h ⊢
  exact hf a t h

theorem onPart {part : σ → τ} {put : τ → σ → σ} {x : Action τ α} (hx : Faultless x) :
    Faultless (Action.onPart part put x) := fun s => hx (part s)

theorem closing {body : Action σ α} {close : Action σ Unit} (hb : Faultless body) :
    Faultless (body.closing close) := by
  intro s h
  obtain ⟨hc, hr⟩ := run_of_closing_calm h
  rw [hr]
  exact hb s hc

end Faultless

/-- Two ends of actions on related states. -/
def Concur (R : σ → τ → Prop) (p : Outcome α × σ) (q : Outcome α × τ) : Prop :=
  p.1.calm = true → q.1.calm = true → p.1 = q.1 ∧ R p.2 q.2

namespace Concur
variable {R : σ → τ → Prop} {s : σ} {t : τ}

theorem alike {outcome : Outcome α} (h : R s t) : Concur R (outcome, s) (outcome, t) := fun _ _ => ⟨rfl, h⟩

theorem bind {x : Action σ α} {y : Action τ α} {f : α → Action σ β} {g : α → Action τ β}
    (h : Concur R (x.run s) (y.run t)) (hf : ∀ a s t, R s t → Concur R ((f a).run s) ((g a).run t)) :
    Concur R ((x >>= f).run s) ((y >>= g).run t) := by
  intro hx hy
  obtain ⟨ho, hr⟩ := h (calm_of_bind hx) (calm_of_bind hy)
  rw [run_bind] at hx hy ⊢
  rw [run_bind]
  rcases hxs : x.run s with ⟨a | failure | _, s'⟩ <;> rcases hyt : y.run t with ⟨b | other | _, t'⟩ <;>
    rw [hxs] at ho hr hx <;> rw [hyt] at ho hr hy <;> cases ho
  · exact hf a s' t' hr hx hy
  · exact ⟨rfl, hr⟩
  · cases hx

/-- Actions without a fault of their own concur, whatever else sets them apart. -/
theorem of_faultless {x : Action σ Unit} {y : Action τ Unit} (hx : Faultless x) (hy : Faultless y)
    (hr : R (x.run s).2 (y.run t).2) : Concur R (x.run s) (y.run t) := by
  intro cx cy
  obtain ⟨_, ha⟩ := hx s cx
  obtain ⟨_, hb⟩ := hy t cy
  exact ⟨ha.trans hb.symm, hr⟩

theorem times {x : Action σ Unit} {y : Action τ Unit} (h : ∀ s t, R s t → Concur R (x.run s) (y.run t))
    (n : Nat) (hr : R s t) : Concur R ((Action.times x n).run s) ((Action.times y n).run t) := by
  induction n generalizing s t with
  | zero => exact alike hr
  | succ n ih => exact bind (h s t hr) fun _ _ _ hr => ih hr

theorem closing {x : Action σ α} {y : Action τ α} {c : Action σ Unit} {d : Action τ Unit}
    (h : Concur R (x.run s) (y.run t)) (hc : ∀ s t, R s t → R (c.run s).2 (d.run t).2) :
    Concur R ((x.closing c).run s) ((y.closing d).run t) := by
  intro hx hy
  obtain ⟨cx, ex⟩ := run_of_closing_calm hx
  obtain ⟨cy, ey⟩ := run_of_closing_calm hy
  obtain ⟨ho, hr⟩ := h cx cy
  rw [ex, ey]
  exact ⟨ho, hc _ _ hr⟩

end Concur
end Action
end Flotation
