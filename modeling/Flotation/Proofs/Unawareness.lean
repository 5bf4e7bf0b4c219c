import Flotation.Proofs.Conduct

/-! Unawareness. Something is added to the state, and an action that does not know of it neither uses it nor
moves it. -/
namespace Flotation.Action
variable {σ τ α β ν ω : Type}

/-- Where the view is fine, the action ends the same way with the addition and without it, and leaves the
addition as it was. It never aborts, and it keeps the view. -/
def Unaware (add : σ → σ) (view : σ → ν) (fine : ν → Prop) (x : Action σ α) : Prop :=
  ∀ s, fine (view s) →
    (x.run s).1 ≠ .aborted ∧ view (x.run s).2 = view s ∧ x.run (add s) = ((x.run s).1, add (x.run s).2)

/-- To see that an addition is left alone one may look at what the first of two actions has come to. -/
theorem run_bind_add {add : σ → σ} {x : Action σ α} {f : α → Action σ β} {s : σ}
    (hx : x.run (add s) = ((x.run s).1, add (x.run s).2))
    (hf : ∀ a t, x.run s = (.returned a, t) → (f a).run (add t) = (((f a).run t).1, add ((f a).run t).2)) :
    (x >>= f).run (add s) = (((x >>= f).run s).1, add ((x >>= f).run s).2) := by
  rw [run_bind, run_bind, hx]
  rcases hr : x.run s with ⟨a | failure | _, t⟩
  · exact hf a t hr
  · rfl
  · rfl

namespace Unaware
variable {add : σ → σ} {view : σ → ν} {fine : ν → Prop}

theorem pure (a : α) : Unaware add view fine (Pure.pure a : Action σ α) := fun _ _ => ⟨nofun, rfl, rfl⟩

theorem raise (failure : Failure) : Unaware add view fine (Action.raise failure : Action σ α) :=
  fun _ _ => ⟨nofun, rfl, rfl⟩

theorem update {f : σ → σ} (hv : ∀ s, view (f s) = view s) (ha : ∀ s, f (add s) = add (f s)) :
    Unaware add view fine (Action.update f) := fun s _ => ⟨nofun, hv s, Prod.ext rfl (ha s)⟩

theorem bind {x : Action σ α} {f : α → Action σ β} (hx : Unaware add view fine x)
    (hf : ∀ a, Unaware add view fine (f a)) : Unaware add view fine (x >>= f) := by
  intro s h
  obtain ⟨hn, hv, ha⟩ := hx s h
  rw [run_bind, run_bind, ha]
  rcases hr : x.run s with ⟨a | failure | _, t⟩ <;> rw [hr] at hn hv
  · rw [← hv] at h ⊢
    exact hf a t h
  · exact ⟨nofun, hv, rfl⟩
  · exact absurd rfl hn

/-- What is read may have the addition in it, as long as nothing comes of it. -/
theorem reading {f : σ → β} {k : β → Action σ α} (hk : ∀ b, Unaware add view fine (k b))
    (ha : ∀ s, k (f (add s)) = k (f s)) : Unaware add view fine (Action.read f >>= k) := by
  intro s h
  rw [run_bind_returned (run_read f s), run_bind_returned (run_read f (add s)), ha]
  exact hk (f s) s h

theorem read {f : σ → α} (ha : ∀ s, f (add s) = f s) : Unaware add view fine (Action.read f) :=
  fun s _ => ⟨nofun, rfl, Prod.ext (congrArg Outcome.returned (ha s)) rfl⟩

theorem times {x : Action σ Unit} (hx : Unaware add view fine x) (n : Nat) :
    Unaware add view fine (Action.times x n) := by
  induction n with
  | zero => exact pure ()
  | succ n ih => exact bind hx fun _ => ih

/-- A closing action has to return. -/
theorem closing {x : Action σ α} {c : Action σ Unit} (hx : Unaware add view fine x)
    (hc : Unaware add view fine c) (hr : ∀ s, fine (view s) → (c.run s).1 = .returned ()) :
    Unaware add view fine (x.closing c) := by
  intro s h
  obtain ⟨hn, hv, ha⟩ := hx s h
  obtain ⟨-, cv, ca⟩ := hc (x.run s).2 (hv ▸ h)
  have cr := hr (x.run s).2 (hv ▸ h)
  have hs := closing_run hn (Prod.ext cr rfl)
  have hadd : (x.closing c).run (add s) = ((x.run (add s)).1, add (c.run (x.run s).2).2) := by
    refine closing_run ?_ ?_
    · rw [ha]
      exact hn
    · rw [ha, ca, cr]
  rw [hs, hadd, ha]
  exact ⟨hn, cv.trans hv, rfl⟩

/-- An action on a part is unaware of what is added to the whole if it is unaware of what that adds to the
part. -/
theorem onPart {part : σ → τ} {put : τ → σ → σ} {add' : τ → τ} {view' : τ → ω} {fine' : ω → Prop}
    {x : Action τ α} (hx : Unaware add' view' fine' x) (hf : ∀ s, fine (view s) → fine' (view' (part s)))
    (hv : ∀ s t, view' t = view' (part s) → view (put t s) = view s)
    (hp : ∀ s, part (add s) = add' (part s)) (ha : ∀ s t, put (add' t) (add s) = add (put t s)) :
    Unaware add view fine (Action.onPart part put x) := by
  intro s h
  obtain ⟨xn, xv, xa⟩ := hx (part s) (hf s h)
  rw [run_onPart, run_onPart, hp, xa]
  exact ⟨xn, hv _ _ xv, Prod.ext rfl (ha _ _)⟩

end Unaware
end Flotation.Action
