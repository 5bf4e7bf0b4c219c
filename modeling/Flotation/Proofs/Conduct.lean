import Flotation.Action

/-! The conduct of actions, whether they return or raise: what an action keeps of its state, and
when two results tally. Both rule an abortion out, so that a closing action is sure to run. -/
namespace Flotation.Action
variable {σ τ α β ν ω : Type}

/-- The action never aborts, and it keeps this view of the state. -/
def Keeps (view : σ → ν) (x : Action σ α) : Prop :=
  ∀ s, (x.run s).1 ≠ .aborted ∧ view (x.run s).2 = view s

namespace Keeps
variable {view : σ → ν}

theorem pure (a : α) : Keeps view (Pure.pure a : Action σ α) := by
  intro s
  exact ⟨by simp, rfl⟩

theorem read (f : σ → α) : Keeps view (Action.read f) := by
  intro s
  exact ⟨by simp, rfl⟩

theorem raise (failure : Failure) : Keeps view (Action.raise failure : Action σ α) := by
  intro s
  exact ⟨by simp, rfl⟩

theorem update {f : σ → σ} (h : ∀ s, view (f s) = view s) : Keeps view (Action.update f) := by
  intro s
  exact ⟨by simp, h s⟩

theorem bind {x : Action σ α} {f : α → Action σ β} (hx : Keeps view x)
    (hf : ∀ a, Keeps view (f a)) : Keeps view (x >>= f) := by
  intro s
  have hs := hx s
  rw [run_bind]
  rcases he : x.run s with ⟨a | failure | _, t⟩ <;> rw [he] at hs
  · exact ⟨(hf a t).1, (hf a t).2.trans hs.2⟩
  · exact ⟨by simp, hs.2⟩
  · exact absurd rfl hs.1

theorem times {x : Action σ Unit} (hx : Keeps view x) (n : Nat) : Keeps view (Action.times x n) := by
  induction n with
  | zero => exact pure ()
  | succ n ih => exact bind hx fun _ => ih

/-- With a view, everything is kept that can be told from it. -/
theorem mono {x : Action σ α} (hx : Keeps view x) (f : ν → ω) : Keeps (fun s => f (view s)) x := by
  intro s
  exact ⟨(hx s).1, congrArg f (hx s).2⟩

/-- An action on a part keeps what depends on a kept view of that part. -/
theorem onPart {part : σ → τ} {put : τ → σ → σ} {x : Action τ α} {inner : τ → ω}
    (hx : Keeps inner x) (h : ∀ s t, inner t = inner (part s) → view (put t s) = view s) :
    Keeps view (Action.onPart part put x) := by
  intro s
  rw [run_onPart]
  exact ⟨(hx (part s)).1, h s _ (hx (part s)).2⟩

end Keeps

/-- The action leaves this view of the state alone, however it ends. -/
def Leaves (view : σ → ν) (x : Action σ α) : Prop := ∀ s, view (x.run s).2 = view s

theorem Keeps.leaves {view : σ → ν} {x : Action σ α} (hx : Keeps view x) : Leaves view x := fun s => (hx s).2

namespace Leaves
variable {view : σ → ν}

theorem pure (a : α) : Leaves view (Pure.pure a : Action σ α) := fun _ => rfl

theorem read (f : σ → α) : Leaves view (Action.read f) := fun _ => rfl

theorem raise (failure : Failure) : Leaves view (Action.raise failure : Action σ α) := fun _ => rfl

theorem update {f : σ → σ} (h : ∀ s, view (f s) = view s) : Leaves view (Action.update f) := h

theorem bind {x : Action σ α} {f : α → Action σ β} (hx : Leaves view x) (hf : ∀ a, Leaves view (f a)) :
    Leaves view (x >>= f) := by
  intro s
  have hs := hx s
  rw [run_bind]
  rcases he : x.run s with ⟨a | failure | _, t⟩ <;> rw [he] at hs
  · exact (hf a t).trans hs
  · exact hs
  · exact hs

theorem times {x : Action σ Unit} (hx : Leaves view x) (n : Nat) : Leaves view (Action.times x n) := by
  induction n with
  | zero => exact pure ()
  | succ n ih => exact bind hx fun _ => ih

theorem onPart {part : σ → τ} {put : τ → σ → σ} {x : Action τ α} (h : ∀ s t, view (put t s) = view s) :
    Leaves view (Action.onPart part put x) := fun s => h s _

end Leaves

/-- Nothing but this value is ever returned. -/
def Returns (a : α) (x : Action σ α) : Prop := ∀ s b t, x.run s = (.returned b, t) → b = a

theorem Returns.pure (a : α) : Returns a (Pure.pure a : Action σ α) := by
  intro s b t h
  cases h
  rfl

theorem Returns.bind {x : Action σ α} {f : α → Action σ β} {b : β} (hf : ∀ a, Returns b (f a)) :
    Returns b (x >>= f) := by
  intro s c u h
  rw [run_bind] at h
  rcases hx : x.run s with ⟨a | failure | _, t⟩ <;> rw [hx] at h
  · exact hf a t c u h
  · cases h
  · cases h

theorem bind_aborts {x : Action σ α} {f : α → Action σ β} {s : σ} (h : (x.run s).1 = .aborted) :
    ((x >>= f).run s).1 = .aborted := by
  rw [run_bind_aborted (Prod.ext h rfl)]

/-- What never aborts itself leaves it to what comes before. -/
theorem bind_aborts_iff {x : Action σ α} {f : α → Action σ β} {s : σ}
    (hf : ∀ a t, ((f a).run t).1 ≠ .aborted) : ((x >>= f).run s).1 = .aborted ↔ (x.run s).1 = .aborted := by
  rw [run_bind]
  rcases x.run s with ⟨a | _ | _, t⟩
  · exact iff_of_false (hf a t) (by simp)
  · simp
  · exact iff_of_true rfl rfl

theorem closing_returned {body : Action σ α} {close : Action σ Unit} {s t u : σ} {a : α}
    (hb : body.run s = (.returned a, t)) (hc : close.run t = (.returned (), u)) :
    (body.closing close).run s = (.returned a, u) := by
  simp only [closing, hb, hc]

/-- A closing action that returns leaves the outcome to the body. -/
theorem closing_run {body : Action σ α} {close : Action σ Unit} {s u : σ} (hb : (body.run s).1 ≠ .aborted)
    (hc : close.run (body.run s).2 = (.returned (), u)) : (body.closing close).run s = ((body.run s).1, u) := by
  rcases hr : body.run s with ⟨_ | _ | _, t⟩ <;> rw [hr] at hb hc
  · simp only [closing, hr, hc]
  · simp only [closing, hr, hc]
  · exact absurd rfl hb

/-- One that does not return aborts. -/
theorem closing_fails {body : Action σ α} {close : Action σ Unit} {s : σ} (hb : (body.run s).1 ≠ .aborted)
    (hc : (close.run (body.run s).2).1 ≠ .returned ()) :
    (body.closing close).run s = (.aborted, (close.run (body.run s).2).2) := by
  rcases hr : body.run s with ⟨_ | _ | _, t⟩ <;> rw [hr] at hb hc
  case aborted => exact absurd rfl hb
  all_goals
    rcases hcr : close.run t with ⟨_ | _ | _, u⟩ <;> rw [hcr] at hc
    · exact absurd rfl hc
    · simp only [closing, hr, hcr]
    · simp only [closing, hr, hcr]

/-- An aborted body is not closed. -/
theorem closing_aborted {body : Action σ α} {s : σ} (hb : (body.run s).1 = .aborted) (close : Action σ Unit) :
    (body.closing close).run s = (.aborted, (body.run s).2) := by
  rcases hr : body.run s with ⟨_ | _ | _, t⟩ <;> rw [hr] at hb
  · cases hb
  · cases hb
  · simp only [closing, hr]

theorem closing_state (body : Action σ α) (close : Action σ Unit) (s : σ) :
    ((body.closing close).run s).2 = (body.run s).2 ∨
      ((body.closing close).run s).2 = (close.run (body.run s).2).2 := by
  rcases hb : body.run s with ⟨_ | _ | _, t⟩
  · right
    rcases hc : close.run t with ⟨_ | _ | _, u⟩ <;> simp only [closing, hb, hc]
  · right
    rcases hc : close.run t with ⟨_ | _ | _, u⟩ <;> simp only [closing, hb, hc]
  · left
    simp only [closing, hb]

/-- Whether the closing action returns or not, it has been run. -/
theorem closing_leaves {body : Action σ α} {s : σ} (hb : (body.run s).1 ≠ .aborted) (close : Action σ Unit) :
    ((body.closing close).run s).2 = (close.run (body.run s).2).2 := by
  rcases hc : close.run (body.run s).2 with ⟨_ | _ | _, u⟩
  · rw [closing_run hb hc]
  · rw [closing_fails hb (by simp [hc]), hc]
  · rw [closing_fails hb (by simp [hc]), hc]

theorem closing_aborts_iff {body : Action σ α} {close : Action σ Unit} {s : σ} :
    ((body.closing close).run s).1 = .aborted ↔
      (body.run s).1 = .aborted ∨ (close.run (body.run s).2).1 ≠ .returned () := by
  by_cases hb : (body.run s).1 = .aborted
  · rw [closing_aborted hb]
    exact iff_of_true rfl (.inl hb)
  · by_cases hc : (close.run (body.run s).2).1 = .returned ()
    · rw [closing_run hb (Prod.ext hc rfl)]
      exact iff_of_false hb (not_or.mpr ⟨hb, fun hn => hn hc⟩)
    · rw [closing_fails hb hc]
      exact iff_of_true rfl (.inr hc)

theorem Leaves.closing {view : σ → ν} {body : Action σ α} {close : Action σ Unit} (hb : Leaves view body)
    (hc : Leaves view close) : Leaves view (body.closing close) := by
  intro s
  rcases closing_state body close s with h | h
  · rw [h]
    exact hb s
  · rw [h]
    exact (hc _).trans (hb s)

theorem closing_pure (body : Action σ α) : body.closing (pure ()) = body := by
  have h : ∀ s, (body.closing (pure ())).run s = body.run s := by
    intro s
    unfold closing
    rcases hb : body.run s with ⟨_ | _ | _, t⟩ <;> simp only [hb, run_pure]
  exact congrArg Action.mk (funext h)

/-- Two actions ended alike, neither by an abortion, and left related states. -/
structure Tally (R : σ → τ → Prop) (p : Outcome α × σ) (q : Outcome α × τ) : Prop where
  outcome_eq : p.1 = q.1
  not_aborted : p.1 ≠ .aborted
  related : R p.2 q.2

namespace Tally
variable {R S : σ → τ → Prop}

theorem returned {s : σ} {t : τ} (a : α) (h : R s t) :
    Tally R ((.returned a, s) : Outcome α × σ) (.returned a, t) :=
  ⟨rfl, by simp, h⟩

theorem raised {s : σ} {t : τ} (failure : Failure) (h : R s t) :
    Tally R ((.raised failure, s) : Outcome α × σ) (.raised failure, t) :=
  ⟨rfl, by simp, h⟩

theorem bind {x : Action σ α} {y : Action τ α} {f : α → Action σ β} {g : α → Action τ β}
    {s : σ} {t : τ} (h : Tally R (x.run s) (y.run t))
    (hf : ∀ a s t, R s t → Tally R ((f a).run s) ((g a).run t)) :
    Tally R ((x >>= f).run s) ((y >>= g).run t) := by
  obtain ⟨ho, hn, hr⟩ := h
  rw [run_bind, run_bind]
  rcases hx : x.run s with ⟨a | failure | _, s'⟩ <;> rcases hy : y.run t with ⟨b | other | _, t'⟩ <;>
    rw [hx, hy] at ho hr <;> cases ho
  · exact hf a s' t' hr
  · exact raised failure hr
  · exact absurd (congrArg Prod.fst hx) hn

theorem times {x : Action σ Unit} {y : Action τ Unit}
    (h : ∀ s t, R s t → Tally R (x.run s) (y.run t)) (n : Nat) {s : σ} {t : τ} (hr : R s t) :
    Tally R ((Action.times x n).run s) ((Action.times y n).run t) := by
  induction n generalizing s t with
  | zero => exact returned () hr
  | succ n ih => exact bind (h s t hr) fun _ _ _ hr => ih hr

/-- A closing action that returns on both sides keeps the outcomes of the bodies. -/
theorem closing {x : Action σ α} {y : Action τ α} {c : Action σ Unit} {d : Action τ Unit}
    {s : σ} {t : τ} (h : Tally R (x.run s) (y.run t))
    (hc : ∀ s t, R s t → ∃ s' t', c.run s = (.returned (), s') ∧ d.run t = (.returned (), t') ∧ S s' t') :
    Tally S ((x.closing c).run s) ((y.closing d).run t) := by
  obtain ⟨ho, hn, hr⟩ := h
  obtain ⟨s', t', hcs, hdt, hs⟩ := hc _ _ hr
  unfold Action.closing
  rcases hx : x.run s with ⟨a | failure | _, s₁⟩ <;> rcases hy : y.run t with ⟨b | other | _, t₁⟩ <;>
    rw [hx, hy] at ho <;> rw [hx] at hcs hn <;> rw [hy] at hdt <;> cases ho
  · simp only [hx, hy, hcs, hdt]
    exact returned a hs
  · simp only [hx, hy, hcs, hdt]
    exact raised failure hs
  · exact absurd rfl hn

end Tally
end Flotation.Action
