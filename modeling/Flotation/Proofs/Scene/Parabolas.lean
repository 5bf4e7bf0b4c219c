import Flotation.Proofs.Scene.Ramp

/-! Parabolas, over the rationals: as long as the sphere is all out of the water, or all in it, every tick gives it
the same acceleration, and its heights lie on a parabola of ticks. -/
namespace Flotation.Scene
variable {s : Scene Rat} {elapsed rate : Rat}

/-- A number of ticks of one length have one and the same acceleration and move the sphere along a parabola. It is
the new velocity that moves the sphere, so the last tick counts fully in the triangle that the heights gain. -/
structure OnParabola (s : Scene Rat) (elapsed rate : Rat) (n : Nat) : Prop where
  velocity_eq : (s.advances (List.replicate n elapsed)).sphere.velocity = s.sphere.velocity + n * rate * elapsed
  height_eq : (s.advances (List.replicate n elapsed)).sphere.height =
    s.sphere.height + n * s.sphere.velocity * elapsed + rate * elapsed ^ 2 * n * (n + 1) / 2
  accelerations_eq : ∀ tick ∈ s.course (List.replicate n elapsed), tick.acceleration = rate

theorem OnParabola.zero (s : Scene Rat) (elapsed rate : Rat) : s.OnParabola elapsed rate 0 where
  velocity_eq := by simp
  height_eq := by simp
  accelerations_eq := List.forall_mem_nil _

/-- One more tick of the same acceleration is one more step on the parabola. -/
theorem OnParabola.succ {n : Nat} (h : s.OnParabola elapsed rate n)
    (ha : ((s.advances (List.replicate n elapsed)).tick elapsed).acceleration = rate) :
    s.OnParabola elapsed rate (n + 1) := by
  have hv : (s.advances (List.replicate (n + 1) elapsed)).sphere.velocity =
      s.sphere.velocity + (n + 1) * rate * elapsed := by
    rw [List.replicate_succ', advances_concat, velocity_advance, tick_velocity, ha, h.velocity_eq]
    ring
  refine ⟨?_, ?_, ?_⟩
  · rw [hv, Nat.cast_succ]
  · rw [List.replicate_succ', advances_concat] at hv ⊢
    rw [height_advance, tick_height, ← velocity_advance, hv, h.height_eq, Nat.cast_succ]
    ring
  · rw [List.replicate_succ', course_concat, List.forall_mem_append, List.forall_mem_singleton]
    exact ⟨h.accelerations_eq, ha⟩

/-- Where the sphere is accelerated at one rate, it goes along a parabola as long as it starts its ticks there. -/
theorem onParabola_where {P : Rat → Prop} {n : Nat}
    (hrate : ∀ height velocity, P height → ((s.placed height velocity).tick elapsed).acceleration = rate)
    (h : ∀ k < n, P (s.advances (List.replicate k elapsed)).sphere.height) : s.OnParabola elapsed rate n := by
  induction n with
  | zero => exact .zero s elapsed rate
  | succ n ih =>
    have hbefore : s.OnParabola elapsed rate n := ih fun k hk => h k (Nat.lt_succ_of_lt hk)
    have hp := h n (Nat.lt_succ_self n)
    obtain ⟨height, velocity, he⟩ := s.advances_moves (List.replicate n elapsed)
    refine hbefore.succ ?_
    rw [he] at hp ⊢
    exact hrate height velocity hp

/-- Out of the water there is nothing but gravity. -/
theorem acceleration_above (h : s.sphere.radius ≤ s.sphere.height) (elapsed : Rat) :
    (s.tick elapsed).acceleration = -s.gravity := by
  rw [tick_acceleration, Sphere.submersion_above _ h]
  ring

/-- Under water the whole volume is carried. -/
theorem acceleration_below (h : s.sphere.height ≤ -s.sphere.radius) (elapsed : Rat) :
    (s.tick elapsed).acceleration =
      s.sphere.volume * s.water.density * s.gravity / s.sphere.mass - s.gravity := by
  have hm := s.sphere.mass_pos
  have hv := s.sphere.volume_pos
  have hw := s.water.density_pos
  rw [tick_acceleration, Sphere.submersion_below _ h, floatingRatio]
  field_simp

/-- A sphere that is out of the water at the start of each of some ticks of one length falls freely along a
parabola, and one that is under water at the start of each goes along another, whichever way gravity pulls and
whatever the length. Heights at which the sphere just touches the surface from above or below count. -/
theorem parabola_above_and_below (s : Scene Rat) (elapsed : Rat) (n : Nat) :
    ((∀ k < n, s.sphere.radius ≤ (s.advances (List.replicate k elapsed)).sphere.height) →
        s.OnParabola elapsed (-s.gravity) n) ∧
      ((∀ k < n, (s.advances (List.replicate k elapsed)).sphere.height ≤ -s.sphere.radius) →
        s.OnParabola elapsed (s.sphere.volume * s.water.density * s.gravity / s.sphere.mass - s.gravity) n) := by
  constructor
  · intro habove
    exact onParabola_where (P := (s.sphere.radius ≤ ·)) (fun _ _ h => acceleration_above h elapsed) habove
  · intro hbelow
    exact onParabola_where (P := (· ≤ -s.sphere.radius)) (fun _ _ h => acceleration_below h elapsed) hbelow

/-- A light sphere thrown up from where it touches the surface. -/
def tossed : Scene Rat where
  sphere :=
    { radius := 3, mass := Sphere.volumeOf 3 * 250, height := 3, velocity := 6
      radius_positive := by decide +kernel, mass_positive := by decide +kernel }
  water := .fresh
  gravity := 10

/-- It falls back into the water, and released deep under it, it comes up. -/
theorem tossed_parabolas :
    (∀ k < 12, tossed.sphere.radius ≤ (tossed.advances (List.replicate k 0.1)).sphere.height) ∧
      (tossed.advances (List.replicate 12 0.1)).sphere.height = 2.4 ∧
      (∀ k < 3,
        ((tossed.placed (-4) 0).advances (List.replicate k 0.1)).sphere.height ≤ -tossed.sphere.radius) ∧
      ((tossed.placed (-4) 0).advances (List.replicate 3 0.1)).sphere.velocity = 9 := by
  have habove : ∀ k < 12, tossed.sphere.radius ≤ (tossed.advances (List.replicate k 0.1)).sphere.height := by
    decide +kernel
  have hbelow : ∀ k < 3,
      ((tossed.placed (-4) 0).advances (List.replicate k 0.1)).sphere.height ≤ -tossed.sphere.radius := by
    decide +kernel
  have fall := (parabola_above_and_below tossed 0.1 12).1 habove
  have rise := (parabola_above_and_below (tossed.placed (-4) 0) 0.1 3).2 hbelow
  refine ⟨habove, ?_, hbelow, ?_⟩
  · rw [fall.height_eq]
    decide +kernel
  · rw [rise.velocity_eq]
    decide +kernel

end Flotation.Scene
