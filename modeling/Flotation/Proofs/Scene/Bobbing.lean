import Flotation.Proofs.Scene.Floating
import Mathlib.Algebra.Order.Ring.Abs

/-! Bobbing, over the rationals: on the ramp a tick is a step of a discrete oscillator around the height of
rest. What each such step keeps bounds the distance from that height, so a small swing stays on the ramp. -/
namespace Flotation.Scene
variable (s : Scene Rat)

/-- The loss of acceleration with every unit of height, on the ramp. -/
def stiffness : Rat := s.gravity / (2 * s.sphere.radius * s.floatingRatio)

def offset : Rat := s.sphere.height - s.restHeight

/-- A measure of the swing around the height of rest, for ticks of one length. -/
def swing (elapsed : Rat) : Rat :=
  s.sphere.velocity ^ 2 + s.stiffness * s.offset ^ 2 -
    s.stiffness * elapsed * s.offset * s.sphere.velocity

/-- The distance from the height of rest to the nearer end of the ramp. -/
def room : Rat := s.sphere.radius - |s.restHeight|

variable {s}

theorem stiffness_pos (hg : 0 < s.gravity) : 0 < s.stiffness :=
  div_pos hg (mul_pos (mul_pos two_pos s.sphere.radius_pos) s.floatingRatio_pos)

theorem tick_acceleration_on_ramp (hl : -s.sphere.radius ≤ s.sphere.height)
    (hu : s.sphere.height ≤ s.sphere.radius) (elapsed : Rat) :
    (s.tick elapsed).acceleration = -(s.stiffness * s.offset) := by
  have hr := s.sphere.radius_pos
  have hf := s.floatingRatio_pos
  rw [tick_acceleration, Sphere.submersion_between _ hl hu, stiffness, offset, restHeight]
  field_simp
  ring

/-- The new velocity is taken off the old offset, and the new offset off the new velocity: what the one loses
in the product with the other is what the squares gain. -/
theorem swing_advance (hl : -s.sphere.radius ≤ s.sphere.height) (hu : s.sphere.height ≤ s.sphere.radius)
    (elapsed : Rat) : (s.advance elapsed).swing elapsed = s.swing elapsed := by
  have hv : (s.advance elapsed).sphere.velocity =
      s.sphere.velocity - s.stiffness * s.offset * elapsed := by
    rw [velocity_advance, tick_velocity, tick_acceleration_on_ramp hl hu]
    ring
  have ho : (s.advance elapsed).offset = s.offset + (s.advance elapsed).sphere.velocity * elapsed := by
    change (s.tick elapsed).height - s.restHeight = _
    rw [tick_height, velocity_advance, offset]
    ring
  have hk : (s.advance elapsed).stiffness = s.stiffness := rfl
  rw [swing, ho, hv, hk, swing]
  ring

theorem swing_eq (elapsed : Rat) :
    s.swing elapsed = (s.sphere.velocity - s.stiffness * elapsed * s.offset / 2) ^ 2 +
      s.stiffness * (1 - s.stiffness * elapsed ^ 2 / 4) * s.offset ^ 2 := by
  rw [swing]
  ring

/-- The swing is small enough for the room there is. -/
def Contained (s : Scene Rat) (elapsed : Rat) : Prop :=
  s.swing elapsed ≤ s.stiffness * (1 - s.stiffness * elapsed ^ 2 / 4) * s.room ^ 2

theorem room_nonneg (h : s.floatingRatio ≤ 1) : 0 ≤ s.room :=
  sub_nonneg.mpr (abs_le.mpr ⟨neg_radius_le_restHeight h, restHeight_lt_radius.le⟩)

/-- With short ticks the swing bounds the offset. -/
theorem Contained.offset_le {elapsed : Rat} (h : s.Contained elapsed) (hg : 0 < s.gravity)
    (hf : s.floatingRatio ≤ 1) (hs : s.stiffness * elapsed ^ 2 < 4) : |s.offset| ≤ s.room := by
  have hc : 0 < s.stiffness * (1 - s.stiffness * elapsed ^ 2 / 4) :=
    mul_pos (stiffness_pos hg) (by linarith)
  rw [Contained, swing_eq] at h
  have hq := sq_nonneg (s.sphere.velocity - s.stiffness * elapsed * s.offset / 2)
  have hle : s.offset ^ 2 ≤ s.room ^ 2 := le_of_mul_le_mul_left (by linarith) hc
  exact abs_le_of_sq_le_sq hle (room_nonneg hf)

theorem on_ramp_of_offset_le (h : |s.offset| ≤ s.room) :
    -s.sphere.radius ≤ s.sphere.height ∧ s.sphere.height ≤ s.sphere.radius := by
  have ho := abs_le.mp h
  have hz := abs_le.mp (le_refl |s.restHeight|)
  rw [room, offset] at ho
  constructor
  · linarith
  · linarith

/-- A contained swing keeps the sphere on the ramp, and there the swing stays what it is. -/
theorem Contained.advances {elapsed : Rat} (h : s.Contained elapsed) (hg : 0 < s.gravity)
    (hf : s.floatingRatio ≤ 1) (hs : s.stiffness * elapsed ^ 2 < 4) (n : Nat) :
    |(s.advances (List.replicate n elapsed)).offset| ≤ s.room ∧
      (s.advances (List.replicate n elapsed)).swing elapsed = s.swing elapsed := by
  have ho := h.offset_le hg hf hs
  induction n generalizing s with
  | zero => exact ⟨ho, rfl⟩
  | succ n ih =>
    obtain ⟨hl, hu⟩ := on_ramp_of_offset_le ho
    have he := swing_advance hl hu elapsed
    have ha : (s.advance elapsed).Contained elapsed := he.trans_le h
    obtain ⟨hn, hw⟩ := ih ha hg hf hs (ha.offset_le hg hf hs)
    exact ⟨hn, hw.trans he⟩

/-- A floating sphere neither gains nor loses swing in a tick that starts on the ramp. If its swing is small
enough for the ramp and the ticks are short, it is never further from its height of rest than the nearer end
of the ramp, and so never leaves it. -/
theorem bobbing_keeps_swing (s : Scene Rat) (hg : 0 < s.gravity) (hf : s.floatingRatio < 1)
    (elapsed : Rat) :
    (-s.sphere.radius ≤ s.sphere.height → s.sphere.height ≤ s.sphere.radius →
        (s.advance elapsed).swing elapsed = s.swing elapsed) ∧
      (s.stiffness * elapsed ^ 2 < 4 →
        s.swing elapsed ≤ s.stiffness * (1 - s.stiffness * elapsed ^ 2 / 4) *
          (s.sphere.radius - |s.restHeight|) ^ 2 →
        ∀ n, |(s.advances (List.replicate n elapsed)).sphere.height - s.restHeight| ≤
            s.sphere.radius - |s.restHeight| ∧
          -s.sphere.radius ≤ (s.advances (List.replicate n elapsed)).sphere.height ∧
          (s.advances (List.replicate n elapsed)).sphere.height ≤ s.sphere.radius ∧
          (s.advances (List.replicate n elapsed)).swing elapsed = s.swing elapsed) := by
  refine ⟨fun hl hu => swing_advance hl hu elapsed, fun hs hc n => ?_⟩
  obtain ⟨ho, hw⟩ := Contained.advances hc hg hf.le hs n
  obtain ⟨height, velocity, he⟩ := s.advances_moves (List.replicate n elapsed)
  rw [he] at ho hw ⊢
  obtain ⟨hl, hu⟩ := on_ramp_of_offset_le ho
  exact ⟨ho, hl, hu, hw⟩

/-- A sphere of a quarter of the water's density, released above its height of rest and on its way up. -/
def gentle : Scene Rat where
  sphere :=
    { radius := 1, mass := Sphere.volumeOf 1 * 250, height := 0.8, velocity := 0.5
      radius_positive := by decide +kernel, mass_positive := by decide +kernel }
  water := .fresh
  gravity := 9.81

theorem gentle_bobbing_keeps_swing :
    0 < gentle.gravity ∧ gentle.floatingRatio < 1 ∧ gentle.restHeight = 1 / 2 ∧
      (gentle.advance 0.1).swing 0.1 = gentle.swing 0.1 ∧
      ∀ n, |(gentle.advances (List.replicate n 0.1)).sphere.height - 1 / 2| ≤ 1 / 2 := by
  have hg : 0 < gentle.gravity := by decide +kernel
  have hf : gentle.floatingRatio < 1 := by decide +kernel
  have hz : gentle.restHeight = 1 / 2 := by decide +kernel
  obtain ⟨hstep, hrun⟩ := bobbing_keeps_swing gentle hg hf 0.1
  refine ⟨hg, hf, hz, hstep (by decide +kernel) (by decide +kernel), fun n => ?_⟩
  obtain ⟨hn, _⟩ := hrun (by decide +kernel) (by decide +kernel) n
  have hroom : gentle.sphere.radius - |gentle.restHeight| = 1 / 2 := by decide +kernel
  rw [hroom, hz] at hn
  exact hn

end Flotation.Scene
