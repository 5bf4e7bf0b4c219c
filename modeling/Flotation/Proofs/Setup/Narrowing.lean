import Flotation.Single
import Flotation.Proofs.Rounding.Doubles
import Flotation.Proofs.Setup.Building

/-! Scenes of singles, built from constants that are doubles. A constant that is looked at before it is narrowed may
be finite then and infinite afterwards. -/
namespace Flotation
open Float.Model Float.Model.UnpackedFloat Rounding

namespace Single

/-- The double is less than half a unit of the last place below the first power of two that singles do not have. -/
def Fits (x : Float) : Prop := |Double.value x| < 2 ^ (128 : ℤ) - 2 ^ (103 : ℤ)

theorem isFinite_ofDouble_iff {x : Float} (hx : x.isFinite = true) : (ofDouble x).isFinite = true ↔ Fits x := by
  have hresult : Result Format.binary32 (Double.value x) (narrowed x.toModel.unpack) := by
    rcases Double.finite_cases hx with ⟨sign, hu⟩ | ⟨sign, m, e, hm, hu⟩ <;> rw [Double.value, hu]
    · exact ⟨trivial, rfl, .zero⟩
    · exact round_result sign hm.ne' e
  have hiff : |Rounding.value (narrowed x.toModel.unpack)| < 2 ^ bound Format.binary32 ↔ Fits x := by
    have hhalf := two_zpow_eq_two_mul 104
    have h := hresult.rounds.abs_lt_two_zpow_iff (e := 128) (by decide)
    rw [show (128 : ℤ) - Format.binary32.mantissaBits = 104 from rfl, hhalf,
      mul_div_cancel_left₀ _ two_ne_zero] at h
    exact h
  have hunpack : (ofDouble x).isFinite =
      (UnpackedFloat.unpack Format.binary32
        (UnpackedFloat.pack Format.binary32 (narrowed x.toModel.unpack))).isFinite := rfl
  rw [← hiff, hunpack]
  rcases lt_or_ge |Rounding.value (narrowed x.toModel.unpack)| (2 ^ bound Format.binary32) with hlt | hge
  · rw [unpack_pack_of_lt (by decide) hresult.canonical hresult.finite hlt]
    exact iff_of_true hresult.finite hlt
  · rw [unpack_pack_of_ge (by decide) hresult.canonical hge]
    exact iff_of_false Bool.false_ne_true hge.not_gt

end Single

namespace SceneSetup

/-- A scene that is built has a radius, a mass and a density of the water that are positive and finite, for these are
looked at as they are in the scene. A scene of doubles is finite in all else, too. In a scene of singles height,
velocity and gravity are finite just if the doubles that they are made from do not exceed what singles reach to, for
it is the doubles that have been looked at. -/
theorem build_members (c : SceneSetup Float) :
    (∀ scene, c.build id = .ok scene →
      Scalar.IsPositive scene.sphere.radius ∧ Scalar.IsPositive scene.sphere.mass ∧
        Scalar.IsPositive scene.water.density ∧ scene.Finite) ∧
      ∀ scene, c.build Single.ofDouble = .ok scene →
        Scalar.IsPositive scene.sphere.radius ∧ Scalar.IsPositive scene.sphere.mass ∧
          Scalar.IsPositive scene.water.density ∧
          (Scalar.isFinite scene.sphere.height = true ↔ Single.Fits c.sphere.initialHeight) ∧
          (Scalar.isFinite scene.sphere.velocity = true ↔ Single.Fits c.sphere.initialVelocity) ∧
          (Scalar.isFinite scene.gravity = true ↔ Single.Fits c.gravity) := by
  refine ⟨fun scene h => ⟨scene.sphere.radius_positive, scene.sphere.mass_positive, scene.water.density_positive,
    build_finite h⟩, fun scene h => ⟨scene.sphere.radius_positive, scene.sphere.mass_positive,
    scene.water.density_positive, ?_⟩⟩
  obtain ⟨hsphere, -, hgravity⟩ := build_eq_ok h
  obtain ⟨-, -, hheight, hvelocity⟩ := SphereSetup.build_eq_ok hsphere
  obtain ⟨-, -, hh, hv⟩ := SphereSetup.issues_eq_nil.mp (SphereSetup.issues_of_build hsphere)
  rw [hheight, hvelocity, hgravity]
  exact ⟨Single.isFinite_ofDouble_iff hh, Single.isFinite_ofDouble_iff hv,
    Single.isFinite_ofDouble_iff (gravity_of_build h)⟩

theorem standard_members :
    ∃ fine coarse, (standard : SceneSetup Float).build id = .ok fine ∧
      (standard : SceneSetup Float).build Single.ofDouble = .ok coarse ∧
      Scalar.IsPositive fine.sphere.mass ∧ fine.Finite ∧ Scalar.IsPositive coarse.sphere.mass ∧
      Single.Fits 9.81 := by
  have hf : ((standard : SceneSetup Float).build id).toOption.any (fun _ => true) = true := by decide +kernel
  have hc : ((standard : SceneSetup Float).build Single.ofDouble).toOption.any
      (fun scene => Scalar.isFinite scene.gravity) = true := by decide +kernel
  obtain ⟨fine, hfine, -⟩ := build_of_any hf
  obtain ⟨coarse, hcoarse, hg⟩ := build_converted_of_any hc
  obtain ⟨hdoubles, hsingles⟩ := build_members standard
  obtain ⟨-, hmass, -, hfinite⟩ := hdoubles fine hfine
  obtain ⟨-, hcmass, -, -, -, hgravity⟩ := hsingles coarse hcoarse
  exact ⟨fine, coarse, hfine, hcoarse, hmass, hfinite, hcmass, hgravity.mp hg⟩

/-- Gravity that is too strong for singles, and for nothing else. -/
def crushing : SceneSetup Float := { standard with gravity := 1e39 }

theorem crushing_gravity_infinite :
    crushing.issues = [] ∧
      ∃ scene, crushing.build Single.ofDouble = .ok scene ∧ ¬ Scalar.isFinite scene.gravity = true := by
  have hc : (crushing.build Single.ofDouble).toOption.any
      (fun scene => !Scalar.isFinite scene.gravity) = true := by decide +kernel
  obtain ⟨scene, hb, hg⟩ := build_converted_of_any hc
  exact ⟨by decide +kernel, scene, hb, by simpa using hg⟩

end SceneSetup
end Flotation
