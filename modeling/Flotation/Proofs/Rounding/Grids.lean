import Flotation.Proofs.Rounding.Mantissas

/-! Numbers rounded to the digits of a format. The numbers that a format has lie on grids, each of them for the
numbers of one size; rounding goes to the nearest point, and never past one. -/
namespace Flotation.Rounding
open Float.Model Float.Model.UnpackedFloat
variable {S : Format} {x y r : ℚ} {n t : ℤ}

/-- The exponent of the last place that a number has in a format. -/
structure Place (S : Format) (x : ℚ) (t : ℤ) : Prop where
  least : S.minExponent ≤ t
  lt : |x| < 2 ^ (t + S.mantissaBits)
  le : t = S.minExponent ∨ 2 ^ (t + S.mantissaBits - 1) ≤ |x|

/-- The second is the first rounded to its last place. There is no greatest number yet. -/
def RoundsTo (S : Format) (x r : ℚ) : Prop := ∃ n t : ℤ, Place S x t ∧ Nearest (x / 2 ^ t) n ∧ r = n * 2 ^ t

/-- The number has no more digits than the format, and a power of two may be at the end of its grid. -/
def OnGrid (S : Format) (x : ℚ) : Prop :=
  ∃ n t : ℤ, S.minExponent ≤ t ∧ |(n : ℚ)| ≤ 2 ^ S.mantissaBits ∧ x = n * 2 ^ t

theorem two_zpow_pos (t : ℤ) : (0 : ℚ) < 2 ^ t := zpow_pos (by norm_num) t

theorem two_zpow_add (t : ℤ) (k : ℕ) : (2 : ℚ) ^ (t + k) = 2 ^ k * 2 ^ t := by
  rw [zpow_add₀ two_ne_zero, zpow_natCast, mul_comm]

theorem two_zpow_eq_two_mul (t : ℤ) : (2 : ℚ) ^ t = 2 * 2 ^ (t - 1) := by
  rw [← zpow_one_add₀ two_ne_zero]
  congr 1
  omega

theorem two_zpow_eq_mul (S : Format) (e : ℤ) : (2 : ℚ) ^ e = 2 ^ S.mantissaBits * 2 ^ (e - S.mantissaBits) := by
  rw [← two_zpow_add, sub_add_cancel]

theorem mantissaBits_pos (S : Format) : 0 < S.mantissaBits := Nat.add_pos_left one_pos _

theorem two_zpow_le_iff {s t : ℤ} : (2 : ℚ) ^ s ≤ 2 ^ t ↔ s ≤ t := zpow_le_zpow_iff_right₀ (by norm_num)

theorem two_zpow_lt_iff {s t : ℤ} : (2 : ℚ) ^ s < 2 ^ t ↔ s < t := zpow_lt_zpow_iff_right₀ (by norm_num)

/-- A whole number is no nearer than the nearest one. -/
theorem Nearest.nearer (h : Nearest x n) (m : ℤ) : |n - x| ≤ |(m : ℚ) - x| := by
  by_contra hlt
  have hm : |(m : ℚ) - x| < 1 / 2 := (not_le.mp hlt).trans_le h.near
  have hne : m ≠ n := by
    rintro rfl
    exact hlt le_rfl
  have hone : (1 : ℚ) ≤ |(m : ℚ) - n| := by exact_mod_cast Int.one_le_abs (sub_ne_zero.mpr hne)
  have htri := abs_sub_le (m : ℚ) x n
  rw [abs_sub_comm x] at htri
  linarith [h.near]

theorem Nearest.le_of_le {m : ℤ} (h : Nearest x n) (hm : x ≤ m) : n ≤ m := by
  have hn := (abs_le.mp h.near).2
  have : (n : ℚ) < m + 1 := by linarith
  exact Int.lt_add_one_iff.mp (by exact_mod_cast this)

theorem Nearest.le_of_ge {m : ℤ} (h : Nearest x n) (hm : m ≤ x) : m ≤ n := by
  have := h.neg.le_of_le (m := -m) (by push_cast; linarith)
  omega

/-- Of a power of two and the odd number below it, the one that is even is nearest to what is between them. -/
theorem Nearest.two_pow_le {p : ℕ} (h : Nearest x n) (hp : p ≠ 0) (hx : 2 ^ p - 1 / 2 ≤ x) : 2 ^ p ≤ n := by
  by_contra hlt
  have hn : (n : ℚ) ≤ 2 ^ p - 1 := by exact_mod_cast Int.le_sub_one_of_lt (not_le.mp hlt)
  have hnear := abs_le.mp h.near
  have heq : (n : ℚ) = 2 ^ p - 1 := by linarith
  have heven : Even n := h.even (by rw [abs_of_nonpos (by linarith)]; linarith)
  have hne : n = 2 ^ p - 1 := by exact_mod_cast heq
  rw [hne, Int.even_sub_one] at heven
  exact heven ((Int.even_pow' hp).mpr even_two)

namespace Place

theorem neg (h : Place S x t) : Place S (-x) t := by
  obtain ⟨hl, hlt, hle⟩ := h
  exact ⟨hl, (abs_neg x).symm ▸ hlt, (abs_neg x).symm ▸ hle⟩

/-- In units of its last place a number has no more digits than the format. -/
theorem abs_div_lt (h : Place S x t) : |x / 2 ^ t| < 2 ^ S.mantissaBits := by
  rw [abs_div, abs_of_pos (two_zpow_pos t), div_lt_iff₀ (two_zpow_pos t), ← two_zpow_add]
  exact h.lt

theorem unique {u : ℤ} (h : Place S x t) (hu : Place S x u) : t = u := by
  have key {t u : ℤ} (h : Place S x t) (hu : Place S x u) : u ≤ t := by
    rcases hu.le with rfl | hle
    · exact h.least
    · have := two_zpow_lt_iff.mp (hle.trans_lt h.lt)
      omega
  exact le_antisymm (key hu h) (key h hu)

/-- Between a number and a point of any of the grids above it there is one of the number's own grid. -/
theorem exists_between (h : Place S x t) (hy : OnGrid S y) (hxy : x ≤ y) :
    ∃ m : ℤ, x ≤ m * 2 ^ t ∧ m * 2 ^ t ≤ y := by
  obtain ⟨k, u, hu, hk, rfl⟩ := hy
  rcases le_or_gt t u with htu | hut
  -- The coarser grid is a part of the finer one.
  · refine ⟨k * 2 ^ (u - t).toNat, ?_⟩
    have he : ((k * 2 ^ (u - t).toNat : ℤ) : ℚ) * 2 ^ t = k * 2 ^ u := by
      push_cast
      rw [mul_assoc, ← two_zpow_add, Int.toNat_of_nonneg (by omega)]
      congr 2
      omega
    rw [he]
    exact ⟨hxy, le_rfl⟩
  -- The finer grid ends below the number, or starts above it.
  · have hle : (2 : ℚ) ^ (t + S.mantissaBits - 1) ≤ |x| := h.le.resolve_left (by omega)
    have hp : (2 : ℚ) ^ (t + S.mantissaBits - 1) = (2 ^ (S.mantissaBits - 1) : ℤ) * 2 ^ t := by
      have hpos := mantissaBits_pos S
      push_cast
      rw [← two_zpow_add]
      congr 1
      omega
    have hky : |(k : ℚ) * 2 ^ u| ≤ 2 ^ (t + S.mantissaBits - 1) := by
      rw [abs_mul, abs_of_pos (two_zpow_pos u)]
      calc |(k : ℚ)| * 2 ^ u ≤ 2 ^ S.mantissaBits * 2 ^ u :=
            mul_le_mul_of_nonneg_right hk (two_zpow_pos u).le
        _ = 2 ^ (u + S.mantissaBits) := (two_zpow_add u _).symm
        _ ≤ 2 ^ (t + S.mantissaBits - 1) := two_zpow_le_iff.mpr (by omega)
    have hb := abs_le.mp hky
    rcases le_abs.mp hle with hx | hx
    · refine ⟨2 ^ (S.mantissaBits - 1), ?_⟩
      rw [← hp]
      constructor <;> linarith
    · refine ⟨-2 ^ (S.mantissaBits - 1), ?_⟩
      rw [Int.cast_neg, neg_mul, ← hp]
      constructor <;> linarith

theorem exists_eq (h : Place S x t) (hx : OnGrid S x) : ∃ m : ℤ, x = m * 2 ^ t := by
  obtain ⟨m, hle, hge⟩ := h.exists_between hx le_rfl
  exact ⟨m, le_antisymm hle hge⟩

/-- From one power of two to the next the last place stays where it is. -/
theorem of_binade {e : ℤ} (he : S.minExponent + S.mantissaBits ≤ e) (hlo : 2 ^ (e - 1) ≤ |x|) (hhi : |x| < 2 ^ e) :
    Place S x (e - S.mantissaBits) :=
  ⟨by omega, by rwa [sub_add_cancel], .inr (by rwa [sub_add_cancel])⟩

end Place

namespace OnGrid

theorem neg (h : OnGrid S x) : OnGrid S (-x) := by
  obtain ⟨n, t, hl, hn, rfl⟩ := h
  exact ⟨-n, t, hl, by rwa [Int.cast_neg, abs_neg], by push_cast; ring⟩

theorem two_zpow {e : ℤ} (h : S.minExponent ≤ e) : OnGrid S (2 ^ e) :=
  ⟨1, e, h, by simpa using one_le_pow₀ (by norm_num : (1 : ℚ) ≤ 2), by simp⟩

/-- The last point below a power of two. -/
theorem two_zpow_sub {e : ℤ} (he : S.minExponent + S.mantissaBits ≤ e) : OnGrid S (2 ^ e - 2 ^ (e - S.mantissaBits)) := by
  have heu := two_zpow_eq_mul S e
  refine ⟨2 ^ S.mantissaBits - 1, e - S.mantissaBits, by omega, ?_, ?_⟩
  · have hone : (1 : ℚ) ≤ 2 ^ S.mantissaBits := one_le_pow₀ (by norm_num)
    push_cast
    rw [abs_of_nonneg (by linarith)]
    linarith
  · push_cast
    rw [sub_one_mul, ← heu]

/-- Every grid is a part of the finest. -/
theorem exists_multiple (h : OnGrid S x) : ∃ k : ℤ, x = k * 2 ^ S.minExponent := by
  obtain ⟨n, t, hl, -, rfl⟩ := h
  refine ⟨n * 2 ^ (t - S.minExponent).toNat, ?_⟩
  push_cast
  rw [mul_assoc, ← two_zpow_add, Int.toNat_of_nonneg (by omega)]
  congr 2
  omega

theorem of_multiple {k : ℤ} (h : |(k : ℚ)| ≤ 2 ^ S.mantissaBits) : OnGrid S (k * 2 ^ S.minExponent) :=
  ⟨k, S.minExponent, le_rfl, h, rfl⟩

/-- What is below a power of two is below it by a unit of the last place that numbers have there. -/
theorem le_of_lt_two_zpow {e : ℤ} (hx : OnGrid S x) (he : S.minExponent + S.mantissaBits ≤ e) (hlt : x < 2 ^ e) :
    x ≤ 2 ^ e - 2 ^ (e - S.mantissaBits) := by
  have hpos := mantissaBits_pos S
  have hhalf := two_zpow_eq_two_mul e
  have hlast : (2 : ℚ) ^ (e - S.mantissaBits) ≤ 2 ^ (e - 1) := two_zpow_le_iff.mpr (by omega)
  rcases lt_or_ge x (2 ^ (e - 1)) with hlo | hlo
  · linarith
  · have hpos : 0 < x := (two_zpow_pos _).trans_le hlo
    have hp : Place S x (e - S.mantissaBits) := .of_binade he (by rwa [abs_of_pos hpos]) (by rwa [abs_of_pos hpos])
    obtain ⟨m, rfl⟩ := hp.exists_eq hx
    have hm : m < 2 ^ S.mantissaBits := by
      have := hp.abs_div_lt
      rw [mul_div_cancel_right₀ _ (two_zpow_pos _).ne'] at this
      exact_mod_cast (abs_lt.mp this).2
    rw [two_zpow_eq_mul S e, ← sub_one_mul]
    refine mul_le_mul_of_nonneg_right ?_ (two_zpow_pos _).le
    exact_mod_cast Int.le_sub_one_of_lt hm

end OnGrid

namespace RoundsTo

theorem neg (h : RoundsTo S x r) : RoundsTo S (-x) (-r) := by
  obtain ⟨n, t, hp, hn, rfl⟩ := h
  exact ⟨-n, t, hp.neg, neg_div (2 ^ t : ℚ) x ▸ hn.neg, by push_cast; ring⟩

theorem onGrid (h : RoundsTo S x r) : OnGrid S r := by
  obtain ⟨n, t, hp, hn, rfl⟩ := h
  refine ⟨n, t, hp.least, ?_, rfl⟩
  obtain ⟨hlo, hhi⟩ := abs_lt.mp hp.abs_div_lt
  rw [abs_le]
  constructor
  · exact_mod_cast hn.le_of_ge (m := -2 ^ S.mantissaBits) (by push_cast; exact hlo.le)
  · exact_mod_cast hn.le_of_le (m := 2 ^ S.mantissaBits) (by push_cast; exact hhi.le)

/-- Rounding up does not go past a point of any grid. -/
theorem le_of_le (h : RoundsTo S x r) (hy : OnGrid S y) (hxy : x ≤ y) : r ≤ y := by
  obtain ⟨n, t, hp, hn, rfl⟩ := h
  obtain ⟨m, hxm, hmy⟩ := hp.exists_between hy hxy
  have hnm : n ≤ m := hn.le_of_le ((div_le_iff₀ (two_zpow_pos t)).mpr hxm)
  exact (mul_le_mul_of_nonneg_right (by exact_mod_cast hnm) (two_zpow_pos t).le).trans hmy

theorem ge_of_ge (h : RoundsTo S x r) (hy : OnGrid S y) (hyx : y ≤ x) : y ≤ r :=
  neg_le_neg_iff.mp (h.neg.le_of_le hy.neg (neg_le_neg hyx))

theorem eq_of_onGrid (h : RoundsTo S x r) (hx : OnGrid S x) : r = x :=
  le_antisymm (h.le_of_le hx le_rfl) (h.ge_of_ge hx le_rfl)

/-- No point of any grid is nearer. -/
theorem nearer (h : RoundsTo S x r) (hy : OnGrid S y) : |r - x| ≤ |y - x| := by
  have key {x y r : ℚ} (h : RoundsTo S x r) (hy : OnGrid S y) (hxy : x ≤ y) : |r - x| ≤ |y - x| := by
    obtain ⟨n, t, hp, hn, rfl⟩ := h
    obtain ⟨m, hxm, hmy⟩ := hp.exists_between hy hxy
    have hscale (k : ℤ) : |(k : ℚ) * 2 ^ t - x| = |(k : ℚ) - x / 2 ^ t| * 2 ^ t := by
      rw [← abs_of_pos (two_zpow_pos t), ← abs_mul, abs_of_pos (two_zpow_pos t), sub_mul,
        div_mul_cancel₀ _ (two_zpow_pos t).ne']
    calc |(n : ℚ) * 2 ^ t - x| ≤ |(m : ℚ) * 2 ^ t - x| := by
          rw [hscale, hscale]
          exact mul_le_mul_of_nonneg_right (hn.nearer m) (two_zpow_pos t).le
      _ ≤ |y - x| := by
          rw [abs_of_nonneg (sub_nonneg.mpr hxm), abs_of_nonneg (sub_nonneg.mpr hxy)]
          exact sub_le_sub_right hmy x
  rcases le_total x y with hxy | hyx
  · exact key h hy hxy
  · have := key h.neg hy.neg (neg_le_neg hyx)
    rwa [neg_sub_neg, neg_sub_neg, abs_sub_comm, abs_sub_comm x] at this

/-- A step of half a unit of the last place at most. -/
theorem abs_sub_le_half (h : RoundsTo S x r) (hp : Place S x t) : |r - x| ≤ 2 ^ t / 2 := by
  obtain ⟨n, u, hu, hn, rfl⟩ := h
  obtain rfl := hp.unique hu
  have hs : (n : ℚ) * 2 ^ t - x = (n - x / 2 ^ t) * 2 ^ t := by
    rw [sub_mul, div_mul_cancel₀ _ (two_zpow_pos t).ne']
  rw [hs, abs_mul, abs_of_pos (two_zpow_pos t)]
  calc |(n : ℚ) - x / 2 ^ t| * 2 ^ t ≤ 1 / 2 * 2 ^ t :=
        mul_le_mul_of_nonneg_right hn.near (two_zpow_pos t).le
    _ = 2 ^ t / 2 := by ring

/-- The error is small beside the number unless the number itself is at the bottom. -/
theorem abs_sub_le_mul (h : RoundsTo S x r) (hx : 2 ^ (S.minExponent + S.mantissaBits - 1) ≤ |x|) :
    |r - x| * 2 ^ S.mantissaBits ≤ |x| := by
  obtain ⟨n, t, hp, hn, hr⟩ := id h
  have hle : 2 ^ (t + S.mantissaBits - 1) ≤ |x| := by
    rcases hp.le with rfl | hle
    · exact hx
    · exact hle
  calc |r - x| * 2 ^ S.mantissaBits ≤ 2 ^ t / 2 * 2 ^ S.mantissaBits :=
        mul_le_mul_of_nonneg_right (h.abs_sub_le_half hp) (by positivity)
    _ = 2 ^ (t + S.mantissaBits - 1) := by
        rw [zpow_sub_one₀ two_ne_zero, two_zpow_add]
        ring
    _ ≤ |x| := hle

/-- A number that is not at the bottom becomes greater by a fraction at the most. -/
theorem le_mul (h : RoundsTo S x r) (hS : 6 ≤ S.mantissaBits) (hx : 2 ^ (S.minExponent + S.mantissaBits - 1) ≤ x) :
    r ≤ 65 / 64 * x := by
  have hpos : 0 ≤ x := (two_zpow_pos _).le.trans hx
  have herr := h.abs_sub_le_mul (hx.trans (le_abs_self x))
  rw [abs_of_nonneg hpos] at herr
  have hbits : (2 : ℚ) ^ 6 ≤ 2 ^ S.mantissaBits := pow_le_pow_right₀ (by norm_num) hS
  have hscaled := (mul_le_mul_of_nonneg_left hbits (abs_nonneg (r - x))).trans herr
  linarith [le_abs_self (r - x)]

/-- The difference of two points is one itself if it is at the bottom. -/
theorem sub_le_mul (h : RoundsTo S (y - x) r) (hS : 6 ≤ S.mantissaBits) (hx : OnGrid S x) (hy : OnGrid S y)
    (hxy : x ≤ y) : r ≤ 65 / 64 * (y - x) := by
  rcases le_or_gt (2 ^ (S.minExponent + S.mantissaBits - 1)) (y - x) with hle | hlt
  · exact h.le_mul hS hle
  · obtain ⟨k, rfl⟩ := hx.exists_multiple
    obtain ⟨l, rfl⟩ := hy.exists_multiple
    rw [← sub_mul, ← Int.cast_sub] at h hlt ⊢
    have hpos := two_zpow_pos S.minExponent
    have hkl : 0 ≤ l - k := by
      have := (mul_le_mul_iff_of_pos_right hpos).mp hxy
      have : k ≤ l := by exact_mod_cast this
      omega
    have hkl' : (0 : ℚ) ≤ (l - k : ℤ) := by exact_mod_cast hkl
    have hk : |((l - k : ℤ) : ℚ)| ≤ 2 ^ S.mantissaBits := by
      rw [abs_of_nonneg hkl']
      refine (lt_of_mul_lt_mul_right ?_ hpos.le).le
      rw [← two_zpow_add]
      exact hlt.trans_le (two_zpow_le_iff.mpr (by omega))
    rw [h.eq_of_onGrid (.of_multiple hk)]
    linarith [mul_nonneg hkl' hpos.le]

/-- A power of two is reached from half a unit of the last place below it. -/
theorem lt_two_zpow_iff {e : ℤ} (h : RoundsTo S x r) (he : S.minExponent + S.mantissaBits ≤ e) :
    r < 2 ^ e ↔ x < 2 ^ e - 2 ^ (e - S.mantissaBits) / 2 := by
  have hpos := mantissaBits_pos S
  have hu := two_zpow_pos (e - S.mantissaBits)
  have heu := two_zpow_eq_mul S e
  constructor
  · contrapose!
    intro hx
    rcases le_or_gt (2 ^ e) x with hle | hlt
    · exact h.ge_of_ge (.two_zpow (by omega)) hle
    · have hhalf := two_zpow_eq_two_mul e
      have hlast : (2 : ℚ) ^ (e - S.mantissaBits) ≤ 2 ^ (e - 1) := two_zpow_le_iff.mpr (by omega)
      have hxpos : 0 < x := by linarith [two_zpow_pos (e - 1)]
      have hp : Place S x (e - S.mantissaBits) :=
        .of_binade he (by rw [abs_of_pos hxpos]; linarith) (by rwa [abs_of_pos hxpos])
      obtain ⟨n, t, ht, hn, rfl⟩ := h
      obtain rfl := ht.unique hp
      have hq : (2 : ℚ) ^ S.mantissaBits - 1 / 2 ≤ x / 2 ^ (e - S.mantissaBits) := by
        rw [le_div_iff₀ hu, sub_mul, ← heu]
        linarith
      rw [heu]
      exact mul_le_mul_of_nonneg_right (by exact_mod_cast hn.two_pow_le hpos.ne' hq) hu.le
  · intro hx
    have hy := OnGrid.two_zpow_sub he
    rcases le_or_gt x (2 ^ e - 2 ^ (e - S.mantissaBits)) with hle | hlt
    · linarith [h.le_of_le hy hle]
    · have hnear := h.nearer hy
      rw [abs_of_neg (sub_neg.mpr hlt)] at hnear
      linarith [(abs_le.mp hnear).2]

theorem abs_lt_two_zpow_iff {e : ℤ} (h : RoundsTo S x r) (he : S.minExponent + S.mantissaBits ≤ e) :
    |r| < 2 ^ e ↔ |x| < 2 ^ e - 2 ^ (e - S.mantissaBits) / 2 := by
  rw [abs_lt, abs_lt, h.lt_two_zpow_iff he, neg_lt, h.neg.lt_two_zpow_iff he, neg_lt]

end RoundsTo
end Flotation.Rounding
