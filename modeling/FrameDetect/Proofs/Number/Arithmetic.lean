import FrameDetect.Proofs.Number.Packing
import FrameDetect.Proofs.Number.Rounding

/-!
# Arithmetic on values

Sums, differences, products and quotients of finite numbers are the nearest numbers to those of the real
numbers that they stand for.  What holds of real arithmetic and of rounding therefore holds of single
precision: the order of results, how far they are off, and when they overflow.
-/

namespace FrameDetect.Number

open Float.Model (Format UnpackedFloat totalExponent)
open Float.Model.UnpackedFloat

/-! ## Rounding of signed mantissas -/

theorem nearest_signed (sign : Sign) (x : ℝ) : nearest (signed sign x) = signed sign (nearest x) := by
  cases sign with
  | positive => rfl
  | negative => exact nearest_neg x

theorem signed_apply (sign : Sign) (m : ℕ) : ((sign.apply m : ℤ) : ℝ) = signed sign (m : ℝ) := by
  cases sign with
  | positive => exact Int.cast_natCast m
  | negative => exact (Int.cast_neg _).trans (congrArg Neg.neg (Int.cast_natCast m))

/-- More digits after the point do not change a number. -/
theorem decreaseExponent_value (m : ℕ) (e target : ℤ) :
    ((decreaseExponent m e target).1 : ℝ) * 2 ^ (decreaseExponent m e target).2 = m * 2 ^ e := by
  simp only [decreaseExponent, Nat.shiftLeft_eq, Nat.cast_mul, Nat.cast_pow, Nat.cast_ofNat]
  rw [mul_assoc, ← zpow_natCast, ← zpow_add₀ (by norm_num), add_sub_cancel]

theorem decreaseExponent_snd (m : ℕ) (e target : ℤ) :
    (decreaseExponent m e target).2 = min e target := by
  simp only [decreaseExponent]
  omega

theorem standsFor_round (sign : Sign) {m : ℕ} (hm : 0 < m) (e : ℤ) :
    StandsFor (UnpackedFloat.round .binary32 sign m e) (signed sign (nearest (m * 2 ^ e))) := by
  have hpos : (0 : ℝ) < m * 2 ^ e := by positivity
  have htarget : Format.binary32.targetExponent (totalExponent m e) = place (m * 2 ^ e) := by
    rw [targetExponent_eq, place_mul_two_zpow hm le_rfl (lt_add_one _)]
  have hvalue := decreaseExponent_value m e (place (m * 2 ^ e))
  have hle := (decreaseExponent_snd m e (place (m * 2 ^ e))).trans_le (min_le_right _ _)
  unfold UnpackedFloat.round
  dsimp only
  rw [htarget]
  generalize (m : ℝ) * 2 ^ e = x at hpos hvalue hle ⊢
  generalize decreaseExponent m e (place x) = padded at hvalue hle ⊢
  rw [← hvalue] at hpos hle ⊢
  exact standsFor_roundWithAccuracy (represents_exact _) (pos_of_mul_pos_left hpos (by positivity)) hle

theorem standsFor_zero (sign : Sign) : StandsFor (.zero sign) 0 := ⟨trivial, rfl, rfl⟩

theorem standsFor_normalize (mantissa e : ℤ) (sign : Sign) :
    StandsFor (UnpackedFloat.normalize .binary32 mantissa e sign) (nearest (mantissa * 2 ^ e)) := by
  unfold UnpackedFloat.normalize
  rcases lt_trichotomy mantissa 0 with hneg | rfl | hpos
  · obtain ⟨n, rfl⟩ : ∃ n : ℕ, mantissa = -n := ⟨(-mantissa).toNat, by omega⟩
    rw [compare_lt_iff_lt.2 hneg, neg_neg, Int.toNat_natCast, Int.cast_neg, Int.cast_natCast, neg_mul,
      nearest_neg]
    exact standsFor_round .negative (by omega) e
  · rw [Int.cast_zero, zero_mul, nearest_zero]
    exact standsFor_zero sign
  · obtain ⟨n, rfl⟩ : ∃ n : ℕ, mantissa = n := ⟨mantissa.toNat, by omega⟩
    rw [compare_gt_iff_gt.2 hpos, Int.toNat_natCast, Int.cast_natCast]
    exact standsFor_round .positive (by omega) e

/-- A canonical number is kept by rounding. -/
theorem standsFor_nearest {number : UnpackedFloat} (h : Canonical number)
    (hfinite : number.isFinite = true) : StandsFor number (nearest (realUnpacked number)) := by
  refine ⟨h, hfinite, ?_⟩
  rcases eq_zero_or_eq_finite hfinite with ⟨sign, rfl⟩ | ⟨sign, m, e, pos, rfl⟩
  · exact nearest_zero.symm
  · rw [realUnpacked_finite, nearest_signed, nearest_natCast_mul h.1 h.2.1]

/-! ## The four operations -/

variable {a b : UnpackedFloat}

/-- A mantissa brought to a lower exponent, with its sign. -/
theorem apply_decreaseExponent (sign : Sign) (m : ℕ) {e target : ℤ} (pos : 0 < m) (h : target ≤ e) :
    ((sign.apply (decreaseExponent m e target).1 : ℤ) : ℝ) * 2 ^ target =
      realUnpacked (.finite sign m e pos) := by
  have hvalue := decreaseExponent_value m e target
  rw [decreaseExponent_snd, min_eq_right h] at hvalue
  rw [signed_apply, realUnpacked_finite, ← hvalue]
  cases sign with
  | positive => rfl
  | negative => exact neg_mul _ _

theorem standsFor_add (ha : Canonical a) (hb : Canonical b) (hfa : a.isFinite = true)
    (hfb : b.isFinite = true) :
    StandsFor (UnpackedFloat.add .binary32 a b) (nearest (realUnpacked a + realUnpacked b)) := by
  rcases eq_zero_or_eq_finite hfa with ⟨s₁, rfl⟩ | ⟨s₁, m₁, e₁, pos₁, rfl⟩ <;>
    rcases eq_zero_or_eq_finite hfb with ⟨s₂, rfl⟩ | ⟨s₂, m₂, e₂, pos₂, rfl⟩
  · rw [realUnpacked_zero, realUnpacked_zero, zero_add, nearest_zero]
    cases s₁ <;> cases s₂ <;> exact standsFor_zero _
  · rw [realUnpacked_zero, zero_add]
    exact standsFor_nearest hb hfb
  · rw [realUnpacked_zero, add_zero]
    exact standsFor_nearest ha hfa
  · rw [← apply_decreaseExponent s₁ m₁ pos₁ (min_le_left e₁ e₂),
      ← apply_decreaseExponent s₂ m₂ pos₂ (min_le_right e₁ e₂), ← add_mul, ← Int.cast_add]
    exact standsFor_normalize _ _ _

/-- A number is subtracted by adding its opposite. -/
theorem sub_eq_add_opposite (format : Format) (a b : UnpackedFloat) :
    UnpackedFloat.sub format a b = UnpackedFloat.add format a b.neg := by
  rcases a with (_ | _) | _ | (_ | _) | ⟨s₁, m₁, e₁, pos₁⟩ <;>
    rcases b with (_ | _) | _ | (_ | _) | ⟨s₂, m₂, e₂, pos₂⟩ <;> try rfl
  have hneg (n : ℕ) : (-s₂).apply n = -s₂.apply n := by
    cases s₂ with
    | positive => rfl
    | negative => exact (neg_neg _).symm
  simp only [UnpackedFloat.sub, UnpackedFloat.add, UnpackedFloat.neg, hneg, Int.sub_eq_add_neg]

theorem canonical_neg (hb : Canonical b) : Canonical b.neg := by
  cases b <;> exact hb

theorem isFinite_neg (b : UnpackedFloat) : b.neg.isFinite = b.isFinite := by
  cases b <;> rfl

theorem realUnpacked_neg_eq (b : UnpackedFloat) : realUnpacked b.neg = -realUnpacked b := by
  cases b with
  | finite sign m e pos =>
    rw [UnpackedFloat.neg, realUnpacked_finite, realUnpacked_finite]
    cases sign with
    | positive => rfl
    | negative => exact (neg_neg _).symm
  | _ => exact neg_zero.symm

theorem standsFor_sub (ha : Canonical a) (hb : Canonical b) (hfa : a.isFinite = true)
    (hfb : b.isFinite = true) :
    StandsFor (UnpackedFloat.sub .binary32 a b) (nearest (realUnpacked a - realUnpacked b)) := by
  rw [sub_eq_add_opposite, sub_eq_add_neg, ← realUnpacked_neg_eq]
  exact standsFor_add ha (canonical_neg hb) hfa ((isFinite_neg b).trans hfb)

theorem signed_mul (s₁ s₂ : Sign) (x y : ℝ) : signed (s₁ * s₂) (x * y) = signed s₁ x * signed s₂ y := by
  cases s₁ <;> cases s₂
  · exact (neg_mul_neg x y).symm
  · exact (neg_mul x y).symm
  · exact (mul_neg x y).symm
  · rfl

theorem signed_div (s₁ s₂ : Sign) (x y : ℝ) : signed (s₁ / s₂) (x / y) = signed s₁ x / signed s₂ y := by
  cases s₁ <;> cases s₂
  · exact (neg_div_neg_eq x y).symm
  · exact (neg_div y x).symm
  · exact (div_neg x).symm
  · rfl

/-- The product of two mantissas has digits enough for the last place of the product. -/
theorem add_le_place {m₁ m₂ : ℕ} {e₁ e₂ : ℤ} (pos₁ : 0 < m₁) (pos₂ : 0 < m₂)
    (hfull₁ : 2 ^ 23 ≤ m₁ ∨ e₁ = -149) (hfull₂ : 2 ^ 23 ≤ m₂ ∨ e₂ = -149) :
    e₁ + e₂ ≤ place ((m₁ * m₂ : ℕ) * 2 ^ (e₁ + e₂)) := by
  rw [place_mul_two_zpow (Nat.mul_pos pos₁ pos₂) le_rfl (lt_add_one _)]
  by_cases hfull : 2 ^ 23 ≤ m₁ * m₂
  · have hlog := (Nat.le_log2 (Nat.mul_pos pos₁ pos₂).ne').2 hfull
    omega
  · have h₁ : ¬2 ^ 23 ≤ m₁ := fun h => hfull (h.trans (Nat.le_mul_of_pos_right _ pos₂))
    have h₂ : ¬2 ^ 23 ≤ m₂ := fun h => hfull (h.trans (Nat.le_mul_of_pos_left _ pos₁))
    have := hfull₁.resolve_left h₁
    have := hfull₂.resolve_left h₂
    omega

theorem standsFor_mul (ha : Canonical a) (hb : Canonical b) (hfa : a.isFinite = true)
    (hfb : b.isFinite = true) :
    StandsFor (UnpackedFloat.mul .binary32 a b) (nearest (realUnpacked a * realUnpacked b)) := by
  rcases eq_zero_or_eq_finite hfa with ⟨s₁, rfl⟩ | ⟨s₁, m₁, e₁, pos₁, rfl⟩ <;>
    rcases eq_zero_or_eq_finite hfb with ⟨s₂, rfl⟩ | ⟨s₂, m₂, e₂, pos₂, rfl⟩
  · rw [realUnpacked_zero, zero_mul, nearest_zero]
    exact standsFor_zero _
  · rw [realUnpacked_zero, zero_mul, nearest_zero]
    exact standsFor_zero _
  · rw [realUnpacked_zero, mul_zero, nearest_zero]
    exact standsFor_zero _
  · have hproduct : (m₁ : ℝ) * 2 ^ e₁ * (m₂ * 2 ^ e₂) = ((m₁ * m₂ : ℕ) : ℝ) * 2 ^ (e₁ + e₂) := by
      rw [zpow_add₀ (by norm_num)]
      push_cast
      ring
    rw [realUnpacked_finite, realUnpacked_finite, ← signed_mul, nearest_signed, hproduct]
    exact standsFor_roundWithAccuracy (represents_exact _)
      (Nat.cast_pos.2 (Nat.mul_pos pos₁ pos₂)) (add_le_place pos₁ pos₂ ha.2.2 hb.2.2)

/-- The accuracy of a quotient tells where above its whole part it lies. -/
theorem represents_quotient (m : ℕ) {d : ℕ} (pos : 0 < d) :
    Represents (.ofMantissaAndAccuracy (m / d) (accuracyOfFraction (m % d) d)) (m / d) := by
  have hd : (0 : ℝ) < d := Nat.cast_pos.2 pos
  have hdivision : (m : ℝ) = d * (m / d : ℕ) + (m % d : ℕ) := by exact_mod_cast (Nat.div_add_mod m d).symm
  have hrest : ((m % d : ℕ) : ℝ) < d := Nat.cast_lt.2 (Nat.mod_lt m pos)
  have hquotient : (m : ℝ) / d = (m / d : ℕ) + (m % d : ℕ) / d := by
    rw [div_eq_iff hd.ne', add_mul, div_mul_cancel₀ _ hd.ne']
    linarith
  rw [hquotient]
  generalize m / d = q at hdivision
  generalize m % d = r at hdivision hrest
  unfold accuracyOfFraction
  split_ifs with hzero
  · rw [hzero, Nat.cast_zero, zero_div, add_zero]
    exact represents_exact q
  · have hr : (0 : ℝ) < r / d := div_pos (Nat.cast_pos.2 (Nat.pos_of_ne_zero hzero)) hd
    rcases lt_trichotomy (2 * r) d with hless | hhalf | hmore
    · have hlt : (r : ℝ) / d < 1 / 2 := by
        rw [div_lt_div_iff₀ hd two_pos, one_mul, mul_comm]
        exact_mod_cast hless
      rw [compare_lt_iff_lt.2 hless]
      change (q : ℝ) < q + r / d ∧ q + r / d < (q : ℝ) + 1 / 2
      exact ⟨by linarith, by linarith⟩
    · have heq : (r : ℝ) / d = 1 / 2 := by
        rw [div_eq_div_iff hd.ne' two_ne_zero, one_mul, mul_comm]
        exact_mod_cast hhalf
      rw [compare_eq_iff_eq.2 hhalf, heq]
      exact rfl
    · have hgt : 1 / 2 < (r : ℝ) / d := by
        rw [div_lt_div_iff₀ two_pos hd, one_mul, mul_comm]
        exact_mod_cast hmore
      have hlt : (r : ℝ) / d < 1 := (div_lt_one hd).2 hrest
      rw [compare_gt_iff_gt.2 hmore]
      change (q : ℝ) + 1 / 2 < q + r / d ∧ q + r / d < (q : ℝ) + 1
      exact ⟨by linarith, by linarith⟩

/-- The quotient is computed with digits enough for its last place. -/
theorem targetExponent_le_place {m₁ m₂ : ℕ} (e₁ e₂ : ℤ) (pos₁ : 0 < m₁) (pos₂ : 0 < m₂) :
    Format.binary32.targetExponent (totalExponent m₁ e₁ - totalExponent m₂ e₂) ≤
      place (m₁ * 2 ^ e₁ / (m₂ * 2 ^ e₂)) := by
  have hmin : Format.binary32.minExponent = -149 := rfl
  have hbits : Format.binary32.mantissaBits = 24 := rfl
  have hlow : (2 : ℝ) ^ (m₁.log2 : ℤ) ≤ m₁ := by exact_mod_cast Nat.log2_self_le pos₁.ne'
  have hhigh : (m₂ : ℝ) ≤ 2 ^ (m₂.log2 + 1 : ℤ) := by exact_mod_cast Nat.lt_log2_self.le
  have hquotient : ((2 : ℕ) : ℝ) ^ (m₁.log2 + e₁ - (m₂.log2 + 1 + e₂)) ≤ m₁ * 2 ^ e₁ / (m₂ * 2 ^ e₂) := by
    rw [Nat.cast_ofNat, zpow_sub₀ (by norm_num), zpow_add₀ (by norm_num), zpow_add₀ (by norm_num)]
    gcongr
  have hlog := (Int.zpow_le_iff_le_log (by norm_num) (by positivity)).1 hquotient
  unfold Format.targetExponent totalExponent place
  omega

theorem standsFor_div (hfa : a.isFinite = true) (hfb : b.isFinite = true) (hb : realUnpacked b ≠ 0) :
    StandsFor (UnpackedFloat.div .binary32 a b) (nearest (realUnpacked a / realUnpacked b)) := by
  rcases eq_zero_or_eq_finite hfb with ⟨s₂, rfl⟩ | ⟨s₂, m₂, e₂, pos₂, rfl⟩
  · exact absurd (realUnpacked_zero s₂) hb
  rcases eq_zero_or_eq_finite hfa with ⟨s₁, rfl⟩ | ⟨s₁, m₁, e₁, pos₁, rfl⟩
  · rw [realUnpacked_zero, zero_div, nearest_zero]
    exact standsFor_zero _
  · rw [realUnpacked_finite, realUnpacked_finite, ← signed_div, nearest_signed]
    have htarget := targetExponent_le_place e₁ e₂ pos₁ pos₂
    unfold UnpackedFloat.div divCore
    dsimp only
    generalize Format.binary32.targetExponent (totalExponent m₁ e₁ - totalExponent m₂ e₂) = target
      at htarget ⊢
    have hle := (min_le_right (e₁ - e₂) target).trans htarget
    generalize hshift : (e₁ - e₂ - min (e₁ - e₂) target).toNat = n
    generalize hexp : min (e₁ - e₂) target = e at hshift hle ⊢
    have hsame : (m₁ : ℝ) * 2 ^ e₁ / (m₂ * 2 ^ e₂) = ((m₁ <<< n : ℕ) : ℝ) / m₂ * 2 ^ e := by
      rw [show e₁ = n + e + e₂ by omega, zpow_add₀ (by norm_num), zpow_add₀ (by norm_num), ← mul_assoc,
        mul_div_mul_right _ _ (by positivity), ← mul_assoc, mul_div_right_comm, zpow_natCast,
        Nat.shiftLeft_eq]
      push_cast
      rfl
    have hpos : (0 : ℝ) < ((m₁ <<< n : ℕ) : ℝ) / m₂ := by
      rw [Nat.shiftLeft_eq]
      positivity
    rw [hsame] at hle ⊢
    exact standsFor_roundWithAccuracy (represents_quotient _ pos₂) hpos hle

/-! ## Single precision -/

/-- The value of the single precision number that is nearest to a real number. -/
noncomputable def rounded (r : ℝ) : EReal := saturated (nearest r)

theorem rounded_mono : Monotone rounded := saturated_mono.comp nearest_mono

theorem StandsFor.value_eq {number : UnpackedFloat} {r : ℝ} (h : StandsFor number (nearest r)) :
    value (.ofModel (.pack number)) = rounded r := by
  rw [value_pack h.canonical h.finite, h.real, rounded]

variable {x y : Float32}

/-- A finite number has few enough digits. -/
theorem representable_real (hx : x.isFinite = true) : Representable (real x) := by
  obtain ⟨hcanonical, -⟩ := canonical_toModel x
  rw [real]
  rcases eq_zero_or_eq_finite hx with ⟨sign, hu⟩ | ⟨sign, m, e, pos, hu⟩
  · exact ⟨0, 0, by norm_num, by norm_num, by rw [hu, realUnpacked_zero, Int.cast_zero, zero_mul]⟩
  · rw [hu] at hcanonical ⊢
    obtain ⟨hm, he, -⟩ := hcanonical
    refine ⟨sign.apply m, e, ?_, he, rfl⟩
    have habs : |sign.apply (m : ℤ)| = m := by
      cases sign with
      | positive => exact Nat.abs_cast m
      | negative => exact (abs_neg _).trans (Nat.abs_cast m)
    rw [habs]
    exact_mod_cast hm.le

/-- A finite number is the nearest one to its value. -/
theorem rounded_real (hx : x.isFinite = true) : rounded (real x) = value x := by
  obtain ⟨hcanonical, hfits⟩ := canonical_toModel x
  have hsettled := valueUnpacked_settled hcanonical hx
  rw [settled_of_fits hfits] at hsettled
  rw [rounded, (representable_real hx).nearest_eq]
  exact hsettled.symm

/-- A finite number and the real number that it stands for. -/
structure HasValue (x : Float32) (r : ℝ) : Prop where
  finite : x.isFinite = true
  real : real x = r

namespace HasValue

variable {r s : ℝ}

/-- What is a number and has a real value is finite. -/
theorem of_value (hx : x.isNaN = false) (h : value x = r) : HasValue x r := by
  rcases isFinite_or_infinity hx with hfinite | ⟨sign, hinf⟩
  · refine ⟨hfinite, EReal.coe_injective ?_⟩
    rw [← value_of_isFinite hfinite, h]
  · rw [value, hinf] at h
    cases sign with
    | positive => exact absurd h.symm (EReal.coe_ne_top r)
    | negative => exact absurd h.symm (EReal.coe_ne_bot r)

theorem of_standsFor {number : UnpackedFloat} (h : StandsFor number (nearest r)) (hr : |r| ≤ 2 ^ 127) :
    HasValue (.ofModel (.pack number)) (nearest r) := by
  have hlarge : |r| ≤ (2 : ℝ) ^ (127 : ℤ) := by exact_mod_cast hr
  have hsmall : |nearest r| < 2 ^ 128 := by
    refine ((representable_two_zpow (by norm_num)).abs_nearest_le hlarge).trans_lt ?_
    norm_num
  refine of_value (isNaN_pack (isNaN_of_isFinite_unpacked h.finite)) ?_
  rw [h.value_eq, rounded, saturated_of_abs_lt hsmall]

theorem add (hx : HasValue x r) (hy : HasValue y s) (h : |r + s| ≤ 2 ^ 127) :
    HasValue (x + y) (nearest (r + s)) := by
  obtain ⟨hfx, rfl⟩ := hx
  obtain ⟨hfy, rfl⟩ := hy
  exact of_standsFor (standsFor_add (canonical_toModel x).1 (canonical_toModel y).1 hfx hfy) h

theorem sub (hx : HasValue x r) (hy : HasValue y s) (h : |r - s| ≤ 2 ^ 127) :
    HasValue (x - y) (nearest (r - s)) := by
  obtain ⟨hfx, rfl⟩ := hx
  obtain ⟨hfy, rfl⟩ := hy
  exact of_standsFor (standsFor_sub (canonical_toModel x).1 (canonical_toModel y).1 hfx hfy) h

theorem mul (hx : HasValue x r) (hy : HasValue y s) (h : |r * s| ≤ 2 ^ 127) :
    HasValue (x * y) (nearest (r * s)) := by
  obtain ⟨hfx, rfl⟩ := hx
  obtain ⟨hfy, rfl⟩ := hy
  exact of_standsFor (standsFor_mul (canonical_toModel x).1 (canonical_toModel y).1 hfx hfy) h

theorem div (hx : HasValue x r) (hy : HasValue y s) (hs : s ≠ 0) (h : |r / s| ≤ 2 ^ 127) :
    HasValue (x / y) (nearest (r / s)) := by
  obtain ⟨hfx, rfl⟩ := hx
  obtain ⟨hfy, rfl⟩ := hy
  exact of_standsFor (standsFor_div hfx hfy hs) h

variable (hx : HasValue x r) (hy : HasValue y s)

include hx in
theorem isNaN : x.isNaN = false := isNaN_of_isFinite hx.finite

include hx in
theorem value_eq : value x = r := by rw [value_of_isFinite hx.finite, hx.real]

include hx hy

theorem lt_iff : x < y ↔ r < s := by
  rw [lt_iff_value, hx.value_eq, hy.value_eq, EReal.coe_lt_coe_iff]
  exact ⟨fun h => h.2.2, fun h => ⟨hx.isNaN, hy.isNaN, h⟩⟩

theorem le_iff : x ≤ y ↔ r ≤ s := by
  rw [le_iff_value, hx.value_eq, hy.value_eq, EReal.coe_le_coe_iff]
  exact ⟨fun h => h.2.2, fun h => ⟨hx.isNaN, hy.isNaN, h⟩⟩

/-- What lies between finite numbers is finite. -/
theorem exists_of_between {z : Float32} (hxz : x ≤ z) (hzy : z ≤ y) :
    ∃ t, HasValue z t ∧ r ≤ t ∧ t ≤ s := by
  have hlow := (le_iff_value.1 hxz).2.2
  have hhigh := (le_iff_value.1 hzy).2.2
  rw [hx.value_eq] at hlow
  rw [hy.value_eq] at hhigh
  have hz : HasValue z (value z).toReal := by
    refine of_value (not_isNaN_of_le hxz).2 (EReal.coe_toReal ?_ ?_).symm
    · exact ne_top_of_le_ne_top (EReal.coe_ne_top s) hhigh
    · exact ne_bot_of_le_ne_bot (EReal.coe_ne_bot r) hlow
  exact ⟨_, hz, (hx.le_iff hz).1 hxz, (hz.le_iff hy).1 hzy⟩

theorem lesser : HasValue (lesser x y) (min r s) := by
  have hnx := Bool.eq_false_iff.1 hx.isNaN
  have hny := Bool.eq_false_iff.1 hy.isNaN
  rw [Number.lesser, if_neg hnx, if_neg hny]
  split_ifs with h
  · rwa [min_eq_right ((hy.lt_iff hx).1 h).le]
  · rwa [min_eq_left (not_lt.1 (mt (hy.lt_iff hx).2 h))]

theorem greater : HasValue (greater x y) (max r s) := by
  have hnx := Bool.eq_false_iff.1 hx.isNaN
  have hny := Bool.eq_false_iff.1 hy.isNaN
  rw [Number.greater, if_neg hnx, if_neg hny]
  split_ifs with h
  · rwa [max_eq_right ((hx.lt_iff hy).1 h).le]
  · rwa [max_eq_left (not_lt.1 (mt (hx.lt_iff hy).2 h))]

end HasValue

/-- A byte stands for itself. -/
theorem hasValue_ofUInt8 (n : UInt8) : HasValue n.toFloat32 n.toNat := by
  have hn : n.toNat < 256 := n.toNat_lt
  have hrepresentable : Representable ((n.toNat : ℤ) : ℝ) :=
    representable_intCast (by rw [Nat.abs_cast]; omega)
  have h := standsFor_normalize n.toNat 0 .positive
  rw [zpow_zero, mul_one] at h
  have hsmall : |((n.toNat : ℤ) : ℝ)| ≤ 2 ^ 127 := by
    rw [Int.cast_natCast, Nat.abs_cast]
    calc (n.toNat : ℝ) ≤ 256 := by exact_mod_cast hn.le
      _ ≤ 2 ^ 127 := by norm_num
  have hvalue := HasValue.of_standsFor h hsmall
  rw [hrepresentable.nearest_eq, Int.cast_natCast] at hvalue
  exact hvalue

/-- Evaluates a literal. -/
theorem hasValue_of_unpack {sign : Sign} {m : ℕ} {e : ℤ} (pos : 0 < m)
    (h : x.toModel.unpack = .finite sign m e pos) : HasValue x (signed sign (m * 2 ^ e)) := by
  refine ⟨?_, ?_⟩
  · exact congrArg UnpackedFloat.isFinite h
  · rw [real, h, realUnpacked_finite]

theorem hasValue_of_unpack_positive {m : ℕ} {e : ℤ} {pos : 0 < m} {r : ℝ}
    (h : x.toModel.unpack = .finite .positive m e pos) (hr : (m : ℝ) * 2 ^ e = r) : HasValue x r :=
  hr ▸ hasValue_of_unpack pos h

theorem hasValue_zero : HasValue 0 0 := ⟨rfl, congrArg realUnpacked unpack_zero⟩

theorem value_zero : value 0 = 0 := hasValue_zero.value_eq

theorem hasValue_one : HasValue 1 1 := by
  have h : (1 : Float32).toModel.unpack = .finite .positive 8388608 (-23) (by decide) := rfl
  exact hasValue_of_unpack_positive h (by norm_num)

theorem value_one : value 1 = 1 := hasValue_one.value_eq

theorem hasValue_two : HasValue 2 2 := by
  have h : (2 : Float32).toModel.unpack = .finite .positive 8388608 (-22) (by decide) := rfl
  exact hasValue_of_unpack_positive h (by norm_num)

end FrameDetect.Number
