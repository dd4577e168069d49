import FrameDetect.Proofs.Number.Comparison
import FrameDetect.Proofs.Number.Nearest

/-!
# The values of single precision numbers

Each number stands for a real number or for an infinity.  Single precision keeps its numbers in a form in
which the order of numbers is that of their values, and a number outgrows the format where its value does.
-/

namespace FrameDetect.Number

open Float.Model (Format UnpackedFloat)
open Float.Model.UnpackedFloat

/-! ## Values -/

theorem realUnpacked_positive (m : ℕ) (e : ℤ) (pos : 0 < m) :
    realUnpacked (.finite .positive m e pos) = m * 2 ^ e := by
  simp [realUnpacked, Sign.apply]

theorem realUnpacked_negative (m : ℕ) (e : ℤ) (pos : 0 < m) :
    realUnpacked (.finite .negative m e pos) = -(m * 2 ^ e) := by
  simp [realUnpacked, Sign.apply]

/-- A number with a sign. -/
def signed {α : Type} [Neg α] : Sign → α → α
  | .positive, r => r
  | .negative, r => -r

theorem realUnpacked_finite (sign : Sign) (m : ℕ) (e : ℤ) (pos : 0 < m) :
    realUnpacked (.finite sign m e pos) = signed sign ((m : ℝ) * 2 ^ e) := by
  cases sign with
  | positive => exact realUnpacked_positive m e pos
  | negative => exact realUnpacked_negative m e pos

@[simp] theorem realUnpacked_pos (m : ℕ) (e : ℤ) (pos : 0 < m) :
    0 < realUnpacked (.finite .positive m e pos) := by
  rw [realUnpacked_positive]
  positivity

@[simp] theorem realUnpacked_neg (m : ℕ) (e : ℤ) (pos : 0 < m) :
    realUnpacked (.finite .negative m e pos) < 0 := by
  rw [realUnpacked_negative, neg_lt_zero]
  positivity

@[simp] theorem realUnpacked_zero (sign : Sign) : realUnpacked (.zero sign) = 0 := rfl

/-- The value of an unpacked number, infinities included. -/
noncomputable def valueUnpacked : UnpackedFloat → EReal
  | .infinity .positive => ⊤
  | .infinity .negative => ⊥
  | number => realUnpacked number

/-- The real number that a number stands for, if it is finite. -/
noncomputable def real (x : Float32) : ℝ := realUnpacked x.toModel.unpack

/-- The value of a number, infinities included. -/
noncomputable def value (x : Float32) : EReal := valueUnpacked x.toModel.unpack

theorem valueUnpacked_of_isFinite {number : UnpackedFloat} (h : number.isFinite = true) :
    valueUnpacked number = realUnpacked number := by
  cases number with
  | infinity => exact absurd h Bool.false_ne_true
  | notANumber => exact absurd h Bool.false_ne_true
  | zero => rfl
  | finite => rfl

theorem value_of_isFinite {x : Float32} (h : x.isFinite = true) : value x = real x :=
  valueUnpacked_of_isFinite h

/-! ## Canonical numbers -/

/-- Unpacked numbers whose mantissa has as many digits as single precision has, or fewer at the least
exponent. -/
def Canonical : UnpackedFloat → Prop
  | .finite _ m e _ => m < 2 ^ 24 ∧ -149 ≤ e ∧ (2 ^ 23 ≤ m ∨ e = -149)
  | _ => True

/-- Unpacked numbers whose exponent has a place in single precision. -/
def Fits : UnpackedFloat → Prop
  | .finite _ _ e _ => e ≤ 104
  | _ => True

/-- The leading digit comes back when a mantissa is unpacked. -/
theorem toNat_one_append (m : BitVec 23) : (1#1 ++ m).toNat = 2 ^ 23 + m.toNat := by
  rw [BitVec.toNat_append, ← Nat.shiftLeft_add_eq_or_of_lt m.isLt]
  rfl

/-- Unpacked numbers are canonical. -/
theorem canonical_unpack (b : BitVec Format.binary32.numBits) :
    Canonical (unpack .binary32 b) ∧ Fits (unpack .binary32 b) := by
  unfold unpack
  dsimp only
  have hexponent : (@unpackExponent .binary32 b).toNat < 2 ^ 8 := (unpackExponent b).isLt
  have hmantissa : (@unpackMantissa .binary32 b).toNat < 2 ^ 23 := (unpackMantissa b).isLt
  have hbias : Format.binary32.exponentBias = 127 := rfl
  split_ifs with hfull hinf hzero hnone
  · exact ⟨trivial, trivial⟩
  · exact ⟨trivial, trivial⟩
  · exact ⟨trivial, trivial⟩
  · simp only [Canonical, Fits, hzero, hbias, BitVec.toNat_zero]
    omega
  · have hnonzero : (@unpackExponent .binary32 b).toNat ≠ 0 :=
      fun h => hzero (BitVec.eq_of_toNat_eq h)
    have hnotfull : (@unpackExponent .binary32 b).toNat ≠ 255 :=
      fun h => hfull (BitVec.eq_of_toNat_eq h)
    simp only [Canonical, Fits, toNat_one_append, hbias]
    omega

theorem canonical_toModel (x : Float32) :
    Canonical x.toModel.unpack ∧ Fits x.toModel.unpack :=
  canonical_unpack _

/-! ## Packing -/

theorem unpackSign_packComponents {format : Format} {sign : Sign}
    {exponent : BitVec format.exponentBits} {mantissa : BitVec format.mantissaBitsWithoutImplicit} :
    unpackSign (packComponents format sign exponent mantissa) = sign.toBitVec := by
  apply BitVec.eq_of_getLsbD_eq
  intro i hi
  obtain rfl : i = 0 := by omega
  simp [unpackSign, packComponents, BitVec.getLsbD_append, BitVec.getElem_append]

theorem ofBitVec_toBitVec (sign : Sign) : Sign.ofBitVec sign.toBitVec = sign := by
  cases sign <;> rfl

/-- A number with all its digits comes back from its three fields. -/
theorem unpack_normal {sign : Sign} {biased m : ℕ} (hlow : 0 < biased) (hhigh : biased < 255)
    (hm : 2 ^ 23 ≤ m) (hm' : m < 2 ^ 24) (pos : 0 < m) :
    unpack .binary32 (packComponents .binary32 sign (BitVec.ofNat 8 biased) (BitVec.ofNat 23 m)) =
      .finite sign m (biased - 150) pos := by
  have hexponent : (BitVec.ofNat 8 biased).toNat = biased := by
    rw [BitVec.toNat_ofNat, Nat.mod_eq_of_lt (by omega)]
  have hmantissa : (1#1 ++ BitVec.ofNat 23 m).toNat = m := by
    rw [toNat_one_append, BitVec.toNat_ofNat]
    omega
  have hnotfull : BitVec.ofNat 8 biased ≠ -1#_ := by
    intro heq
    rw [heq] at hexponent
    have hbiased : 255 = biased := hexponent
    omega
  have hnonzero : BitVec.ofNat 8 biased ≠ 0#_ := by
    intro heq
    rw [heq] at hexponent
    have hbiased : 0 = biased := hexponent
    omega
  unfold unpack
  simp only [unpackMantissa_packComponents, unpackExponent_packComponents, unpackSign_packComponents,
    ofBitVec_toBitVec, if_neg hnotfull, if_neg hnonzero, hmantissa, hexponent]
  rfl

/-- A number with fewer digits comes back from its sign and its mantissa. -/
theorem unpack_subnormal {sign : Sign} {m : ℕ} (hm : m < 2 ^ 23) (pos : 0 < m) :
    unpack .binary32 (packComponents .binary32 sign 0#8 (BitVec.ofNat 23 m)) =
      .finite sign m (-149) pos := by
  have hmantissa : (BitVec.ofNat 23 m).toNat = m := by
    rw [BitVec.toNat_ofNat, Nat.mod_eq_of_lt hm]
  have hnotfull : (0#8) ≠ -1#_ := by decide
  have hnonzero : BitVec.ofNat 23 m ≠ 0#_ := by
    intro heq
    rw [heq] at hmantissa
    exact absurd (hmantissa : 0 = m) pos.ne
  unfold unpack
  simp only [unpackMantissa_packComponents, unpackExponent_packComponents, unpackSign_packComponents,
    ofBitVec_toBitVec, if_neg hnotfull, dif_neg hnonzero, if_true, hmantissa]
  rfl

/-- What becomes of a canonical number in single precision: it overflows if its exponent is too
large. -/
def settled : UnpackedFloat → UnpackedFloat
  | .finite sign m e pos => if 105 ≤ e then .infinity sign else .finite sign m e pos
  | number => number

theorem settled_of_le {sign : Sign} {m : ℕ} {e : ℤ} {pos : 0 < m} (h : 105 ≤ e) :
    settled (.finite sign m e pos) = .infinity sign := if_pos h

theorem settled_of_lt {sign : Sign} {m : ℕ} {e : ℤ} {pos : 0 < m} (h : e < 105) :
    settled (.finite sign m e pos) = .finite sign m e pos := if_neg (not_le.2 h)

theorem settled_of_fits {number : UnpackedFloat} (h : Fits number) : settled number = number := by
  cases number with
  | finite sign m e pos => exact settled_of_lt (Int.lt_add_one_iff.2 h)
  | _ => rfl

/-- Packing keeps canonical numbers, except for those that overflow. -/
theorem unpack_pack {number : UnpackedFloat} (h : Canonical number) :
    unpack .binary32 (pack .binary32 number) = settled number := by
  cases number with
  | notANumber => rfl
  | infinity sign => cases sign <;> rfl
  | zero sign => cases sign <;> rfl
  | finite sign m e pos =>
    obtain ⟨hm, he, hfull⟩ := h
    have hbias : ((Format.binary32.exponentBias : ℕ) : ℤ) = 127 := rfl
    have hbits : Format.binary32.mantissaBits = 24 := rfl
    unfold pack settled
    dsimp only
    rw [hbias, hbits]
    generalize hb : (e + 127 + ((23 : ℕ) : ℤ)).toNat = biased
    by_cases hover : 105 ≤ e
    · rw [if_pos (by omega), if_pos hover]
      cases sign <;> rfl
    · rw [if_neg (by omega), if_neg hover]
      by_cases hnormal : m.log2 + 1 = 24
      · have hlow : 2 ^ 23 ≤ m := (Nat.le_log2 pos.ne').1 (by omega)
        rw [if_pos hnormal, unpack_normal (by omega) (by omega) hlow hm pos]
        congr 1
        omega
      · have hlow : m < 2 ^ 23 := by
          by_contra hge
          have := (Nat.le_log2 pos.ne').2 (not_lt.1 hge)
          have := (Nat.log2_lt pos.ne').2 hm
          omega
        obtain rfl : e = -149 := hfull.resolve_left (by omega)
        rw [if_neg hnormal, unpack_subnormal hlow pos]

/-! ## Values of packed numbers -/

theorem saturated_mono : Monotone saturated := by
  intro r r' h
  unfold saturated
  split_ifs with htop htop' hbot' hbot
  · exact le_rfl
  · linarith
  · linarith
  · exact le_top
  · exact bot_le
  · exact bot_le
  · exact le_top
  · linarith
  · exact EReal.coe_le_coe_iff.2 h

theorem saturated_of_abs_lt {r : ℝ} (h : |r| < 2 ^ 128) : saturated r = r := by
  rw [abs_lt] at h
  rw [saturated, if_neg (not_le.2 h.2), if_neg (not_le.2 h.1)]

/-- The magnitude of a canonical number lies below the next power of two for its exponent. -/
theorem mul_two_zpow_lt {m : ℕ} {e e' : ℤ} (hm : m < 2 ^ 24) (he : e + 24 ≤ e') :
    (m : ℝ) * 2 ^ e < 2 ^ e' := by
  calc (m : ℝ) * 2 ^ e < 2 ^ (24 : ℤ) * 2 ^ e := by
        gcongr
        exact_mod_cast hm
    _ = 2 ^ (e + 24) := by rw [add_comm, zpow_add₀ (by norm_num)]
    _ ≤ 2 ^ e' := zpow_le_zpow_right₀ (by norm_num) he

theorem le_mul_two_zpow {m : ℕ} {e e' : ℤ} (hm : 2 ^ 23 ≤ m) (he : e' ≤ e + 23) :
    (2 : ℝ) ^ e' ≤ m * 2 ^ e := by
  calc (2 : ℝ) ^ e' ≤ 2 ^ (e + 23) := zpow_le_zpow_right₀ (by norm_num) he
    _ = 2 ^ (23 : ℤ) * 2 ^ e := by rw [add_comm, zpow_add₀ (by norm_num)]
    _ ≤ m * 2 ^ e := by
        gcongr
        exact_mod_cast hm

theorem saturated_neg (r : ℝ) : saturated (-r) = -saturated r := by
  have hpos : (0 : ℝ) < 2 ^ 128 := by positivity
  unfold saturated
  split_ifs with h h' h' h h' h
  all_goals first | rfl | (exfalso; linarith)

/-- A finite canonical number overflows just if its value does. -/
theorem valueUnpacked_settled {number : UnpackedFloat} (h : Canonical number)
    (hfinite : number.isFinite = true) :
    valueUnpacked (settled number) = saturated (realUnpacked number) := by
  cases number with
  | infinity => exact absurd hfinite Bool.false_ne_true
  | notANumber => exact absurd hfinite Bool.false_ne_true
  | zero sign =>
    have hsmall : |(0 : ℝ)| < 2 ^ 128 := by norm_num
    exact (saturated_of_abs_lt hsmall).symm
  | finite sign m e pos =>
    obtain ⟨hm, -, hfull⟩ := h
    rcases le_or_gt 105 e with hover | hunder
    · have hlarge : (2 : ℝ) ^ (128 : ℤ) ≤ m * 2 ^ e :=
        le_mul_two_zpow (hfull.resolve_right (by omega)) (by omega)
      have htop : saturated (m * 2 ^ e) = ⊤ := if_pos (by exact_mod_cast hlarge)
      rw [settled_of_le hover]
      cases sign with
      | positive => rw [realUnpacked_positive, htop, valueUnpacked]
      | negative => rw [realUnpacked_negative, saturated_neg, htop, valueUnpacked, EReal.neg_top]
    · have hsmall : (m : ℝ) * 2 ^ e < 2 ^ (128 : ℤ) := mul_two_zpow_lt hm (by omega)
      have habs : |realUnpacked (.finite sign m e pos)| = m * 2 ^ e := by
        have hnonneg : (0 : ℝ) ≤ m * 2 ^ e := by positivity
        cases sign with
        | positive => rw [realUnpacked_positive, abs_of_nonneg hnonneg]
        | negative => rw [realUnpacked_negative, abs_neg, abs_of_nonneg hnonneg]
      rw [settled_of_lt hunder, valueUnpacked_of_isFinite rfl, saturated_of_abs_lt]
      rw [habs]
      exact_mod_cast hsmall

/-- The value of a packed number. -/
theorem value_pack {number : UnpackedFloat} (h : Canonical number) (hfinite : number.isFinite = true) :
    value (.ofModel (.pack number)) = saturated (realUnpacked number) := by
  rw [← valueUnpacked_settled h hfinite, ← unpack_pack h]
  rfl

/-! ## The order of values -/

/-- Canonical magnitudes are ordered by exponent and mantissa. -/
theorem magnitude_lt {m m' : ℕ} {e e' : ℤ} (hm : m < 2 ^ 24) (he : -149 ≤ e)
    (hfull' : 2 ^ 23 ≤ m' ∨ e' = -149) (h : e < e' ∨ e = e' ∧ m < m') :
    (m : ℝ) * 2 ^ e < m' * 2 ^ e' := by
  rcases h with hlt | ⟨rfl, hlt⟩
  · calc (m : ℝ) * 2 ^ e < 2 ^ (e' + 23) := mul_two_zpow_lt hm (by omega)
      _ ≤ m' * 2 ^ e' := le_mul_two_zpow (hfull'.resolve_right (by omega)) le_rfl
  · gcongr

@[simp] theorem valueUnpacked_finite (sign : Sign) (m : ℕ) (e : ℤ) (pos : 0 < m) :
    valueUnpacked (.finite sign m e pos) = realUnpacked (.finite sign m e pos) := rfl

@[simp] theorem valueUnpacked_zero (sign : Sign) : valueUnpacked (.zero sign) = 0 := rfl

@[simp] theorem valueUnpacked_notANumber : valueUnpacked .notANumber = 0 := rfl

@[simp] theorem valueUnpacked_positive : valueUnpacked (.infinity .positive) = ⊤ := rfl

@[simp] theorem valueUnpacked_negative : valueUnpacked (.infinity .negative) = ⊥ := rfl

/-- The value of a canonical number grows with its place among all others. -/
theorem valueUnpacked_lt {a b : UnpackedFloat} (ha : Canonical a) (hb : Canonical b)
    (h : rankUnpacked a < rankUnpacked b) : valueUnpacked a < valueUnpacked b := by
  rcases a with (_ | _) | _ | _ | ⟨_ | _, m₁, e₁, pos₁⟩ <;>
    rcases b with (_ | _) | _ | _ | ⟨_ | _, m₂, e₂, pos₂⟩ <;>
    simp [rankUnpacked, Prod.Lex.toLex_lt_toLex] at h ⊢
  case finite.negative.finite.positive =>
    exact (realUnpacked_neg m₁ e₁ pos₁).trans (realUnpacked_pos m₂ e₂ pos₂)
  case finite.negative.finite.negative =>
    rw [realUnpacked_negative, realUnpacked_negative, neg_lt_neg_iff]
    exact magnitude_lt hb.1 hb.2.1 ha.2.2 (h.imp_right (.imp_left Eq.symm))
  case finite.positive.finite.positive =>
    rw [realUnpacked_positive, realUnpacked_positive]
    exact magnitude_lt ha.1 ha.2.1 hb.2.2 h

theorem valueUnpacked_congr {a b : UnpackedFloat} (h : rankUnpacked a = rankUnpacked b) :
    valueUnpacked a = valueUnpacked b := by
  rcases a with (_ | _) | _ | _ | ⟨_ | _, m₁, e₁, pos₁⟩ <;>
    rcases b with (_ | _) | _ | _ | ⟨_ | _, m₂, e₂, pos₂⟩ <;>
    simp [rankUnpacked] at h ⊢
  case finite.negative.finite.negative =>
    obtain ⟨rfl, rfl⟩ := h
    rfl
  case finite.positive.finite.positive =>
    obtain ⟨rfl, rfl⟩ := h
    rfl

variable {x y : Float32}

theorem rank_lt_iff_value : rank x < rank y ↔ value x < value y := by
  have lt {x y : Float32} (h : rank x < rank y) : value x < value y :=
    valueUnpacked_lt (canonical_toModel x).1 (canonical_toModel y).1 h
  refine ⟨lt, fun h => ?_⟩
  rcases lt_trichotomy (rank x) (rank y) with hlt | heq | hgt
  · exact hlt
  · exact absurd (valueUnpacked_congr heq) h.ne
  · exact absurd (lt hgt) h.asymm

/-- Numbers are compared by their values. -/
theorem lt_iff_value : x < y ↔ x.isNaN = false ∧ y.isNaN = false ∧ value x < value y := by
  rw [lt_iff_rank, rank_lt_iff_value]

theorem le_iff_value : x ≤ y ↔ x.isNaN = false ∧ y.isNaN = false ∧ value x ≤ value y := by
  rw [le_iff_rank, ← not_lt, rank_lt_iff_value, not_lt]

theorem beq_iff_value : (x == y) = true ↔ x.isNaN = false ∧ y.isNaN = false ∧ value x = value y := by
  have heq : rank x = rank y ↔ value x = value y := by
    simp only [le_antisymm_iff, ← not_lt, rank_lt_iff_value]
  rw [beq_iff_rank, heq]

end FrameDetect.Number
