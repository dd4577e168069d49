import FrameDetect.Number.Order
import Mathlib

/-!
# Comparison of single precision numbers

Comparison looks at the sign of a number, then at its exponent, then at its mantissa, and fails for what
is not a number.  `rank` puts these three into one linear order, so that `<`, `≤` and `==` of numbers
become the order of their ranks, and what holds in a linear order holds of numbers.
-/

namespace FrameDetect.Number

open Float.Model (UnpackedFloat)

/-- The place of an unpacked number among all others.  Both zeros have the same place. -/
def rankUnpacked : UnpackedFloat → Int ×ₗ Int ×ₗ Int
  | .infinity .negative => toLex (-2, toLex (0, 0))
  | .finite .negative m e _ => toLex (-1, toLex (-e, -(m : Int)))
  | .zero _ | .notANumber => toLex (0, toLex (0, 0))
  | .finite .positive m e _ => toLex (1, toLex (e, (m : Int)))
  | .infinity .positive => toLex (2, toLex (0, 0))

/-- The place of a number among all others. -/
def rank (x : Float32) : Int ×ₗ Int ×ₗ Int := rankUnpacked x.toModel.unpack

/-- Pairs are compared by their first parts, and by their second parts if these are equal. -/
private theorem cmp_toLex {α β : Type} [LinearOrder α] [LinearOrder β] (a₁ a₂ : α) (b₁ b₂ : β) :
    cmp (toLex (a₁, b₁)) (toLex (a₂, b₂)) = (cmp a₁ a₂).then (cmp b₁ b₂) := by
  apply Ordering.Compares.cmp_eq
  rcases lt_trichotomy a₁ a₂ with h | h | h
  · rw [h.cmp_eq_lt]
    exact Prod.Lex.toLex_lt_toLex.2 (.inl h)
  · rw [h.cmp_eq_eq]
    rcases lt_trichotomy b₁ b₂ with h' | h' | h'
    · rw [h'.cmp_eq_lt]
      exact Prod.Lex.toLex_lt_toLex.2 (.inr ⟨h, h'⟩)
    · rw [h'.cmp_eq_eq, h, h']
      exact rfl
    · rw [h'.cmp_eq_gt]
      exact Prod.Lex.toLex_lt_toLex.2 (.inr ⟨h.symm, h'⟩)
  · rw [h.cmp_eq_gt]
    exact Prod.Lex.toLex_lt_toLex.2 (.inl h)

/-- Positive numbers are compared by exponent and mantissa. -/
private theorem compare_magnitude (e₁ e₂ : Int) (m₁ m₂ : Nat) :
    (compare e₁ e₂).then (compare m₁ m₂) = (cmp e₁ e₂).then (cmp (m₁ : Int) m₂) := by
  have cast : cmp (m₁ : Int) m₂ = cmp m₁ m₂ :=
    StrictMono.cmp_map_eq (fun _ _ h => Int.ofNat_lt.2 h) m₁ m₂
  rw [cast, (compare_iff e₁ e₂ |>.1 rfl).cmp_eq, (compare_iff m₁ m₂ |>.1 rfl).cmp_eq]

/-- Negation turns the order around. -/
private theorem cmp_neg (a b : Int) : cmp (-a) (-b) = (cmp a b).swap := by
  rw [cmp_swap]
  exact StrictAnti.cmp_map_eq (fun _ _ h => Int.neg_lt_neg h) a b

/-- What are numbers is compared by its ranks. -/
theorem compare_unpacked {a b : UnpackedFloat} (ha : a.isNaN = false) (hb : b.isNaN = false) :
    a.compare b = some (cmp (rankUnpacked a) (rankUnpacked b)) := by
  rcases a with (_ | _) | _ | _ | ⟨_ | _, m₁, e₁, h₁⟩ <;>
    rcases b with (_ | _) | _ | _ | ⟨_ | _, m₂, e₂, h₂⟩ <;>
    simp only [UnpackedFloat.isNaN, Bool.true_eq_false] at ha hb <;>
    simp only [UnpackedFloat.compare, rankUnpacked, cmp_toLex, compare_magnitude, cmp_neg,
      Ordering.swap_then, cmp_self_eq_eq]
  all_goals rfl

/-- What is not a number is compared with nothing. -/
theorem compare_unpacked_eq_none {a b : UnpackedFloat} (h : a.isNaN = true ∨ b.isNaN = true) :
    a.compare b = none := by
  rcases a with (_ | _) | _ | _ | ⟨_ | _, _, _, _⟩ <;>
    rcases b with (_ | _) | _ | _ | ⟨_ | _, _, _, _⟩ <;>
    first | rfl | (rcases h with h | h <;> exact absurd h Bool.false_ne_true)

/-- The result of a comparison satisfies `p` just if both are numbers and their ranks compare so. -/
private theorem compare_any_iff {a b : UnpackedFloat} (p : Ordering → Prop) :
    (∃ o, a.compare b = some o ∧ p o) ↔
      a.isNaN = false ∧ b.isNaN = false ∧ p (cmp (rankUnpacked a) (rankUnpacked b)) := by
  cases ha : a.isNaN with
  | true => simp [compare_unpacked_eq_none (.inl ha)]
  | false =>
    cases hb : b.isNaN with
    | true => simp [compare_unpacked_eq_none (.inr hb)]
    | false => simp [compare_unpacked ha hb]

variable {a b c : Float32}

theorem lt_iff_rank : a < b ↔ a.isNaN = false ∧ b.isNaN = false ∧ rank a < rank b := by
  rw [← cmp_eq_lt_iff]
  refine Iff.trans ?_ (compare_any_iff (· = .lt))
  change decide ((a.toModel.unpack.compare b.toModel.unpack == some .lt) = true) = true ↔ _
  simp

theorem le_iff_rank : a ≤ b ↔ a.isNaN = false ∧ b.isNaN = false ∧ rank a ≤ rank b := by
  have isLE : (cmp (rank a) (rank b)).isLE = true ↔ rank a ≤ rank b := by
    rw [Ordering.isLE_iff_ne_gt, cmp_eq_gt_iff, not_lt]
  rw [← isLE]
  refine Iff.trans ?_ (compare_any_iff (·.isLE = true))
  change decide ((a.toModel.unpack.compare b.toModel.unpack).any (·.isLE) = true) = true ↔ _
  simp [Option.any_eq_true]

theorem beq_iff_rank : (a == b) = true ↔ a.isNaN = false ∧ b.isNaN = false ∧ rank a = rank b := by
  rw [← cmp_eq_eq_iff (rank a)]
  refine Iff.trans ?_ (compare_any_iff (· = .eq))
  change (a.toModel.unpack.compare b.toModel.unpack == some .eq) = true ↔ _
  simp

/-! ## The order of numbers -/

theorem not_isNaN_of_le (h : a ≤ b) : a.isNaN = false ∧ b.isNaN = false :=
  ⟨(le_iff_rank.1 h).1, (le_iff_rank.1 h).2.1⟩

/-- Of two numbers, one that is not below the other is at least the other. -/
theorem not_lt_iff (ha : a.isNaN = false) (hb : b.isNaN = false) : ¬a < b ↔ b ≤ a := by
  simp only [lt_iff_rank, le_iff_rank, ha, hb, true_and, not_lt]

/-- Two numbers are never unordered. -/
theorem lt_or_beq_or_lt (ha : a.isNaN = false) (hb : b.isNaN = false) : a < b ∨ (a == b) = true ∨ b < a := by
  simp only [lt_iff_rank, beq_iff_rank, ha, hb, true_and]
  exact lt_trichotomy (rank a) (rank b)

theorem not_lt_of_lt (hab : a < b) : ¬b < a := by
  intro hba
  exact lt_asymm (lt_iff_rank.1 hab).2.2 (lt_iff_rank.1 hba).2.2

theorem not_lt_of_beq (h : (a == b) = true) : ¬a < b ∧ ¬b < a := by
  obtain ⟨-, -, hrank⟩ := beq_iff_rank.1 h
  exact ⟨fun hlt => (lt_iff_rank.1 hlt).2.2.ne hrank, fun hlt => (lt_iff_rank.1 hlt).2.2.ne' hrank⟩

theorem lt_imp_le (h : a < b) : a ≤ b := by
  obtain ⟨ha, hb, hrank⟩ := lt_iff_rank.1 h
  exact le_iff_rank.2 ⟨ha, hb, hrank.le⟩

theorem le_trans_le (hab : a ≤ b) (hbc : b ≤ c) : a ≤ c := by
  obtain ⟨ha, -, hab⟩ := le_iff_rank.1 hab
  obtain ⟨-, hc, hbc⟩ := le_iff_rank.1 hbc
  exact le_iff_rank.2 ⟨ha, hc, hab.trans hbc⟩

theorem lt_trans_le (hab : a < b) (hbc : b ≤ c) : a < c := by
  obtain ⟨ha, -, hab⟩ := lt_iff_rank.1 hab
  obtain ⟨-, hc, hbc⟩ := le_iff_rank.1 hbc
  exact lt_iff_rank.2 ⟨ha, hc, hab.trans_le hbc⟩

theorem le_trans_lt (hab : a ≤ b) (hbc : b < c) : a < c := by
  obtain ⟨ha, -, hab⟩ := le_iff_rank.1 hab
  obtain ⟨-, hc, hbc⟩ := lt_iff_rank.1 hbc
  exact lt_iff_rank.2 ⟨ha, hc, hab.trans_lt hbc⟩

end FrameDetect.Number
