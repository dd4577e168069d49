import FrameDetect.Proofs.Number.Arithmetic

/-!
# Numbers up to the sign of zero

The two zeros compare equal, but they are different numbers, and the lesser or the greater of them is the
one that happens to come first.  Numbers that differ in no more than the sign of a zero are alike.  Sums,
differences, products and comparisons of such numbers are alike again, and quotients are as long as the
divisor stays the same.
-/

namespace FrameDetect.Number

open Float.Model (Format UnpackedFloat)

/-- Unpacked numbers that differ at most in the sign of a zero. -/
inductive AlikeUnpacked : UnpackedFloat → UnpackedFloat → Prop
  | refl (a : UnpackedFloat) : AlikeUnpacked a a
  | zeros (s t : UnpackedFloat.Sign) : AlikeUnpacked (.zero s) (.zero t)

/-- Numbers that differ at most in the sign of a zero. -/
def Alike (x y : Float32) : Prop := AlikeUnpacked x.toModel.unpack y.toModel.unpack

namespace AlikeUnpacked

variable {a a' b b' : UnpackedFloat} {format : Format}

theorem add (ha : AlikeUnpacked a a') (hb : AlikeUnpacked b b') :
    AlikeUnpacked (UnpackedFloat.add format a b) (UnpackedFloat.add format a' b') := by
  cases ha with
  | refl =>
    cases hb with
    | refl => exact .refl _
    | zeros s t =>
      cases a with
      | zero r =>
        simp only [UnpackedFloat.add]
        split <;> split <;> exact .zeros _ _
      | _ => exact .refl _
  | zeros s t =>
    cases hb with
    | refl =>
      cases b with
      | zero r =>
        simp only [UnpackedFloat.add]
        split <;> split <;> exact .zeros _ _
      | _ => exact .refl _
    | zeros s' t' =>
      simp only [UnpackedFloat.add]
      split <;> split <;> exact .zeros _ _

theorem neg (hb : AlikeUnpacked b b') : AlikeUnpacked b.neg b'.neg := by
  cases hb with
  | refl => exact .refl _
  | zeros s t => exact .zeros _ _

theorem mul (ha : AlikeUnpacked a a') (hb : AlikeUnpacked b b') :
    AlikeUnpacked (UnpackedFloat.mul format a b) (UnpackedFloat.mul format a' b') := by
  cases ha with
  | refl =>
    cases hb with
    | refl => exact .refl _
    | zeros s t => cases a <;> first | exact .refl _ | exact .zeros _ _
  | zeros s t =>
    cases hb with
    | refl => cases b <;> first | exact .refl _ | exact .zeros _ _
    | zeros s' t' => exact .zeros _ _

theorem div (ha : AlikeUnpacked a a') :
    AlikeUnpacked (UnpackedFloat.div format a b) (UnpackedFloat.div format a' b) := by
  cases ha with
  | refl => exact .refl _
  | zeros s t => cases b <;> first | exact .refl _ | exact .zeros _ _

theorem eq_or_zeros (h : AlikeUnpacked a b) : a = b ∨ ∃ s t, a = .zero s ∧ b = .zero t := by
  cases h with
  | refl => exact .inl rfl
  | zeros s t => exact .inr ⟨s, t, rfl, rfl⟩

theorem isNaN_eq (h : AlikeUnpacked a b) : a.isNaN = b.isNaN := by
  cases h <;> rfl

theorem rank_eq (h : AlikeUnpacked a b) : rankUnpacked a = rankUnpacked b := by
  cases h <;> rfl

/-- Numbers of one place are alike. -/
theorem of_rank (ha : a.isNaN = false) (hb : b.isNaN = false) (h : rankUnpacked a = rankUnpacked b) :
    AlikeUnpacked a b := by
  rcases a with (_ | _) | _ | _ | ⟨_ | _, m₁, e₁, pos₁⟩ <;>
    rcases b with (_ | _) | _ | _ | ⟨_ | _, m₂, e₂, pos₂⟩ <;>
    simp [rankUnpacked, UnpackedFloat.isNaN] at h ha hb
  all_goals first | exact .refl _ | exact .zeros _ _ | skip
  all_goals
    obtain ⟨rfl, rfl⟩ := h
    exact .refl _

end AlikeUnpacked

/-- The sum does not depend on the order, not even in the sign of a zero. -/
theorem add_comm_unpacked (format : Format) (a b : UnpackedFloat) :
    UnpackedFloat.add format a b = UnpackedFloat.add format b a := by
  rcases a with (_ | _) | _ | (_ | _) | ⟨s₁, m₁, e₁, pos₁⟩ <;>
    rcases b with (_ | _) | _ | (_ | _) | ⟨s₂, m₂, e₂, pos₂⟩ <;> try rfl
  simp only [UnpackedFloat.add, min_comm e₁ e₂, Int.add_comm (s₁.apply _)]

/-! ## Single precision -/

variable {x x' y y' : Float32}

theorem add_comm_single (x y : Float32) : x + y = y + x :=
  congrArg (fun a => Float32.ofModel (.pack a)) (add_comm_unpacked .binary32 _ _)

/-- Packing keeps numbers alike, as each zero comes back with its sign. -/
theorem alike_pack {a b : UnpackedFloat} (h : AlikeUnpacked a b) :
    Alike (.ofModel (.pack a)) (.ofModel (.pack b)) := by
  cases h with
  | refl => exact .refl _
  | zeros s t => cases s <;> cases t <;> exact .zeros _ _

namespace Alike

theorem same (x : Float32) : Alike x x := AlikeUnpacked.refl _

theorem isNaN_eq (h : Alike x y) : x.isNaN = y.isNaN := AlikeUnpacked.isNaN_eq h

theorem rank_eq (h : Alike x y) : rank x = rank y := AlikeUnpacked.rank_eq h

theorem of_rank (hx : x.isNaN = false) (hy : y.isNaN = false) (h : rank x = rank y) : Alike x y :=
  AlikeUnpacked.of_rank hx hy h

theorem of_isNaN (hx : x.isNaN = true) (hy : y.isNaN = true) : Alike x y := by
  have unpacked : ∀ a : UnpackedFloat, a.isNaN = true → a = .notANumber := by
    intro a ha
    cases a <;> first | rfl | cases ha
  rw [Alike, unpacked _ hx, unpacked _ hy]
  exact .refl _

theorem lt_iff (hx : Alike x x') (hy : Alike y y') : x < y ↔ x' < y' := by
  rw [lt_iff_rank, lt_iff_rank, hx.isNaN_eq, hy.isNaN_eq, hx.rank_eq, hy.rank_eq]

theorem le_iff (hx : Alike x x') (hy : Alike y y') : x ≤ y ↔ x' ≤ y' := by
  rw [le_iff_rank, le_iff_rank, hx.isNaN_eq, hy.isNaN_eq, hx.rank_eq, hy.rank_eq]

theorem sub (hx : Alike x x') (hy : Alike y y') : Alike (x - y) (x' - y') := by
  apply alike_pack
  rw [sub_eq_add_opposite, sub_eq_add_opposite]
  exact AlikeUnpacked.add hx (AlikeUnpacked.neg hy)

theorem mul (hx : Alike x x') (hy : Alike y y') : Alike (x * y) (x' * y') :=
  alike_pack (AlikeUnpacked.mul hx hy)

/-- The zeros make different divisors, so that the divisors must not be zero. -/
theorem div (hx : Alike x x') (hy : Alike y y') (h : ¬y ≤ 0) : Alike (x / y) (x' / y') := by
  apply alike_pack
  obtain same | ⟨s, t, hs, -⟩ := AlikeUnpacked.eq_or_zeros hy
  · rw [same]
    exact AlikeUnpacked.div hx
  · exact absurd (le_zero_of_unpack hs) h

theorem lesser (hx : Alike x x') (hy : Alike y y') : Alike (lesser x y) (lesser x' y') := by
  simp only [Number.lesser, hx.isNaN_eq, hy.isNaN_eq, hy.lt_iff hx]
  split_ifs
  · exact hy
  · exact hx
  · exact hy
  · exact hx

theorem greater (hx : Alike x x') (hy : Alike y y') : Alike (greater x y) (greater x' y') := by
  simp only [Number.greater, hx.isNaN_eq, hy.isNaN_eq, hx.lt_iff hy]
  split_ifs
  · exact hy
  · exact hx
  · exact hy
  · exact hx

end Alike

/-- Numbers neither of which is below the other are alike. -/
theorem alike_of_not_lt (hx : x.isNaN = false) (hy : y.isNaN = false) (hxy : ¬x < y) (hyx : ¬y < x) :
    Alike x y := by
  rw [lt_iff_rank] at hxy hyx
  simp only [hx, hy, true_and, not_lt] at hxy hyx
  exact .of_rank hx hy (le_antisymm hyx hxy)

/-- Numbers neither of which goes before the other are alike, and so are the two that are taken. -/
theorem alike_choice {r : Float32 → Float32 → Prop} [DecidableRel r]
    (asymmetric : r x y → ¬r y x)
    (total : x.isNaN = false → y.isNaN = false → ¬r x y → ¬r y x → Alike x y) :
    Alike (if x.isNaN then y else if y.isNaN then x else if r y x then y else x)
      (if y.isNaN then x else if x.isNaN then y else if r x y then x else y) := by
  cases hx : x.isNaN with
  | true =>
    cases hy : y.isNaN with
    | true => exact .of_isNaN hy hx
    | false => exact .same y
  | false =>
    cases hy : y.isNaN with
    | true => exact .same x
    | false =>
      show Alike (if r y x then y else x) (if r x y then x else y)
      by_cases hxy : r x y
      · rw [if_neg (asymmetric hxy), if_pos hxy]
        exact .same x
      · rw [if_neg hxy]
        split_ifs with hyx
        · exact .same y
        · exact total hx hy hxy hyx

theorem lesser_comm (x y : Float32) : Alike (lesser x y) (lesser y x) :=
  alike_choice not_lt_of_lt alike_of_not_lt

theorem greater_comm (x y : Float32) : Alike (greater x y) (greater y x) := by
  apply alike_choice (r := fun a b => b < a) not_lt_of_lt
  intro hx hy hxy hyx
  exact alike_of_not_lt hx hy hyx hxy

end FrameDetect.Number
