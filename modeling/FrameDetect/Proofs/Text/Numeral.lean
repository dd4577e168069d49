import Mathlib.Tactic.Ring
import FrameDetect.Proofs.Text.Blank
import FrameDetect.Text.Integer

/-!
# Decimal numerals

An integer is read digit by digit, and reading ends where the range is left.  As more digits never lead back towards
zero, what is read in the end are the numerals of the integers in the range.
-/

namespace FrameDetect.Number

/-- The integers of a range. -/
def Range.Contains (range : Range) (n : ℤ) : Prop := range.least ≤ n ∧ n ≤ range.greatest

end FrameDetect.Number

namespace FrameDetect.Text

open FrameDetect.Number (Range)

variable {range : Range} {sign n : ℤ} {m : ℕ} {cs digits : List Char}

/-! ## Digits -/

/-- Digits, one at least. -/
structure Digits (cs : List Char) : Prop where
  nonempty : cs ≠ []
  isDigit : ∀ c ∈ cs, c.isDigit = true

/-- The number that digits denote after others that denote `m`. -/
def denoted (m : ℕ) (digits : List Char) : ℕ :=
  digits.foldl (fun value c => 10 * value + (c.toNat - '0'.toNat)) m

theorem le_denoted (m : ℕ) (digits : List Char) : m ≤ denoted m digits := by
  induction digits generalizing m with
  | nil => exact le_rfl
  | cons c rest ih =>
    have hrest := ih (10 * m + (c.toNat - '0'.toNat))
    show m ≤ denoted (10 * m + (c.toNat - '0'.toNat)) rest
    omega

/-- Digits are read to their end just if the number that they denote is in the range. -/
theorem readDigits_eq_ok_iff (hsign : sign = 1 ∨ sign = -1) (hleast : range.least ≤ 0)
    (hgreatest : 0 ≤ range.greatest) (hm : range.Contains (sign * m)) :
    readDigits range sign (sign * m) cs = .ok n ↔
      (∀ c ∈ cs, c.isDigit = true) ∧ n = sign * denoted m cs ∧ range.Contains n := by
  induction cs generalizing m with
  | nil =>
    rw [readDigits]
    constructor
    · rintro ⟨⟩
      exact ⟨nofun, rfl, hm⟩
    · rintro ⟨-, rfl, -⟩
      rfl
  | cons c rest ih =>
    rw [List.forall_mem_cons, readDigits, digit?]
    by_cases hc : c.isDigit = true
    · rw [if_pos hc]
      show (if range.greatest < 10 * (sign * m) + sign * ((c.toNat - '0'.toNat : ℕ) : ℤ) then _ else _) = _ ↔
        (_ ∧ _) ∧ n = sign * denoted (10 * m + (c.toNat - '0'.toNat)) rest ∧ _
      generalize c.toNat - '0'.toNat = d
      have hnext : 10 * (sign * m) + sign * d = sign * ((10 * m + d : ℕ) : ℤ) := by
        push_cast
        ring
      -- what all digits denote is no closer to zero
      have hwithin : range.Contains (sign * denoted (10 * m + d) rest) → range.Contains (sign * (10 * m + d : ℕ)) := by
        have hgrows := le_denoted (10 * m + d) rest
        unfold Range.Contains
        rcases hsign with rfl | rfl <;> omega
      rw [hnext, and_iff_right hc]
      by_cases hlarge : range.greatest < sign * (10 * m + d : ℕ)
      · rw [if_pos hlarge]
        refine iff_of_false nofun ?_
        rintro ⟨-, rfl, hcontains⟩
        exact not_lt.2 (hwithin hcontains).2 hlarge
      · rw [if_neg hlarge]
        by_cases hsmall : sign * (10 * m + d : ℕ) < range.least
        · rw [if_pos hsmall]
          refine iff_of_false nofun ?_
          rintro ⟨-, rfl, hcontains⟩
          exact not_lt.2 (hwithin hcontains).1 hsmall
        · rw [if_neg hsmall]
          exact ih ⟨not_lt.1 hsmall, not_lt.1 hlarge⟩
    · rw [if_neg hc]
      exact iff_of_false nofun (fun h => hc h.1.1)

/-! ## Signs -/

/-- The numerals of an integer: digits, one at least, after a sign or none. -/
inductive Numeral : List Char → ℤ → Prop
  | plain {digits : List Char} : Digits digits → Numeral digits (denoted 0 digits)
  | plus {digits : List Char} : Digits digits → Numeral ('+' :: digits) (denoted 0 digits)
  | minus {digits : List Char} : Digits digits → Numeral ('-' :: digits) (-denoted 0 digits)

theorem not_digits_of_sign {c : Char} (hc : c.isDigit = false) : ¬Digits (c :: cs) := by
  intro h
  rw [h.isDigit c List.mem_cons_self] at hc
  cases hc

theorem numeral_plus_iff : Numeral ('+' :: digits) n ↔ Digits digits ∧ n = denoted 0 digits := by
  constructor
  · rintro (h | h | h)
    · exact absurd h (not_digits_of_sign rfl)
    · exact ⟨h, rfl⟩
  · rintro ⟨h, rfl⟩
    exact .plus h

theorem numeral_minus_iff : Numeral ('-' :: digits) n ↔ Digits digits ∧ n = -denoted 0 digits := by
  constructor
  · rintro (h | h | h)
    · exact absurd h (not_digits_of_sign rfl)
    · exact ⟨h, rfl⟩
  · rintro ⟨h, rfl⟩
    exact .minus h

theorem numeral_plain_iff {c : Char} (hplus : c ≠ '+') (hminus : c ≠ '-') :
    Numeral (c :: cs) n ↔ Digits (c :: cs) ∧ n = denoted 0 (c :: cs) := by
  constructor
  · rintro (h | h | h)
    · exact ⟨h, rfl⟩
    · exact absurd rfl hplus
    · exact absurd rfl hminus
  · rintro ⟨h, rfl⟩
    exact .plain h

/-- No blank character stands at the ends of a numeral. -/
theorem Numeral.trimmed (h : Numeral cs n) : Trimmed cs := by
  refine trimmed_of_forall ?_
  cases h with
  | plain hdigits => exact fun c hc => not_isBlank_of_isDigit (hdigits.isDigit c hc)
  | plus hdigits =>
    exact List.forall_mem_cons.2 ⟨by decide, fun c hc => not_isBlank_of_isDigit (hdigits.isDigit c hc)⟩
  | minus hdigits =>
    exact List.forall_mem_cons.2 ⟨by decide, fun c hc => not_isBlank_of_isDigit (hdigits.isDigit c hc)⟩

/-- What is left where a sign has been read. -/
theorem readDigits_zero_eq_ok_iff (hsign : sign = 1 ∨ sign = -1) (hleast : range.least ≤ 0)
    (hgreatest : 0 ≤ range.greatest) (hne : digits ≠ []) :
    readDigits range sign 0 digits = .ok n ↔
      (Digits digits ∧ n = sign * denoted 0 digits) ∧ range.Contains n := by
  have hzero : range.Contains (sign * (0 : ℕ)) := by
    rw [Nat.cast_zero, mul_zero]
    exact ⟨hleast, hgreatest⟩
  have hiff : readDigits range sign (sign * (0 : ℕ)) digits = .ok n ↔ _ :=
    readDigits_eq_ok_iff hsign hleast hgreatest hzero
  rw [Nat.cast_zero, mul_zero] at hiff
  rw [hiff, and_assoc]
  exact and_congr_left fun _ => ⟨fun h => ⟨hne, h⟩, fun h => h.isDigit⟩

/-- An integer of a range with negative numbers is read from its numerals and from no other text. -/
theorem readInteger_eq_ok_iff (hleast : range.least < 0) (hgreatest : 0 ≤ range.greatest) :
    readInteger range cs = .ok n ↔ Numeral cs n ∧ range.Contains n := by
  have hempty : ¬Digits [] := fun h => h.nonempty rfl
  rw [readInteger.eq_def]
  split
  · refine iff_of_false nofun ?_
    rintro ⟨h | h | h, -⟩
    exact hempty h
  · rw [numeral_plus_iff]
    exact iff_of_false nofun fun h => hempty h.1.1
  · rw [numeral_minus_iff]
    exact iff_of_false nofun fun h => hempty h.1.1
  · next digits hne =>
    rw [numeral_plus_iff, readDigits_zero_eq_ok_iff (.inl rfl) hleast.le hgreatest (fun h => hne (h ▸ rfl)), one_mul]
  · next digits hne =>
    rw [if_pos hleast, numeral_minus_iff,
      readDigits_zero_eq_ok_iff (.inr rfl) hleast.le hgreatest (fun h => hne (h ▸ rfl)), neg_one_mul]
  · next hnil _ _ hplus hminus =>
    cases cs with
    | nil => exact absurd rfl hnil
    | cons c rest =>
      have hc : c ≠ '+' := fun h => hplus rest (h ▸ rfl)
      have hc' : c ≠ '-' := fun h => hminus rest (h ▸ rfl)
      rw [numeral_plain_iff hc hc', readDigits_zero_eq_ok_iff (.inl rfl) hleast.le hgreatest (List.cons_ne_nil _ _),
        one_mul]

/-! ## Decimal numbers -/

theorem digits_toDigits (k : ℕ) : Digits (Nat.toDigits 10 k) where
  nonempty := Nat.toDigits_ne_nil
  isDigit _ hc := Nat.isDigit_of_mem_toDigits (by decide) (by decide) hc

theorem denoted_toDigits (k : ℕ) : denoted 0 (Nat.toDigits 10 k) = k := by
  rw [denoted, ← Nat.ofDigitChars_eq_foldl]
  exact Nat.ofDigitChars_ten_toDigits

theorem toList_toString_natCast (k : ℕ) : (toString (k : ℤ)).toList = Nat.toDigits 10 k := by
  show (toString k).toList = _
  rw [Nat.toString_eq_ofList_toDigits, String.toList_ofList]

theorem toList_toString_neg {k : ℕ} (h : 0 < k) : (toString (-(k : ℤ))).toList = '-' :: Nat.toDigits 10 k := by
  obtain ⟨k, rfl⟩ := Nat.exists_eq_succ_of_ne_zero h.ne'
  show ("-" ++ toString (k + 1)).toList = _
  simp

/-- An integer as it is usually written is one of its numerals. -/
theorem numeral_toString (n : ℤ) : Numeral (toString n).toList n := by
  by_cases hn : n < 0
  · obtain ⟨k, rfl⟩ : ∃ k : ℕ, n = -k := ⟨n.natAbs, by omega⟩
    have hnumeral := Numeral.minus (digits_toDigits k)
    rwa [denoted_toDigits, ← toList_toString_neg (by omega)] at hnumeral
  · obtain ⟨k, rfl⟩ : ∃ k : ℕ, n = k := ⟨n.toNat, by omega⟩
    have hnumeral := Numeral.plain (digits_toDigits k)
    rwa [denoted_toDigits, ← toList_toString_natCast] at hnumeral

/-! ## Without a sign -/

/-- The numerals of a natural number: digits, one at least, after a plus sign or none. -/
inductive UnsignedNumeral : List Char → ℕ → Prop
  | plain {digits : List Char} : Digits digits → UnsignedNumeral digits (denoted 0 digits)
  | plus {digits : List Char} : Digits digits → UnsignedNumeral ('+' :: digits) (denoted 0 digits)

theorem unsignedNumeral_plus_iff : UnsignedNumeral ('+' :: digits) m ↔ Digits digits ∧ m = denoted 0 digits := by
  constructor
  · rintro (h | h)
    · exact absurd h (not_digits_of_sign rfl)
    · exact ⟨h, rfl⟩
  · rintro ⟨h, rfl⟩
    exact .plus h

theorem unsignedNumeral_plain_iff {c : Char} (hplus : c ≠ '+') :
    UnsignedNumeral (c :: cs) m ↔ Digits (c :: cs) ∧ m = denoted 0 (c :: cs) := by
  constructor
  · rintro (h | h)
    · exact ⟨h, rfl⟩
    · exact absurd rfl hplus
  · rintro ⟨h, rfl⟩
    exact .plain h

/-- A text denotes one number at most. -/
theorem UnsignedNumeral.unique {k : ℕ} (h : UnsignedNumeral cs m) (h' : UnsignedNumeral cs k) : m = k := by
  cases h with
  | plain hdigits =>
    cases h' with
    | plain _ => rfl
    | plus _ => exact absurd hdigits (not_digits_of_sign rfl)
  | plus _ => exact (unsignedNumeral_plus_iff.1 h').2.symm

/-- A natural number of a range is read from its numerals and from no other text; a minus sign is no part of them, not
even before zeros. -/
theorem readInteger_natural_eq_ok_iff (hleast : range.least = 0) (hgreatest : 0 ≤ range.greatest) :
    readInteger range cs = .ok n ↔ (∃ m, UnsignedNumeral cs m ∧ n = (m : ℕ)) ∧ range.Contains n := by
  have hempty : ¬Digits [] := fun h => h.nonempty rfl
  have hminus {rest : List Char} : ¬∃ m, UnsignedNumeral ('-' :: rest) m ∧ n = (m : ℕ) := by
    rintro ⟨m, h, -⟩
    exact not_digits_of_sign rfl ((unsignedNumeral_plain_iff (by decide)).1 h).1
  have hplus {rest : List Char} :
      (∃ m, UnsignedNumeral ('+' :: rest) m ∧ n = (m : ℕ)) ↔ Digits rest ∧ n = denoted 0 rest := by
    simp [unsignedNumeral_plus_iff, and_assoc]
  rw [readInteger.eq_def]
  split
  · refine iff_of_false nofun ?_
    rintro ⟨⟨m, h | h, -⟩, -⟩
    exact hempty h
  · rw [hplus]
    exact iff_of_false nofun fun h => hempty h.1.1
  · exact iff_of_false nofun fun h => hminus h.1
  · next digits hne =>
    rw [hplus, readDigits_zero_eq_ok_iff (.inl rfl) hleast.le hgreatest (fun h => hne (h ▸ rfl)), one_mul]
  · next digits hne =>
    rw [if_neg hleast.not_lt]
    exact iff_of_false nofun fun h => hminus h.1
  · next hnil _ _ hsign _ =>
    cases cs with
    | nil => exact absurd rfl hnil
    | cons c rest =>
      have hc : c ≠ '+' := fun h => hsign rest (h ▸ rfl)
      rw [readDigits_zero_eq_ok_iff (.inl rfl) hleast.le hgreatest (List.cons_ne_nil _ _), one_mul]
      simp [unsignedNumeral_plain_iff hc, and_assoc]

/-- Words stand for the natural numbers of a range where going there and back changes none of either. -/
theorem map_readInteger_eq_ok_iff {α : Type} {word : ℕ → α} {number : α → ℕ} (hleast : range.least = 0)
    (hnumber : ∀ m : ℕ, m ≤ range.greatest → number (word m) = m) (hword : ∀ k, word (number k) = k)
    (hrange : ∀ k, number k ≤ range.greatest) {k : α} :
    (readInteger range cs).map (fun n => word n.toNat) = .ok k ↔ UnsignedNumeral cs (number k) := by
  have hgreatest : 0 ≤ range.greatest := (Int.natCast_nonneg _).trans (hrange k)
  constructor
  · intro h
    cases hread : readInteger range cs with
    | error fault =>
      rw [hread] at h
      cases h
    | ok n =>
      obtain ⟨⟨m, hm, rfl⟩, hcontains⟩ := (readInteger_natural_eq_ok_iff hleast hgreatest).1 hread
      rw [hread] at h
      cases h
      show UnsignedNumeral cs (number (word (m : ℤ).toNat))
      rwa [Int.toNat_natCast, hnumber m hcontains.2]
  · intro h
    have hread : readInteger range cs = .ok (number k : ℤ) := by
      refine (readInteger_natural_eq_ok_iff hleast hgreatest).2 ⟨⟨_, h, rfl⟩, ?_, hrange k⟩
      rw [hleast]
      exact Int.natCast_nonneg _
    rw [hread]
    show Except.ok (word ((number k : ℤ).toNat)) = _
    rw [Int.toNat_natCast, hword]

theorem readUInt32_eq_ok_iff {text : String} {k : UInt32} :
    readUInt32 text = .ok k ↔ UnsignedNumeral text.toList k.toNat := by
  refine map_readInteger_eq_ok_iff rfl ?_ (fun _ => UInt32.ofNat_toNat) ?_
  · intro m hm
    have hlt : m < 2 ^ 32 := by
      simp only [unsigned32] at hm
      omega
    exact UInt32.toNat_ofNat_of_lt hlt
  · intro k
    have hlt := k.toNat_lt
    simp only [unsigned32]
    omega

theorem readUInt64_eq_ok_iff {text : String} {k : UInt64} :
    readUInt64 text = .ok k ↔ UnsignedNumeral text.toList k.toNat := by
  refine map_readInteger_eq_ok_iff rfl ?_ (fun _ => UInt64.ofNat_toNat) ?_
  · intro m hm
    have hlt : m < 2 ^ 64 := by
      simp only [unsigned64] at hm
      omega
    exact UInt64.toNat_ofNat_of_lt hlt
  · intro k
    have hlt := k.toNat_lt
    simp only [unsigned64]
    omega

end FrameDetect.Text
