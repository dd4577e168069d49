import FrameDetect.Json.Reader
import FrameDetect.Proofs.Basic
import FrameDetect.Proofs.Text.Numeral

/-!
# Which numbers are integers

A number is read as an integer just if it is written as one: digits without a needless zero before them, no point and no
exponent after them, and a value of 64 bits.  A minus sign makes an integer of any but zero.  Every other number is real.
-/

namespace FrameDetect.Json

open FrameDetect.Text

variable {negative : Bool} {significand count size exponent : ℕ} {n start : ℤ} {cs rest digits : List Char}
variable {number : Number}

/-! ## Literals -/

/-- Digits of which the first is a zero only if it is the only one. -/
structure Literal (digits : List Char) : Prop extends Digits digits where
  needed : digits.head? = some '0' → digits = ['0']

/-- A text that does not go on with a number. -/
def Ends (rest : List Char) : Prop := ∀ c ∈ rest.head?, c.isDigit = false ∧ c ≠ '.' ∧ c ≠ 'e' ∧ c ≠ 'E'

/-- A text goes on with an integer literal, and then with the rest. -/
inductive IntegerText : List Char → ℤ → List Char → Prop
  | natural {digits rest : List Char} :
    Literal digits → Ends rest → unsigned64.Contains (denoted 0 digits) →
      IntegerText (digits ++ rest) (denoted 0 digits) rest
  | negative {digits rest : List Char} :
    Literal digits → Ends rest → 0 < denoted 0 digits → signed64.Contains (-denoted 0 digits) →
      IntegerText ('-' :: (digits ++ rest)) (-denoted 0 digits) rest

/-! ## Digits -/

theorem startsWithDigit_cons (c : Char) : startsWithDigit (c :: cs) = c.isDigit := by
  by_cases hc : c.isDigit = true
  · simp [startsWithDigit, digit?, hc]
  · simp [startsWithDigit, digit?, hc]

theorem startsWithDigit_of_ends (h : Ends rest) : startsWithDigit rest = false := by
  cases rest with
  | nil => rfl
  | cons c rest =>
    rw [startsWithDigit_cons]
    exact (h c rfl).1

/-- Digits are appended to a significand to their end if it fits 64 bits. -/
theorem appendDigits_append (hdigits : ∀ c ∈ digits, c.isDigit = true)
    (hfits : denoted significand digits ≤ unsigned64.greatest) (hrest : startsWithDigit rest = false) :
    appendDigits significand count (digits ++ rest) = (denoted significand digits, count + digits.length, rest) := by
  induction digits generalizing significand count with
  | nil =>
    cases rest with
    | nil => rfl
    | cons c rest =>
      rw [startsWithDigit_cons] at hrest
      simp [appendDigits, digit?, hrest, denoted]
  | cons c digits ih =>
    obtain ⟨hc, hdigits⟩ := List.forall_mem_cons.1 hdigits
    have hnext := le_denoted (10 * significand + (c.toNat - '0'.toNat)) digits
    change (denoted (10 * significand + (c.toNat - '0'.toNat)) digits : ℤ) ≤ _ at hfits
    have hfits' : 10 * (significand : ℤ) + (c.toNat - '0'.toNat : ℕ) ≤ unsigned64.greatest := by omega
    rw [List.cons_append, appendDigits, digit?, if_pos hc]
    dsimp only
    rw [if_pos hfits', ih hdigits hfits, List.length_cons, Nat.add_assoc, Nat.add_comm 1]
    rfl

/-- What is appended are digits, and the significand fits. -/
theorem exists_of_appendDigits (hfits : significand ≤ unsigned64.greatest)
    (h : appendDigits significand count cs = (size, exponent, rest)) :
    ∃ digits, cs = digits ++ rest ∧ (∀ c ∈ digits, c.isDigit = true) ∧ size = denoted significand digits ∧
      size ≤ unsigned64.greatest := by
  fun_induction appendDigits significand count cs
  case case1 =>
    cases h
    exact ⟨[], rfl, nofun, rfl, hfits⟩
  case case2 c cs d hd hnext ih =>
    obtain ⟨digits, rfl, hdigits, hsize, hle⟩ := ih (by exact_mod_cast hnext) h
    obtain ⟨hc, hd⟩ : c.isDigit = true ∧ c.toNat - '0'.toNat = d := by simpa [digit?] using hd
    refine ⟨c :: digits, rfl, List.forall_mem_cons.2 ⟨hc, hdigits⟩, ?_, hle⟩
    rw [hsize, ← hd]
    rfl
  case case3 =>
    cases h
    exact ⟨[], rfl, nofun, rfl, hfits⟩
  case case4 =>
    cases h
    exact ⟨[], rfl, nofun, rfl, hfits⟩

/-- No needless zero stands before the digits of a number. -/
theorem literal_toDigits (k : ℕ) : Literal (Nat.toDigits 10 k) := by
  refine ⟨digits_toDigits k, ?_⟩
  induction k using Nat.strong_induction_on with
  | _ k ih =>
    by_cases hk : k < 10
    · rw [Nat.toDigits_of_lt_base hk]
      intro hhead
      rw [Option.some.inj hhead]
    · rw [Nat.toDigits_eq_if (by decide), if_neg hk, List.head?_append_of_ne_nil _ Nat.toDigits_ne_nil]
      intro hhead
      -- all digits but the last would be a single zero
      have hzero := denoted_toDigits (k / 10)
      rw [ih (k / 10) (by omega) hhead] at hzero
      have hzero' : 0 = k / 10 := hzero
      omega

/-- An integer of 64 bits, as it is usually written, is a literal. -/
theorem integerText_toString (hcontains : signed64.Contains n) (hends : Ends rest) :
    IntegerText ((toString n).toList ++ rest) n rest := by
  by_cases hn : n < 0
  · obtain ⟨k, rfl⟩ : ∃ k : ℕ, n = -k := ⟨n.natAbs, by omega⟩
    have hk : 0 < k := by omega
    have htext : IntegerText ('-' :: (Nat.toDigits 10 k ++ rest)) (-denoted 0 (Nat.toDigits 10 k)) rest :=
      .negative (literal_toDigits k) hends (by rwa [denoted_toDigits]) (by rwa [denoted_toDigits])
    rw [denoted_toDigits] at htext
    rwa [toList_toString_neg hk]
  · obtain ⟨k, rfl⟩ : ∃ k : ℕ, n = k := ⟨n.toNat, by omega⟩
    have hfits : unsigned64.Contains k := by
      have hgreatest := hcontains.2
      simp only [signed64] at hgreatest
      constructor
      · exact Int.natCast_nonneg k
      · simp only [unsigned64]
        omega
    have htext : IntegerText (Nat.toDigits 10 k ++ rest) (denoted 0 (Nat.toDigits 10 k)) rest :=
      .natural (literal_toDigits k) hends (by rwa [denoted_toDigits])
    rwa [denoted_toDigits, ← toList_toString_natCast] at htext

/-! ## Numbers that are not integers -/

theorem map_real_ne_integer (x : Except Fault Float) (cs : List Char) :
    x.map (fun x => (Number.real x, cs)) ≠ .ok (.integer n, rest) := by
  cases x with
  | error fault => nofun
  | ok x => nofun

theorem readExponent_ne_integer :
    readExponent negative significand start cs ≠ .ok (.integer n, rest) := by
  unfold readExponent
  split
  next down cs _ =>
    split
    · nofun
    · split
      · nofun
      · dsimp only
        split
        · split
          · nofun
          · nofun
        · exact map_real_ne_integer _ _

theorem readScale_ne_integer : readScale negative significand start cs ≠ .ok (.integer n, rest) := by
  unfold readScale
  split
  · exact readExponent_ne_integer
  · exact readExponent_ne_integer
  · exact map_real_ne_integer _ _

theorem readFraction_ne_integer : readFraction negative significand start cs ≠ .ok (.integer n, rest) := by
  unfold readFraction
  dsimp only
  split
  · exact readScale_ne_integer
  · split
    · nofun
    · exact readScale_ne_integer

/-! ## Numbers -/

theorem integerNumber_false_eq_iff : integerNumber false significand = .integer n ↔ n = significand := by
  simp [integerNumber, eq_comm]

theorem integerNumber_true_eq_iff :
    integerNumber true significand = .integer n ↔ n = -significand ∧ 0 < significand ∧ signed64.Contains n := by
  have hgreatest : signed64.greatest + 1 = -signed64.least := rfl
  have hpositive : 0 ≤ signed64.greatest := by decide
  rw [integerNumber, if_neg (by decide)]
  split
  · next h =>
    refine iff_of_false nofun ?_
    rintro ⟨rfl, hpos, hleast, -⟩
    omega
  · next h =>
    rw [not_or] at h
    constructor
    · intro hn
      obtain rfl := Number.integer.inj hn
      exact ⟨rfl, by omega, by omega, by omega⟩
    · rintro ⟨rfl, -, -⟩
      rfl

/-- A needless zero is one that a digit follows. -/
theorem literal_cons_iff {c : Char} (hdigits : ∀ d ∈ c :: digits, d.isDigit = true) (hends : startsWithDigit rest = false) :
    Literal (c :: digits) ↔ ¬(c = '0' ∧ startsWithDigit (digits ++ rest) = true) := by
  have hneeded : startsWithDigit (digits ++ rest) = true ↔ digits ≠ [] := by
    cases digits with
    | nil => simp [hends]
    | cons d digits =>
      rw [List.cons_append, startsWithDigit_cons]
      exact iff_of_true (hdigits d (by simp)) (List.cons_ne_nil _ _)
  rw [hneeded]
  constructor
  · rintro ⟨-, hneeded⟩ ⟨rfl, hne⟩
    exact hne (List.cons.inj (hneeded rfl)).2
  · intro h
    refine ⟨⟨List.cons_ne_nil _ _, hdigits⟩, ?_⟩
    intro hhead
    cases hhead
    simpa using h

/-- A number is read as an integer just if it is a literal of 64 bits. -/
theorem readNumber_eq_integer_iff :
    readNumber negative cs = .ok (.integer n, rest) ↔
      ∃ digits, cs = digits ++ rest ∧ Literal digits ∧ Ends rest ∧ denoted 0 digits ≤ unsigned64.greatest ∧
        integerNumber negative (denoted 0 digits) = .integer n := by
  constructor
  · intro h
    unfold readNumber at h
    generalize happend : appendDigits 0 0 cs = result at h
    obtain ⟨size, count, after⟩ := result
    obtain ⟨digits, hcs, hdigits, rfl, hfits⟩ := exists_of_appendDigits (by decide) happend
    dsimp only at h
    split at h
    · cases h
    · next c cs =>
      split at h
      · cases h
      · next hc =>
        split at h
        · split at h
          · exact absurd h readFraction_ne_integer
          · exact absurd h readScale_ne_integer
        · next hafter =>
          split at h
          · exact absurd h readFraction_ne_integer
          · exact absurd h readExponent_ne_integer
          · exact absurd h readExponent_ne_integer
          · next hpoint hsmall hlarge =>
            obtain ⟨hinteger, rfl⟩ := Prod.mk.inj (Except.ok.inj h)
            rw [Bool.not_eq_true] at hafter
            rw [not_or] at hc
            refine ⟨digits, hcs, ?_, ?_, hfits, hinteger⟩
            · cases digits with
              | nil =>
                rw [List.nil_append] at hcs
                rw [← hcs, startsWithDigit_cons] at hafter
                simp [digit?, hafter] at hc
              | cons d digits =>
                obtain ⟨rfl, rfl⟩ := List.cons.inj hcs
                exact (literal_cons_iff hdigits hafter).2 hc.2
            · intro d hd
              cases after with
              | nil => cases hd
              | cons c' after =>
                cases hd
                rw [startsWithDigit_cons] at hafter
                exact ⟨hafter, fun h => hpoint after (h ▸ rfl), fun h => hsmall after (h ▸ rfl),
                  fun h => hlarge after (h ▸ rfl)⟩
  · rintro ⟨digits, rfl, hliteral, hends, hfits, hinteger⟩
    have hafter := startsWithDigit_of_ends hends
    cases digits with
    | nil => exact absurd rfl hliteral.nonempty
    | cons c digits =>
      have hc : ¬((digit? c).isNone = true ∨ c = '0' ∧ startsWithDigit ((c :: (digits ++ rest)).drop 1) = true) := by
        rw [not_or]
        refine ⟨?_, (literal_cons_iff hliteral.isDigit hafter).1 hliteral⟩
        simp [digit?, hliteral.isDigit c]
      rw [readNumber, appendDigits_append hliteral.isDigit hfits hafter]
      dsimp only [List.cons_append]
      rw [if_neg hc, hafter, if_neg (by decide), hinteger]
      split
      · exact absurd rfl (hends '.' rfl).2.1
      · exact absurd rfl (hends 'e' rfl).2.2.1
      · exact absurd rfl (hends 'E' rfl).2.2.2
      · rfl

/-! ## What a number leaves -/

theorem length_skipDigits_le (count : ℕ) (cs : List Char) : (skipDigits count cs).2.length ≤ cs.length := by
  fun_induction skipDigits count cs with
  | case1 => exact le_rfl
  | case2 count c cs hc ih => exact ih.trans (Nat.le_succ _)
  | case3 => exact le_rfl

theorem length_le_of_appendDigits (h : appendDigits significand count cs = (size, exponent, rest)) :
    rest.length ≤ cs.length := by
  fun_induction appendDigits significand count cs
  case case2 ih => exact (ih h).trans (Nat.le_succ _)
  all_goals
    cases h
    exact le_rfl

theorem length_le_of_appendDigits_cons {c : Char} (hc : (digit? c).isSome = true)
    (h : appendDigits 0 count (c :: cs) = (size, exponent, rest)) : rest.length ≤ cs.length := by
  obtain ⟨d, hd⟩ := Option.isSome_iff_exists.1 hc
  have hle : d ≤ 9 := by
    obtain ⟨hdigit, rfl⟩ : c.isDigit = true ∧ c.toNat - '0'.toNat = d := by simpa [digit?] using hd
    exact Nat.sub_le_sub_right (Char.isDigit_iff_toNat.1 hdigit).2 48
  have hfits : 10 * ((0 : ℕ) : ℤ) + d ≤ unsigned64.greatest := by
    simp only [unsigned64]
    omega
  rw [appendDigits, hd] at h
  dsimp only at h
  rw [if_pos hfits] at h
  exact length_le_of_appendDigits h

theorem length_le_of_readExponent (h : readExponent negative significand start cs = .ok (number, rest)) :
    rest.length ≤ cs.length := by
  unfold readExponent at h
  split at h
  next down after hafter =>
    have hle : after.length ≤ cs.length := by
      split at hafter
      all_goals
        cases hafter
        simp
    split at h
    · cases h
    · split at h
      · cases h
      · next c cs _ =>
        have hskip := length_skipDigits_le 0 (c :: cs)
        dsimp only at h
        split at h
        · split at h
          · cases h
          · cases h
            exact hskip.trans hle
        · obtain ⟨x, -, hx⟩ := exists_of_map_eq_ok h
          cases hx
          exact hskip.trans hle

theorem length_le_of_readScale (h : readScale negative significand start cs = .ok (number, rest)) :
    rest.length ≤ cs.length := by
  unfold readScale at h
  split at h
  · exact (length_le_of_readExponent h).trans (Nat.le_succ _)
  · exact (length_le_of_readExponent h).trans (Nat.le_succ _)
  · obtain ⟨x, -, hx⟩ := exists_of_map_eq_ok h
    cases hx
    exact le_rfl

theorem length_le_of_readFraction (h : readFraction negative significand start cs = .ok (number, rest)) :
    rest.length ≤ cs.length := by
  unfold readFraction at h
  generalize happend : appendDigits significand 0 cs = result at h
  obtain ⟨size, count, after⟩ := result
  have hle := length_le_of_appendDigits happend
  dsimp only at h
  split at h
  · exact ((length_le_of_readScale h).trans (length_skipDigits_le 0 after)).trans hle
  · split at h
    · cases h
    · exact (length_le_of_readScale h).trans hle

/-- A number takes a character at least. -/
theorem length_lt_of_readNumber (h : readNumber negative cs = .ok (number, rest)) : rest.length < cs.length := by
  unfold readNumber at h
  generalize happend : appendDigits 0 0 cs = result at h
  obtain ⟨size, count, after⟩ := result
  dsimp only at h
  split at h
  · cases h
  · next c cs =>
    split at h
    · cases h
    · next hc =>
      have hdigit : (digit? c).isSome = true := by simpa [Option.isSome_iff_ne_none] using (not_or.1 hc).1
      have hle := length_le_of_appendDigits_cons hdigit happend
      refine Nat.lt_succ_of_le (le_trans ?_ hle)
      split at h
      · have hskip := length_skipDigits_le 0 after
        split at h
        · next heq =>
          rw [heq] at hskip
          exact ((length_le_of_readFraction h).trans (Nat.le_succ _)).trans hskip
        · exact (length_le_of_readScale h).trans hskip
      · split at h
        · exact (length_le_of_readFraction h).trans (Nat.le_succ _)
        · exact (length_le_of_readExponent h).trans (Nat.le_succ _)
        · exact (length_le_of_readExponent h).trans (Nat.le_succ _)
        · cases h
          exact le_rfl

/-! ## Scalars -/

theorem readScalar_of_isDigit {c : Char} (hc : c.isDigit = true) (cs : List Char) :
    readScalar (c :: cs) = (readNumber false (c :: cs)).map fun (number, rest) => (.number number, rest) := by
  rw [readScalar]
  · rw [if_pos hc]
  all_goals
    rintro rfl
    cases hc

/-- A number is read after its minus sign or from its first digit on. -/
theorem exists_of_readScalar (h : readScalar cs = .ok (.number number, rest)) :
    (∃ after, cs = '-' :: after ∧ readNumber true after = .ok (number, rest)) ∨
      readNumber false cs = .ok (number, rest) := by
  rw [readScalar.eq_def] at h
  split at h
  · cases h
  · obtain ⟨_, -, h⟩ := exists_of_map_eq_ok h
    cases h
  · obtain ⟨_, -, h⟩ := exists_of_map_eq_ok h
    cases h
  · obtain ⟨_, -, h⟩ := exists_of_map_eq_ok h
    cases h
  · obtain ⟨_, -, h⟩ := exists_of_map_eq_ok h
    cases h
  · obtain ⟨_, hread, h⟩ := exists_of_map_eq_ok h
    cases h
    exact .inl ⟨_, rfl, hread⟩
  · split at h
    · obtain ⟨_, hread, h⟩ := exists_of_map_eq_ok h
      cases h
      exact .inr hread
    · cases h

/-- Of the values that hold no others, an integer is one that is written as a literal. -/
theorem readScalar_eq_integer_iff :
    readScalar cs = .ok (.number (.integer n), rest) ↔ IntegerText cs n rest := by
  constructor
  · intro h
    rcases exists_of_readScalar h with ⟨after, rfl, hread⟩ | hread
    · obtain ⟨digits, rfl, hliteral, hends, -, hinteger⟩ := readNumber_eq_integer_iff.1 hread
      obtain ⟨rfl, hpositive, hcontains⟩ := integerNumber_true_eq_iff.1 hinteger
      exact .negative hliteral hends hpositive hcontains
    · obtain ⟨digits, rfl, hliteral, hends, hfits, hinteger⟩ := readNumber_eq_integer_iff.1 hread
      obtain rfl := integerNumber_false_eq_iff.1 hinteger
      exact .natural hliteral hends ⟨Int.natCast_nonneg _, hfits⟩
  · intro h
    cases h with
    | @natural digits _ hliteral hends hcontains =>
      have hread : readNumber false (digits ++ rest) = .ok (.integer (denoted 0 digits), rest) :=
        readNumber_eq_integer_iff.2 ⟨digits, rfl, hliteral, hends, hcontains.2, integerNumber_false_eq_iff.2 rfl⟩
      cases digits with
      | nil => exact absurd rfl hliteral.nonempty
      | cons c digits =>
        rw [List.cons_append] at hread ⊢
        rw [readScalar_of_isDigit (hliteral.isDigit c (by simp)), hread]
        rfl
    | @negative digits _ hliteral hends hpositive hcontains =>
      have hfits : (denoted 0 digits : ℤ) ≤ unsigned64.greatest := by
        have hleast := hcontains.1
        simp only [signed64] at hleast
        simp only [unsigned64]
        omega
      have hread : readNumber true (digits ++ rest) = .ok (.integer (-denoted 0 digits), rest) :=
        readNumber_eq_integer_iff.2
          ⟨digits, rfl, hliteral, hends, hfits, integerNumber_true_eq_iff.2 ⟨rfl, hpositive, hcontains⟩⟩
      rw [readScalar, hread]
      rfl

theorem length_lt_of_readScalar (h : readScalar cs = .ok (.number number, rest)) : rest.length < cs.length := by
  rcases exists_of_readScalar h with ⟨after, rfl, hread⟩ | hread
  · exact (length_lt_of_readNumber hread).trans (Nat.lt_succ_self _)
  · exact length_lt_of_readNumber hread

end FrameDetect.Json
