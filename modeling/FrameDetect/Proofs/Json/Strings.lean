import FrameDetect.Json.Text

/-!
# What strings hold

A string holds its characters, and those that its escapes stand for, up to the first quote that is not escaped.  The
reader takes the strings of this grammar and no others.
-/

namespace FrameDetect.Json

variable {high : Option Nat} {cs rest held done : List Char} {text : String}

/-- A text goes on with what is left of a string that holds characters, and then with the rest.  Where the first half of
a pair of surrogates has been read, its second half comes next. -/
inductive Chars : Option Nat → List Char → List Char → List Char → Prop
  | close {rest : List Char} : Chars none ('"' :: rest) [] rest
  | plain {c : Char} {cs held rest : List Char} :
    32 ≤ c.toNat → c ≠ '"' → c ≠ '\\' → Chars none cs held rest → Chars none (c :: cs) (c :: held) rest
  | escape {letter c : Char} {cs held rest : List Char} :
    shortEscape? letter = some c → Chars none cs held rest → Chars none ('\\' :: letter :: cs) (c :: held) rest
  | unit {a b c d : Char} {n : Nat} {cs held rest : List Char} :
    unit? a b c d = some n → isHighUnit n = false → isLowUnit n = false → Chars none cs held rest →
      Chars none ('\\' :: 'u' :: a :: b :: c :: d :: cs) (Char.ofNat n :: held) rest
  | high {a b c d : Char} {n : Nat} {cs held rest : List Char} :
    unit? a b c d = some n → isHighUnit n = true → Chars (some n) cs held rest →
      Chars none ('\\' :: 'u' :: a :: b :: c :: d :: cs) held rest
  | low {a b c d : Char} {n h : Nat} {cs held rest : List Char} :
    unit? a b c d = some n → isLowUnit n = true → Chars none cs held rest →
      Chars (some h) ('\\' :: 'u' :: a :: b :: c :: d :: cs) (pairChar h n :: held) rest

theorem isLowUnit_of_isHighUnit {n : Nat} (h : isHighUnit n = true) : isLowUnit n = false := by
  simp only [isHighUnit, Bool.and_eq_true, decide_eq_true_eq] at h
  simp only [isLowUnit, Bool.and_eq_false_imp, decide_eq_true_eq, decide_eq_false_iff_not]
  omega

/-- The reader goes from one rule to the next, and puts what is held after what it has done. -/
theorem Chars.of_readTextFrom (h : readTextFrom done high cs = .ok (text, rest)) :
    ∃ held, Chars high cs held rest ∧ text = String.ofList (done.reverse ++ held) := by
  fun_induction readTextFrom done high cs
  all_goals try contradiction
  case case4 hunit _ hhigh ih =>
    obtain ⟨held, hheld, htext⟩ := ih h
    exact ⟨held, .high hunit hhigh hheld, htext⟩
  case case5 n hunit hlow hhigh ih =>
    obtain ⟨held, hheld, htext⟩ := ih h
    exact ⟨Char.ofNat n :: held, .unit hunit (by simpa using hhigh) (by simpa using hlow) hheld, by simpa using htext⟩
  case case6 n first hunit hlow ih =>
    obtain ⟨held, hheld, htext⟩ := ih h
    exact ⟨pairChar first n :: held, .low hunit hlow hheld, by simpa using htext⟩
  case case9 escaped hescape ih =>
    obtain ⟨held, hheld, htext⟩ := ih h
    exact ⟨escaped :: held, .escape hescape hheld, by simpa using htext⟩
  case case13 high _ _ _ _ _ hplain =>
    obtain rfl : high = none := by simpa using (not_or.1 hplain).1
    cases h
    exact ⟨[], .close, by simp⟩
  case case14 high c cs _ _ hescape hend hplain hquote ih =>
    obtain rfl : high = none := by simpa using (not_or.1 hplain).1
    have hslash : c ≠ '\\' := by
      intro hc
      cases cs with
      | nil => exact hend hc rfl
      | cons letter cs => exact hescape letter cs hc rfl
    obtain ⟨held, hheld, htext⟩ := ih h
    exact ⟨c :: held, .plain (Nat.not_lt.1 (not_or.1 hplain).2) hquote hslash hheld, by simpa using htext⟩

theorem readTextFrom_plain {c : Char} (hprintable : 32 ≤ c.toNat) (hquote : c ≠ '"') (hslash : c ≠ '\\') :
    readTextFrom done none (c :: cs) = readTextFrom (c :: done) none cs := by
  have hcontrol : ¬((none : Option Nat).isSome = true ∨ c.toNat < 32) := by simpa using hprintable
  rw [readTextFrom, if_neg hcontrol, if_neg hquote]
  all_goals simp_all

theorem readTextFrom_escape {letter c : Char} (hescape : shortEscape? letter = some c) :
    readTextFrom done none ('\\' :: letter :: cs) = readTextFrom (c :: done) none cs := by
  have hletter : letter ≠ 'u' := by
    rintro rfl
    cases hescape
  rw [readTextFrom]
  all_goals simp_all

theorem Chars.readTextFrom_eq (h : Chars high cs held rest) (done : List Char) :
    readTextFrom done high cs = .ok (String.ofList (done.reverse ++ held), rest) := by
  induction h generalizing done with
  | close => simp [readTextFrom]
  | plain hprintable hquote hslash _ ih =>
    rw [readTextFrom_plain hprintable hquote hslash, ih]
    simp
  | escape hescape _ ih =>
    rw [readTextFrom_escape hescape, ih]
    simp
  | unit hunit hhigh hlow _ ih => simp [readTextFrom, hunit, hhigh, hlow, ih]
  | high hunit hhigh _ ih => simp [readTextFrom, hunit, hhigh, isLowUnit_of_isHighUnit hhigh, ih]
  | low hunit hlow _ ih => simp [readTextFrom, hunit, hlow, ih]

/-- A string is read just if it is one. -/
theorem readText_eq_ok_iff : readText cs = .ok (text, rest) ↔ Chars none cs text.toList rest := by
  constructor
  · intro h
    obtain ⟨held, hheld, rfl⟩ := Chars.of_readTextFrom h
    simpa using hheld
  · intro h
    rw [readText, h.readTextFrom_eq]
    simp

/-- A string takes its closing quote at least. -/
theorem Chars.length_lt (h : Chars high cs held rest) : rest.length < cs.length := by
  induction h
  all_goals
    simp only [List.length_cons]
    omega

end FrameDetect.Json
