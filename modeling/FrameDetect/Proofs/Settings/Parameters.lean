import FrameDetect.Proofs.Basic
import FrameDetect.Proofs.Json.Grammar
import FrameDetect.Proofs.Settings.Percent
import FrameDetect.Proofs.Text.Numeral
import FrameDetect.Settings.ParameterFile

/-!
# Integer parameters

A parameter is an integer where its value is one or a text that holds the numeral of one.  In the text of an object, the
last member of each name is its value.  Thresholds come from the two percentages of a file.
-/

namespace FrameDetect.Settings

open FrameDetect.Json (Ends IntegerText ObjectText Value member?)
open FrameDetect.Text

variable {n : ℤ} {name : String} {file : ParameterFile}

/-- The value of a parameter holds an integer of 64 bits: it is one, or a text of its numeral, blank characters around
it aside. -/
inductive HoldsInteger : Value → ℤ → Prop
  | integer {n : ℤ} : signed64.Contains n → HoldsInteger (.integer n) n
  | text {text : String} {n : ℤ} :
    Numeral (trimBlank text.toList) n → signed64.Contains n → HoldsInteger (.text text) n

theorem integer?_eq_some_iff {value : Value} : ParameterFile.integer? value = some n ↔ HoldsInteger value n := by
  cases value with
  | integer k =>
    rw [ParameterFile.integer?, Option.ite_none_right_eq_some]
    constructor
    · rintro ⟨h, hk⟩
      cases hk
      exact .integer h
    · rintro ⟨h⟩
      exact ⟨h, rfl⟩
  | text text =>
    have hread : readInteger signed64 (trimBlank text.toList) = .ok n ↔ _ :=
      readInteger_eq_ok_iff (by decide) (by decide)
    rw [ParameterFile.integer?]
    constructor
    · intro h
      cases hr : readInteger signed64 (trimBlank text.toList) with
      | error fault =>
        rw [hr] at h
        cases h
      | ok k =>
        rw [hr] at h
        cases h
        obtain ⟨hnumeral, hrange⟩ := hread.1 hr
        exact .text hnumeral hrange
    · rintro (_ | ⟨hnumeral, hrange⟩)
      rw [hread.2 ⟨hnumeral, hrange⟩]
      rfl
  | _ => exact iff_of_false nofun nofun

/-- A parameter file is read just if its text is an object. -/
theorem ofText_eq_ok_iff {text : String} {file : ParameterFile} :
    ParameterFile.ofText text = .ok file ↔ Json.read text = .ok (.object file.members) := by
  unfold ParameterFile.ofText
  cases Json.read text with
  | error fault => exact iff_of_false nofun nofun
  | ok value =>
    cases value with
    | object members =>
      constructor
      · rintro ⟨⟩
        rfl
      · rintro ⟨⟩
        rfl
    | _ => exact iff_of_false nofun nofun

/-- A parameter is read just if it is there and holds an integer. -/
theorem integer_eq_ok_iff :
    file.integer name = .ok n ↔ ∃ value, member? name file.members = some value ∧ HoldsInteger value n := by
  unfold ParameterFile.integer
  cases hvalue : member? name file.members with
  | none => exact iff_of_false nofun nofun
  | some value =>
    simp only [Option.some.injEq, exists_eq_left', ← integer?_eq_some_iff]
    cases ParameterFile.integer? value with
    | none => exact iff_of_false nofun nofun
    | some k =>
      exact ⟨fun h => congrArg some (Except.ok.inj h), fun h => congrArg Except.ok (Option.some.inj h)⟩

theorem integer_eq_missing_iff : file.integer name = .error (.missing name) ↔ member? name file.members = none := by
  unfold ParameterFile.integer
  cases member? name file.members with
  | none => exact iff_of_true rfl rfl
  | some value =>
    dsimp only
    cases ParameterFile.integer? value <;> exact iff_of_false nofun nofun

/-- A parameter that is there but holds no integer is quoted. -/
theorem integer_eq_notAnInteger {value : Value} (hvalue : member? name file.members = some value)
    (h : ¬∃ n, HoldsInteger value n) : file.integer name = .error (.notAnInteger name value.compact) := by
  unfold ParameterFile.integer
  rw [hvalue]
  dsimp only
  cases hinteger : ParameterFile.integer? value with
  | none => rfl
  | some n => exact absurd ⟨n, integer?_eq_some_iff.1 hinteger⟩ h

/-! ## Parameters in a text -/

/-- Blank characters around a numeral do not matter. -/
theorem holdsInteger_surrounded {before after : List Char} (hcontains : signed64.Contains n)
    (hbefore : Blank before) (hafter : Blank after) :
    HoldsInteger (.text (String.ofList (before ++ (toString n).toList ++ after))) n := by
  refine .text ?_ hcontains
  rw [String.toList_ofList, trimBlank_append_right hafter, trimBlank_append_left hbefore,
    trimBlank_eq_self (numeral_toString n).trimmed]
  exact numeral_toString n

/-- An integer parameter is read by one grammar, in whatever text of an object it stands.  It is `n` just if the last
member of its name is a literal of `n` or a string that holds a numeral of `n` between blank characters, `n` being an
integer of 64 bits; it is missing just if there is no member of its name; and any other value is a fault. -/
theorem integer_parameters_have_one_grammar :
    (∀ text file, ParameterFile.ofText text = .ok file → ∃ pairs, ObjectText text pairs) ∧
    (∀ text pairs, ObjectText text pairs → ∃ file, ParameterFile.ofText text = .ok file ∧ ∀ name,
      (∀ n, file.integer name = .ok n ↔ ∃ value, latest? name pairs = some value ∧ HoldsInteger value n) ∧
      (file.integer name = .error (.missing name) ↔ ∀ pair ∈ pairs, pair.1 ≠ name) ∧
      (∀ value, latest? name pairs = some value → (¬∃ n, HoldsInteger value n) →
        file.integer name = .error (.notAnInteger name value.compact)) ∧
      ∀ n, signed64.Contains n →
        (latest? name pairs = some (.integer n) → file.integer name = .ok n) ∧
        ∀ before after, Blank before → Blank after →
          latest? name pairs = some (.text (String.ofList (before ++ (toString n).toList ++ after))) →
            file.integer name = .ok n) ∧
    ∀ n rest, signed64.Contains n → Ends rest → IntegerText ((toString n).toList ++ rest) n rest := by
  refine ⟨?_, ?_, ?_⟩
  · intro text file hfile
    obtain ⟨pairs, hpairs, -⟩ := Json.read_eq_object_iff.1 (ofText_eq_ok_iff.1 hfile)
    exact ⟨pairs, hpairs⟩
  · intro text pairs htext
    let file : ParameterFile := ⟨Json.insertAll pairs []⟩
    have hmember (name : String) : member? name file.members = latest? name pairs := by
      simpa [member?] using Json.member?_insertAll name pairs []
    refine ⟨file, ofText_eq_ok_iff.2 (Json.read_eq_object_iff.2 ⟨pairs, htext, rfl⟩), ?_⟩
    intro name
    have hok (n : ℤ) : file.integer name = .ok n ↔ ∃ value, latest? name pairs = some value ∧ HoldsInteger value n := by
      rw [integer_eq_ok_iff, hmember]
    refine ⟨hok, ?_, ?_, ?_⟩
    · rw [integer_eq_missing_iff, hmember, latest?_eq_none_iff]
    · intro value hvalue hnone
      exact integer_eq_notAnInteger ((hmember name).trans hvalue) hnone
    · intro n hcontains
      constructor
      · intro hvalue
        exact (hok n).2 ⟨_, hvalue, .integer hcontains⟩
      · intro before after hbefore hafter hvalue
        exact (hok n).2 ⟨_, hvalue, holdsInteger_surrounded hcontains hbefore hafter⟩
  · intro n rest hcontains hends
    exact Json.integerText_toString hcontains hends

/-! ## Percentages -/

/-- The parameter of a threshold is an integer from 0 to 100. -/
def HoldsPercentage (file : ParameterFile) (threshold : Threshold) (n : ℤ) : Prop :=
  (∃ value, member? threshold.parameter file.members = some value ∧ HoldsInteger value n) ∧ InHundred n

theorem thresholds_eq_ok_iff {t : Thresholds} :
    file.thresholds = .ok t ↔ ∃ c o, HoldsPercentage file .confidence c ∧ HoldsPercentage file .overlap o ∧
      t = ⟨percent c, percent o⟩ := by
  constructor
  · intro h
    obtain ⟨c, hc, h⟩ := exists_of_bind_eq_ok h
    obtain ⟨o, ho, h⟩ := exists_of_bind_eq_ok h
    obtain ⟨⟨hcrange, horange⟩, ht⟩ := ofPercent_eq_ok_iff.1 h
    exact ⟨c, o, ⟨integer_eq_ok_iff.1 hc, hcrange⟩, ⟨integer_eq_ok_iff.1 ho, horange⟩, ht⟩
  · rintro ⟨c, o, ⟨hc, hcrange⟩, ⟨ho, horange⟩, ht⟩
    rw [ParameterFile.thresholds, integer_eq_ok_iff.2 hc, integer_eq_ok_iff.2 ho]
    exact ofPercent_eq_ok_iff.2 ⟨⟨hcrange, horange⟩, ht⟩

example :
    ((ParameterFile.ofText "\x7b\"ConfThresholdPercent\": \" 30\", \"IouThresholdPercent\": 60\x7d").bind
      ParameterFile.thresholds).toOption = some ⟨0.3, 0.6⟩ := by
  decide +kernel

end FrameDetect.Settings
