import FrameDetect.Url.Settings
import FrameDetect.Proofs.Basic
import FrameDetect.Proofs.Text.Numeral

/-!
# Settings in order

A device folds the settings of its URL into what it starts with.  What it makes of one setting depends on nothing that
was set before, so that the first bad value ends the fold wherever it stands, each part of the outcome is that of the
last setting of its name, and settings that are not known leave no trace.
-/

namespace FrameDetect.Url

open FrameDetect.Number (Range)
open FrameDetect.Text

variable {σ β μ : Type}

/-! ## What settings may be -/

/-- The kinds of values that a setting can ask for. -/
inductive ValueKind where
  | number (range : Range)
  | word (words : List String)

/-- The values of a kind. -/
def ValueKind.Accepts : ValueKind → String → Prop
  | .number range, value => ∃ n, UnsignedNumeral value.toList n ∧ range.Contains (n : ℕ)
  | .word words, value => value ∈ words

/-- What is said of a value that is not of a kind: why it is no number, or which word it is. -/
def ValueKind.Blames : ValueKind → String → String → Prop
  | .number range, value, reason => ∃ fault, readInteger range value.toList = .error fault ∧ reason = fault.message
  | .word _, value, reason => reason = value

/-- A setting that is good or not known.  A device asks for values of a kind under each name that it knows. -/
def Fine (kind? : String → Option ValueKind) (pair : String × String) : Prop :=
  ∀ kind, kind? pair.1 = some kind → kind.Accepts pair.2

/-- The settings that a device knows. -/
def known (kind? : String → Option ValueKind) (pairs : List (String × String)) : List (String × String) :=
  pairs.filter fun pair => (kind? pair.1).isSome

/-- What a value stands for, or the default where there is no value. -/
def Settles (Denotes : String → β → Prop) (default : β) : Option String → β → Prop
  | some value, b => Denotes value b
  | none, b => b = default

theorem Settles.unique {Denotes : String → β → Prop} {default b b' : β} {value? : Option String}
    (hunique : ∀ value b b', Denotes value b → Denotes value b' → b = b') (h : Settles Denotes default value? b)
    (h' : Settles Denotes default value? b') : b = b' := by
  cases value? with
  | none => exact Eq.trans h (Eq.symm h')
  | some value => exact hunique value b b' h h'

/-! ## One setting after the other -/

variable {apply : σ → String → String → Except SettingFault (Option σ)} {kind? : String → Option ValueKind}
variable {s s' : σ} {pairs : List (String × String)}

/-- What one setting makes of what was set before; a name that is not known changes nothing. -/
def applied (apply : σ → String → String → Except SettingFault (Option σ)) (s : σ) (pair : String × String) :
    Except SettingFault σ :=
  (apply s pair.1 pair.2).map (·.getD s)

/-- Whatever is told of settings that are not known, the outcome is that of a fold. -/
theorem applySettings_run (apply : σ → String → String → Except SettingFault (Option σ))
    (unknown : String → String → StateM μ Unit) (s : σ) (pairs : List (String × String)) (m : μ) :
    ∃ m', applySettings apply unknown s pairs m = (pairs.foldlM (applied apply) s, m') := by
  induction pairs generalizing s m with
  | nil => exact ⟨m, rfl⟩
  | cons pair rest ih =>
    obtain ⟨name, value⟩ := pair
    rw [applySettings, List.foldlM_cons, applied]
    cases apply s name value with
    | error fault => exact ⟨m, rfl⟩
    | ok changed =>
      cases changed with
      | some s => exact ih s m
      | none => exact ih s (unknown name value m).2

/-- Where nothing is told, nothing else changes. -/
theorem applySettings_silent (m : μ) :
    applySettings apply (fun _ _ => (pure () : StateM μ Unit)) s pairs m = (pairs.foldlM (applied apply) s, m) := by
  induction pairs generalizing s with
  | nil => rfl
  | cons pair rest ih =>
    obtain ⟨name, value⟩ := pair
    rw [applySettings, List.foldlM_cons, applied]
    cases apply s name value with
    | error fault => rfl
    | ok changed =>
      cases changed with
      | some s => exact ih
      | none => exact ih

/-- What comes of a value where a kind is asked for. -/
inductive ValueKind.Answers (kind : ValueKind) (name value : String) : Except SettingFault σ → Prop
  | accepted (s : σ) : kind.Accepts value → Answers kind name value (.ok s)
  | blamed (reason : String) :
    ¬kind.Accepts value → kind.Blames value reason → Answers kind name value (.error ⟨name, reason⟩)

theorem ValueKind.Answers.map {kind : ValueKind} {name value : String} {result : Except SettingFault σ}
    (h : kind.Answers name value result) (f : σ → β) : kind.Answers name value (result.map f) := by
  cases h with
  | accepted s haccepts => exact .accepted (f s) haccepts
  | blamed reason hbad hblames => exact .blamed reason hbad hblames

/-- A device that asks for values of a kind under each name that it knows, whatever was set before. -/
structure Obeys (apply : σ → String → String → Except SettingFault (Option σ)) (kind? : String → Option ValueKind) :
    Prop where
  ignores : ∀ s name value, kind? name = none → applied apply s (name, value) = .ok s
  answers : ∀ s name value kind, kind? name = some kind → kind.Answers name value (applied apply s (name, value))

/-- A part of what is set that only the settings of one name bear on, each with what its value stands for. -/
def Governs (apply : σ → String → String → Except SettingFault (Option σ)) (name : String) (part : σ → β)
    (Denotes : String → β → Prop) : Prop :=
  ∀ s s' pair, applied apply s pair = .ok s' → if pair.1 = name then Denotes pair.2 (part s') else part s' = part s

theorem Obeys.applied_eq_ok_iff (h : Obeys apply kind?) (s : σ) (pair : String × String) :
    (∃ s', applied apply s pair = .ok s') ↔ Fine kind? pair := by
  obtain ⟨name, value⟩ := pair
  cases hkind : kind? name with
  | none =>
    refine iff_of_true ⟨s, h.ignores s name value hkind⟩ ?_
    intro kind hsome
    simp [hkind] at hsome
  | some kind =>
    have hfine : Fine kind? (name, value) ↔ kind.Accepts value := by simp [Fine, hkind]
    have hanswers := h.answers s name value kind hkind
    rw [hfine]
    generalize applied apply s (name, value) = result at hanswers ⊢
    cases hanswers with
    | accepted s' haccepts => exact iff_of_true ⟨s', rfl⟩ haccepts
    | blamed reason hbad _ => exact iff_of_false nofun hbad

/-! ## All settings -/

theorem foldlM_cons_eq_ok {pair : String × String} {rest : List (String × String)}
    (h : (pair :: rest).foldlM (applied apply) s = .ok s') :
    ∃ t, applied apply s pair = .ok t ∧ rest.foldlM (applied apply) t = .ok s' := by
  rw [List.foldlM_cons] at h
  exact exists_of_bind_eq_ok h

/-- Settings have an outcome just if all of them are good or not known. -/
theorem Obeys.foldlM_eq_ok_iff (h : Obeys apply kind?) :
    (∃ s', pairs.foldlM (applied apply) s = .ok s') ↔ ∀ pair ∈ pairs, Fine kind? pair := by
  induction pairs generalizing s with
  | nil => simp [pure, Except.pure]
  | cons pair rest ih =>
    rw [List.forall_mem_cons, ← h.applied_eq_ok_iff s pair]
    constructor
    · rintro ⟨s', hs'⟩
      obtain ⟨t, ht, hrest⟩ := foldlM_cons_eq_ok hs'
      exact ⟨⟨t, ht⟩, ih.1 ⟨s', hrest⟩⟩
    · rintro ⟨⟨t, ht⟩, hrest⟩
      rw [List.foldlM_cons, ht]
      exact ih.2 hrest

/-- The first bad setting is the one that is blamed, whatever comes after it. -/
theorem Obeys.foldlM_first_bad (h : Obeys apply kind?) {before after : List (String × String)} {name value : String}
    {kind : ValueKind} (hbefore : ∀ pair ∈ before, Fine kind? pair) (hkind : kind? name = some kind)
    (hbad : ¬kind.Accepts value) :
    ∃ reason, kind.Blames value reason ∧
      (before ++ (name, value) :: after).foldlM (applied apply) s = .error ⟨name, reason⟩ := by
  obtain ⟨t, ht⟩ := (h.foldlM_eq_ok_iff (s := s)).2 hbefore
  have hanswers := h.answers t name value kind hkind
  rw [List.foldlM_append, ht]
  show ∃ reason, _ ∧ (applied apply t (name, value)).bind _ = _
  generalize applied apply t (name, value) = result at hanswers ⊢
  cases hanswers with
  | accepted _ haccepts => exact absurd haccepts hbad
  | blamed reason _ hblames => exact ⟨reason, hblames, rfl⟩

/-- Settings that are not known leave no trace, not even in what is blamed. -/
theorem Obeys.foldlM_known (h : Obeys apply kind?) :
    (known kind? pairs).foldlM (applied apply) s = pairs.foldlM (applied apply) s := by
  induction pairs generalizing s with
  | nil => rfl
  | cons pair rest ih =>
    rw [known, List.filter_cons]
    cases hkind : kind? pair.1 with
    | none =>
      rw [List.foldlM_cons, h.ignores s pair.1 pair.2 hkind]
      exact ih
    | some kind =>
      rw [Option.isSome_some, if_pos rfl, List.foldlM_cons, List.foldlM_cons]
      exact congrArg _ (funext fun t => ih)

/-- A part of what is set is what the last setting of its name says, or what it was where there is none. -/
theorem Governs.settles {name : String} {part : σ → β} {Denotes : String → β → Prop}
    (h : Governs apply name part Denotes) (hs : pairs.foldlM (applied apply) s = .ok s') :
    Settles Denotes (part s) (latest? name pairs) (part s') := by
  induction pairs generalizing s with
  | nil =>
    cases hs
    rfl
  | cons pair rest ih =>
    obtain ⟨t, ht, hrest⟩ := foldlM_cons_eq_ok hs
    have hlater := ih hrest
    have hstep := h s t pair ht
    by_cases hname : pair.1 = name
    · obtain ⟨name', value⟩ := pair
      cases hname
      rw [if_pos rfl] at hstep
      rw [latest?_cons_self]
      cases hlatest : latest? name' rest with
      | some later =>
        rw [hlatest] at hlater
        exact hlater
      | none =>
        rw [hlatest] at hlater
        rwa [← show part s' = part t from hlater] at hstep
    · rw [if_neg hname] at hstep
      rw [latest?_cons_of_ne hname, ← hstep]
      exact hlater

/-! ## One convention -/

/-- What settings come to where a device asks for values of a kind under each name that it knows. -/
structure Convention (kind? : String → Option ValueKind)
    (outcome : List (String × String) → Except SettingFault σ) : Prop where
  /-- They come to something just if each is good or not known. -/
  succeeds_iff : ∀ pairs, (∃ s, outcome pairs = .ok s) ↔ ∀ pair ∈ pairs, Fine kind? pair
  /-- The first bad one is blamed. -/
  first_bad : ∀ before name value after kind, (∀ pair ∈ before, Fine kind? pair) → kind? name = some kind →
    ¬kind.Accepts value →
      ∃ reason, kind.Blames value reason ∧ outcome (before ++ (name, value) :: after) = .error ⟨name, reason⟩
  /-- Those that are not known can be added, left out and moved. -/
  unknown : ∀ pairs pairs', known kind? pairs = known kind? pairs' → outcome pairs = outcome pairs'
  /-- Good ones of different names can be exchanged. -/
  order : ∀ pairs pairs', (∀ pair ∈ pairs, Fine kind? pair) →
    (∀ name, (kind? name).isSome = true → named name pairs = named name pairs') → outcome pairs = outcome pairs'

/-- Settings are good if those of each name that is known are. -/
theorem fine_of_named {pairs' : List (String × String)} (h : ∀ pair ∈ pairs, Fine kind? pair)
    (hnamed : ∀ name, (kind? name).isSome = true → named name pairs = named name pairs') :
    ∀ pair ∈ pairs', Fine kind? pair := by
  intro pair hpair kind hkind
  have hmem : pair ∈ named pair.1 pairs' := by simp [named, hpair]
  rw [← hnamed pair.1 (by simp [hkind])] at hmem
  exact h pair (List.mem_of_mem_filter hmem) kind hkind

/-- A device follows the convention if what is set is determined by the last settings of each name. -/
theorem Obeys.convention (h : Obeys apply kind?)
    (hdetermined : ∀ pairs pairs' t t', pairs.foldlM (applied apply) s = .ok t →
      pairs'.foldlM (applied apply) s = .ok t' →
        (∀ name, (kind? name).isSome = true → latest? name pairs = latest? name pairs') → t = t') :
    Convention kind? (fun pairs => pairs.foldlM (applied apply) s) where
  succeeds_iff _ := h.foldlM_eq_ok_iff
  first_bad _ _ _ _ _ := h.foldlM_first_bad
  unknown := by
    intro pairs pairs' hknown
    show pairs.foldlM (applied apply) s = pairs'.foldlM (applied apply) s
    rw [← h.foldlM_known, hknown, h.foldlM_known]
  order := by
    intro pairs pairs' hfine hnamed
    obtain ⟨t, ht⟩ := (h.foldlM_eq_ok_iff (s := s)).2 hfine
    obtain ⟨t', ht'⟩ := (h.foldlM_eq_ok_iff (s := s)).2 (fine_of_named hfine hnamed)
    have hlatest : ∀ name, (kind? name).isSome = true → latest? name pairs = latest? name pairs' := by
      intro name hname
      rw [latest?, hnamed name hname, latest?]
    show pairs.foldlM (applied apply) s = pairs'.foldlM (applied apply) s
    rw [ht, ht', hdetermined pairs pairs' t t' ht ht' hlatest]

/-- A part is determined by the last setting of its name. -/
theorem Governs.determined {name : String} {part : σ → β} {Denotes : String → β → Prop} {t t' : σ}
    {pairs' : List (String × String)} (h : Governs apply name part Denotes)
    (hunique : ∀ value b b', Denotes value b → Denotes value b' → b = b')
    (ht : pairs.foldlM (applied apply) s = .ok t) (ht' : pairs'.foldlM (applied apply) s = .ok t')
    (hlatest : latest? name pairs = latest? name pairs') : part t = part t' := by
  have hsettles := h.settles ht
  rw [hlatest] at hsettles
  exact hsettles.unique hunique (h.settles ht')

end FrameDetect.Url
