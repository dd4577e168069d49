import FrameDetect.Labels
import FrameDetect.Proofs.Text.Blank
import Mathlib.Logic.Relation

/-!
# The names in a label file

Each line that is not blank holds one name.  So a file is told by its names, which can be written one to a line and
read again, and edits that concern blank characters and line ends only leave every name at its index.
-/

namespace FrameDetect.Labels

open FrameDetect.Text

variable {line before after blanks cs ds : List Char}

/-- What can be a name: one line with no blank character at either end. -/
structure IsName (cs : List Char) : Prop where
  nonempty : cs ≠ []
  trimmed : Trimmed cs
  oneLine : '\n' ∉ cs

/-! ## Names and lines -/

/-- The name on a line, if there is one. -/
def nameOn (line : List Char) : List (List Char) := [trimBlank line].filter fun name => !name.isEmpty

/-- The names in a text. -/
def namesIn (cs : List Char) : List (List Char) := ((lines cs).map trimBlank).filter fun name => !name.isEmpty

theorem ofText_eq (text : String) : ofText text = ⟨((namesIn text.toList).map String.ofList).toArray⟩ := rfl

theorem nameOn_of_blank (h : Blank line) : nameOn line = [] := by
  simp [nameOn, trimBlank_eq_nil_iff.2 h]

theorem nameOn_of_isName (h : IsName line) : nameOn line = [line] := by
  simp [nameOn, trimBlank_eq_self h.trimmed, h.nonempty]

theorem nameOn_append_left (h : Blank blanks) (line : List Char) : nameOn (blanks ++ line) = nameOn line := by
  rw [nameOn, trimBlank_append_left h, nameOn]

theorem nameOn_append_right (h : Blank blanks) (line : List Char) : nameOn (line ++ blanks) = nameOn line := by
  rw [nameOn, trimBlank_append_right h, nameOn]

theorem isName_of_mem_nameOn {name : List Char} (hline : '\n' ∉ line) (h : name ∈ nameOn line) : IsName name := by
  simp only [nameOn, List.mem_filter, List.mem_singleton] at h
  obtain ⟨rfl, hne⟩ := h
  refine ⟨by simpa using hne, trimmed_trimBlank line, ?_⟩
  intro hmem
  exact hline ((isInfix_trimBlank line).subset hmem)

theorem namesIn_line (h : '\n' ∉ line) : namesIn line = nameOn line := by
  rw [namesIn, lines_of_not_mem h, nameOn]
  cases line with
  | nil => rfl
  | cons c rest => simp

theorem namesIn_cons_line (h : '\n' ∉ line) (rest : List Char) :
    namesIn (line ++ '\n' :: rest) = nameOn line ++ namesIn rest := by
  rw [namesIn, lines_append h, List.map_cons, trimBlank_withoutReturn, ← List.singleton_append, List.filter_append]
  rfl

/-- A line feed sets the names before it apart from those after it. -/
theorem namesIn_append (before after : List Char) :
    namesIn (before ++ '\n' :: after) = namesIn before ++ namesIn after := by
  induction before using line_induction with
  | last line hline => rw [namesIn_cons_line hline, namesIn_line hline]
  | more line rest hline ih =>
    rw [List.append_assoc, List.cons_append, namesIn_cons_line hline, ih, namesIn_cons_line hline, List.append_assoc]

theorem isName_of_mem_namesIn {name : List Char} (h : name ∈ namesIn cs) : IsName name := by
  induction cs using line_induction with
  | last line hline =>
    rw [namesIn_line hline] at h
    exact isName_of_mem_nameOn hline h
  | more line rest hline ih =>
    rw [namesIn_cons_line hline] at h
    cases List.mem_append.1 h with
    | inl hfirst => exact isName_of_mem_nameOn hline hfirst
    | inr hrest => exact ih hrest

/-- Names that are written one to a line are read again. -/
theorem namesIn_intercalate {names : List (List Char)} (h : ∀ name ∈ names, IsName name) :
    namesIn (['\n'].intercalate names) = names := by
  induction names with
  | nil => rfl
  | cons name rest ih =>
    obtain ⟨hname, hrest⟩ := List.forall_mem_cons.1 h
    cases rest with
    | nil => rw [List.intercalate_singleton, namesIn_line hname.oneLine, nameOn_of_isName hname]
    | cons next others =>
      rw [List.intercalate_cons_cons, List.append_assoc, List.singleton_append, namesIn_cons_line hname.oneLine,
        nameOn_of_isName hname, ih hrest, List.singleton_append]

/-! ## Edits -/

/-- Whether what comes after a text starts a line. -/
def AtStart (before : List Char) : Prop := before = [] ∨ ∃ earlier, before = earlier ++ ['\n']

/-- Whether what comes before a text ends a line. -/
def AtEnd (after : List Char) : Prop := after = [] ∨ ∃ later, after = '\n' :: later

/-- A text with a carriage return before each line feed. -/
def withReturns (cs : List Char) : List Char := cs.flatMap fun c => if c = '\n' then ['\r', '\n'] else [c]

/-- Edits of blank characters and line ends. -/
inductive Edit : List Char → List Char → Prop
  /-- Other line ends. -/
  | returns (cs : List Char) : Edit cs (withReturns cs)
  /-- A line of blank characters, or an empty one. -/
  | blankLine {before blanks after : List Char} :
    AtStart before → Blank blanks → '\n' ∉ blanks → Edit (before ++ after) (before ++ blanks ++ '\n' :: after)
  /-- Blank characters around what stands on a line. -/
  | surround {before left line right after : List Char} :
    AtStart before → AtEnd after → '\n' ∉ line → Blank left → '\n' ∉ left → Blank right → '\n' ∉ right →
      Edit (before ++ line ++ after) (before ++ (left ++ line ++ right) ++ after)
  /-- No line feed at the end. -/
  | lastFeed (cs : List Char) : Edit (cs ++ ['\n']) cs

theorem namesIn_append_of_atStart (h : AtStart before) (after : List Char) :
    namesIn (before ++ after) = namesIn before ++ namesIn after := by
  rcases h with rfl | ⟨earlier, rfl⟩
  · rfl
  · simp [namesIn_append, namesIn_line, nameOn_of_blank blank_nil]

theorem namesIn_append_of_atEnd (h : AtEnd after) (before : List Char) :
    namesIn (before ++ after) = namesIn before ++ namesIn after := by
  rcases h with rfl | ⟨later, rfl⟩
  · simp [namesIn_line, nameOn_of_blank blank_nil]
  · have hnil : namesIn ('\n' :: later) = namesIn later := namesIn_append [] later
    rw [namesIn_append, hnil]

theorem withReturns_of_not_mem (h : '\n' ∉ line) : withReturns line = line := by
  induction line with
  | nil => rfl
  | cons c rest ih =>
    simp only [List.mem_cons, not_or] at h
    obtain ⟨hc, hrest⟩ := h
    rw [withReturns, List.flatMap_cons, if_neg (Ne.symm hc), ← withReturns, ih hrest, List.singleton_append]

theorem withReturns_append (h : '\n' ∉ line) (rest : List Char) :
    withReturns (line ++ '\n' :: rest) = line ++ ['\r'] ++ '\n' :: withReturns rest := by
  have hline := withReturns_of_not_mem h
  simp only [withReturns] at hline ⊢
  simp [hline]

theorem namesIn_withReturns (cs : List Char) : namesIn (withReturns cs) = namesIn cs := by
  have hreturn : Blank ['\r'] := by simp [Blank, isBlank]
  induction cs using line_induction with
  | last line hline => rw [withReturns_of_not_mem hline]
  | more line rest hline ih =>
    have hlonger : '\n' ∉ line ++ ['\r'] := by simp [hline]
    rw [withReturns_append hline, namesIn_cons_line hlonger, nameOn_append_right hreturn, ih, namesIn_cons_line hline]

theorem Edit.namesIn_eq (h : Edit cs ds) : namesIn ds = namesIn cs := by
  cases h with
  | returns => exact namesIn_withReturns cs
  | blankLine hstart hblank hline =>
    rw [List.append_assoc, namesIn_append_of_atStart hstart, namesIn_cons_line hline, nameOn_of_blank hblank,
      List.nil_append, namesIn_append_of_atStart hstart]
  | @surround before left line right after hstart hend hline hleft hleft' hright hright' =>
    have hwhole : '\n' ∉ left ++ line ++ right := by simp [hline, hleft', hright']
    rw [namesIn_append_of_atEnd hend, namesIn_append_of_atStart hstart, namesIn_line hwhole, nameOn_append_right hright,
      nameOn_append_left hleft, namesIn_append_of_atEnd hend, namesIn_append_of_atStart hstart, namesIn_line hline]
  | lastFeed => simp [namesIn_append, namesIn_line, nameOn_of_blank blank_nil]

/-- Any number of edits, made or undone, keeps the names. -/
theorem namesIn_eq_of_edits (h : Relation.EqvGen Edit cs ds) : namesIn ds = namesIn cs := by
  induction h with
  | rel _ _ hedit => exact hedit.namesIn_eq
  | refl => rfl
  | symm _ _ _ ih => exact ih.symm
  | trans _ _ _ _ _ ihfirst ihsecond => exact ihsecond.trans ihfirst

/-! ## Label files -/

theorem ofText_intercalate {names : List String} (h : ∀ name ∈ names, IsName name.toList) :
    ofText ("\n".intercalate names) = ⟨names.toArray⟩ := by
  have hlists : ∀ name ∈ names.map String.toList, IsName name := List.forall_mem_map.2 h
  have hnames : namesIn ("\n".intercalate names).toList = names.map String.toList := by
    rw [String.toList_intercalate]
    exact namesIn_intercalate hlists
  rw [ofText_eq, hnames, List.map_map]
  simp [Function.comp_def]

theorem isName_of_mem_ofText {text name : String} (h : name ∈ (ofText text).names) : IsName name.toList := by
  simp only [ofText_eq, List.mem_toArray, List.mem_map] at h
  obtain ⟨cs, hcs, rfl⟩ := h
  rw [String.toList_ofList]
  exact isName_of_mem_namesIn hcs

/-- The names in a label file are names, and are read again when they are written one to a line, as is any list of
names.  Other line ends, blank lines more or less, blank characters around a name and a line end more or less at the end
of the file keep every name at its index. -/
theorem label_files_are_canonical (text : String) :
    (∀ name ∈ (ofText text).names, IsName name.toList) ∧
      ofText ("\n".intercalate (ofText text).names.toList) = ofText text ∧
      (∀ names : List String, (∀ name ∈ names, IsName name.toList) →
        (ofText ("\n".intercalate names)).names.toList = names) ∧
      ∀ edited : String, Relation.EqvGen Edit text.toList edited.toList → ofText edited = ofText text := by
  have hnames : ∀ name ∈ (ofText text).names, IsName name.toList := fun name => isName_of_mem_ofText
  refine ⟨hnames, ?_, ?_, ?_⟩
  · rw [ofText_intercalate]
    simpa using hnames
  · intro names h
    rw [ofText_intercalate h]
  · intro edited h
    rw [ofText_eq, ofText_eq, namesIn_eq_of_edits h]

end FrameDetect.Labels
