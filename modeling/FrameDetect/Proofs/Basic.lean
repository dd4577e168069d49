import FrameDetect.Overflow
import Mathlib.Algebra.Group.Nat.Defs
import Mathlib.Data.List.Basic

/-!
# Steps, words and histories

What a sequence of steps gives can be told from what each step gives.  A word is checked when it is computed, and holds
the number itself or there is none.  A history is a list of what has happened, the first thing first.  Where values are
given by name, the last one of each name counts.
-/

namespace FrameDetect

variable {σ ε ε' α β : Type}

/-! ## One step after the other -/

@[simp] theorem ok_bind (a : α) (f : α → Except ε β) : (Except.ok a >>= f) = f a := rfl

@[simp] theorem error_bind (fault : ε) (f : α → Except ε β) : (Except.error fault >>= f) = .error fault := rfl

/-- What follows on a step that gives a result. -/
theorem exists_of_bind_eq_ok {x : Except ε α} {f : α → Except ε β} {b : β} (h : x >>= f = .ok b) :
    ∃ a, x = .ok a ∧ f a = .ok b := by
  cases x with
  | error fault => cases h
  | ok a => exact ⟨a, rfl, h⟩

/-- A fault is that of the step or of what follows on it. -/
theorem cases_of_bind_eq_error {x : Except ε α} {f : α → Except ε β} {fault : ε} (h : x >>= f = .error fault) :
    x = .error fault ∨ ∃ a, x = .ok a ∧ f a = .error fault := by
  cases x with
  | error other =>
    cases h
    exact .inl rfl
  | ok a => exact .inr ⟨a, rfl, h⟩

/-- What a result was made from. -/
theorem exists_of_map_eq_ok {x : Except ε α} {f : α → β} {b : β} (h : x.map f = .ok b) :
    ∃ a, x = .ok a ∧ f a = b := by
  cases x with
  | error fault => cases h
  | ok a => exact ⟨a, rfl, Except.ok.inj h⟩

/-- Steps that all give a result give as many results as there are steps. -/
theorem length_of_mapM_eq_ok {f : α → Except ε β} {as : List α} {bs : List β} (h : as.mapM f = .ok bs) :
    bs.length = as.length := by
  induction as generalizing bs with
  | nil =>
    cases h
    rfl
  | cons a rest ih =>
    rw [List.mapM_cons] at h
    obtain ⟨b, -, h⟩ := exists_of_bind_eq_ok h
    obtain ⟨others, hothers, h⟩ := exists_of_bind_eq_ok h
    cases h
    rw [List.length_cons, List.length_cons, ih hothers]

/-- What follows on a step in a state goes on from what the step gives. -/
theorem bind_eq_of_eq {x : StateM σ α} {s s' : σ} {a : α} (h : x s = (a, s')) (f : α → StateM σ β) :
    (x >>= f) s = f a s' := by
  show f (x s).1 (x s).2 = f a s'
  rw [h]

/-- What follows on a step in a state that gives a result. -/
theorem exists_of_run_bind_eq_ok {x : ExceptT ε (StateM σ) α} {f : α → ExceptT ε (StateM σ) β} {s s' : σ} {b : β}
    (h : (x >>= f).run s = (.ok b, s')) : ∃ a t, x.run s = (.ok a, t) ∧ (f a).run t = (.ok b, s') := by
  change (ExceptT.bindCont f (x.run s).1) (x.run s).2 = _ at h
  generalize x.run s = result at h ⊢
  obtain ⟨result, t⟩ := result
  cases result with
  | error fault => cases h
  | ok a => exact ⟨a, t, rfl, h⟩

/-- A result does not depend on what faults are called. -/
theorem eq_ok_of_mapError_eq_ok {x : Except ε α} {f : ε → ε'} {a : α} (h : x.mapError f = .ok a) : x = .ok a := by
  cases x with
  | error fault => cases h
  | ok b =>
    cases h
    rfl

/-! ## Checked words -/

theorem toNat_add_one {n : UInt64} (h : n.toNat + 1 < 2 ^ 64) : (n + 1).toNat = n.toNat + 1 := by
  rw [UInt64.toNat_add]
  exact Nat.mod_eq_of_lt h

theorem toNat_sub_one {n : UInt64} (h : 0 < n.toNat) : (n - 1).toNat = n.toNat - 1 :=
  UInt64.toNat_sub_of_le n 1 (UInt64.le_iff_toNat_le.2 h)

theorem addChecked_eq (a b : UInt64) :
    addChecked a b = if a.toNat + b.toNat < 2 ^ 64 then .ok (a + b) else .error .sum := rfl

theorem addChecked_eq_ok_iff {a b c : UInt64} : addChecked a b = .ok c ↔ c.toNat = a.toNat + b.toNat := by
  have ha := a.toNat_lt
  have hc := c.toNat_lt
  rw [addChecked_eq]
  split
  next hfits =>
    rw [Except.ok.injEq, ← UInt64.toNat_inj, UInt64.toNat_add, Nat.mod_eq_of_lt hfits, eq_comm]
  next hlarge => exact iff_of_false nofun (by omega)

theorem addChecked_eq_error_iff {a b : UInt64} {cause : Overflow} :
    addChecked a b = .error cause ↔ 2 ^ 64 ≤ a.toNat + b.toNat ∧ cause = .sum := by
  rw [addChecked_eq]
  split
  next hfits => exact iff_of_false nofun (by omega)
  next hlarge => rw [Except.error.injEq, and_iff_right (Nat.le_of_not_lt hlarge), eq_comm]

theorem addChecked_one_eq_error_iff {a : UInt64} {cause : Overflow} :
    addChecked a 1 = .error cause ↔ 2 ^ 64 ≤ a.toNat + 1 ∧ cause = .sum :=
  addChecked_eq_error_iff

theorem mulChecked_eq (a b : UInt64) :
    mulChecked a b = if a.toNat * b.toNat < 2 ^ 64 then .ok (a * b) else .error .product := rfl

theorem mulChecked_eq_ok_iff {a b c : UInt64} : mulChecked a b = .ok c ↔ c.toNat = a.toNat * b.toNat := by
  have hc := c.toNat_lt
  rw [mulChecked_eq]
  split
  next hfits =>
    rw [Except.ok.injEq, ← UInt64.toNat_inj, UInt64.toNat_mul, Nat.mod_eq_of_lt hfits, eq_comm]
  next hlarge => exact iff_of_false nofun fun heq => hlarge (heq ▸ hc)

theorem mulChecked_eq_error_iff {a b : UInt64} {cause : Overflow} :
    mulChecked a b = .error cause ↔ 2 ^ 64 ≤ a.toNat * b.toNat ∧ cause = .product := by
  rw [mulChecked_eq]
  split
  next hfits => exact iff_of_false nofun fun hlarge => Nat.not_le_of_lt hfits hlarge.1
  next hlarge => rw [Except.error.injEq, and_iff_right (Nat.le_of_not_lt hlarge), eq_comm]

theorem zeros_eq_ok_iff {length : UInt64} {bytes : ByteArray} :
    zeros length = .ok bytes ↔ length.toNat ≤ greatestBlock ∧ bytes = ⟨Array.replicate length.toNat 0⟩ := by
  unfold zeros
  split
  next hfits => rw [Except.ok.injEq, and_iff_right hfits, eq_comm]
  next hlarge => exact iff_of_false nofun fun h => hlarge h.1

theorem zeros_eq_error_iff {length : UInt64} {cause : Overflow} :
    zeros length = .error cause ↔ greatestBlock < length.toNat ∧ cause = .capacity := by
  unfold zeros
  split
  next hfits => exact iff_of_false nofun fun h => Nat.not_le_of_lt h.1 hfits
  next hlarge => rw [Except.error.injEq, and_iff_right (Nat.lt_of_not_le hlarge), eq_comm]

/-! ## What has happened since -/

/-- Something with `P` has happened, and only things with `Q` have happened since. -/
def Since (P Q : α → Prop) (history : List α) : Prop :=
  ∃ before now after, history = before ++ now :: after ∧ P now ∧ ∀ later ∈ after, Q later

variable {P Q : α → Prop}

theorem not_since_nil : ¬Since P Q [] := by
  rintro ⟨before, now, after, h, -⟩
  simp at h

/-- What happens last either has `P` itself or comes after what has it. -/
theorem since_concat_iff (history : List α) (last : α) :
    Since P Q (history ++ [last]) ↔ P last ∨ Q last ∧ Since P Q history := by
  constructor
  · rintro ⟨before, now, after, h, hnow, hlater⟩
    rcases List.eq_nil_or_concat after with rfl | ⟨init, final, rfl⟩
    · obtain ⟨-, hlast⟩ := List.append_inj' h rfl
      cases hlast
      exact .inl hnow
    · rw [List.concat_eq_append] at h hlater
      rw [← List.cons_append, ← List.append_assoc] at h
      obtain ⟨hinit, hlast⟩ := List.append_inj' h rfl
      cases hlast
      obtain ⟨hafter, hfinal⟩ := List.forall_mem_append.1 hlater
      exact .inr ⟨hfinal last (List.mem_singleton_self _), before, now, init, hinit, hnow, hafter⟩
  · rintro (hlast | ⟨hlast, before, now, after, rfl, hnow, hlater⟩)
    · exact ⟨history, last, [], rfl, hlast, nofun⟩
    · refine ⟨before, now, after ++ [last], List.append_assoc .., hnow, ?_⟩
      intro later hmem
      rcases List.mem_append.1 hmem with hafter | hfinal
      · exact hlater later hafter
      · rwa [List.eq_of_mem_singleton hfinal]

/-! ## The last of each name -/

section

variable {name : String} {pair : String × β}

/-- The pairs of one name. -/
def named (name : String) (pairs : List (String × β)) : List (String × β) := pairs.filter fun pair => pair.1 = name

/-- The value that counts of those of one name. -/
def latest? (name : String) (pairs : List (String × β)) : Option β := (named name pairs).getLast?.map Prod.snd

theorem latest?_cons_of_ne (h : pair.1 ≠ name) (rest : List (String × β)) :
    latest? name (pair :: rest) = latest? name rest := by
  simp [latest?, named, h]

theorem latest?_cons_self (name : String) (b : β) (rest : List (String × β)) :
    latest? name ((name, b) :: rest) = some ((latest? name rest).getD b) := by
  simp only [latest?, named, List.filter_cons, decide_true, if_true, List.getLast?_cons]
  cases (rest.filter fun pair => pair.1 = name).getLast? <;> rfl

/-- No value counts just if the name does not stand anywhere. -/
theorem latest?_eq_none_iff {pairs : List (String × β)} : latest? name pairs = none ↔ ∀ pair ∈ pairs, pair.1 ≠ name := by
  simp [latest?, named]

end

end FrameDetect
