import Mathlib.Data.List.Basic

/-!
# Contests

A contest goes through a list.  Each element is compared with those after it; of two that clash, one
leaves.  An element that leaves is compared no further, and those behind the winner stay as they are.
Nothing here depends on what the elements are, on which of them clash, or on which of them win.
-/

namespace FrameDetect.Detect

variable {α β : Type} (clash wins : α → α → Bool)

/-- Compares an element with the ones behind it: whether it stays, and who is left of the others.  The
first one that clashes with it and wins ends the comparison. -/
def challenge (x : α) : List α → Bool × List α
  | [] => (true, [])
  | y :: rest =>
    if clash x y then
      if wins x y then (false, y :: rest) else challenge x rest
    else ((challenge x rest).1, y :: (challenge x rest).2)

variable {clash wins}

theorem challenge_of_not_clash {x y : α} (rest : List α) (h : clash x y = false) :
    challenge clash wins x (y :: rest) =
      ((challenge clash wins x rest).1, y :: (challenge clash wins x rest).2) := by
  simp [challenge, h]

theorem challenge_of_wins {x y : α} (rest : List α) (hc : clash x y = true) (hw : wins x y = true) :
    challenge clash wins x (y :: rest) = (false, y :: rest) := by
  simp [challenge, hc, hw]

theorem challenge_of_not_wins {x y : α} (rest : List α) (hc : clash x y = true)
    (hw : wins x y = false) :
    challenge clash wins x (y :: rest) = challenge clash wins x rest := by
  simp [challenge, hc, hw]

/-- Nobody joins and nobody changes places. -/
theorem challenge_sublist (x : α) (others : List α) :
    (challenge clash wins x others).2.Sublist others := by
  induction others with
  | nil => exact List.Sublist.refl []
  | cons y rest ih =>
    cases hc : clash x y with
    | false =>
      rw [challenge_of_not_clash rest hc]
      exact ih.cons_cons y
    | true =>
      cases hw : wins x y with
      | false =>
        rw [challenge_of_not_wins rest hc hw]
        exact ih.cons y
      | true =>
        rw [challenge_of_wins rest hc hw]

variable (clash wins)

/-- Those who are left when each one in turn has been compared with the ones behind it. -/
def contest : List α → List α
  | [] => []
  | x :: others =>
    have : (challenge clash wins x others).2.length ≤ others.length :=
      (challenge_sublist x others).length_le
    let left := contest (challenge clash wins x others).2
    if (challenge clash wins x others).1 then x :: left else left
termination_by everyone => everyone.length
decreasing_by simp only [List.length_cons]; omega

/-- What holds of the empty list, and of a list if it holds of those left behind its first element, holds
of every list. -/
@[elab_as_elim]
theorem contest_induction {motive : List α → Prop} (nil : motive [])
    (cons : ∀ x others, motive (challenge clash wins x others).2 → motive (x :: others))
    (everyone : List α) : motive everyone := by
  fun_induction contest clash wins everyone with
  | case1 => exact nil
  | case2 x others _ _ _ ih => exact cons x others ih
  | case3 x others _ _ _ ih => exact cons x others ih

variable {clash wins}

@[simp] theorem contest_nil : contest clash wins [] = [] := by rw [contest]

theorem contest_cons (x : α) (others : List α) :
    contest clash wins (x :: others) =
      if (challenge clash wins x others).1
      then x :: contest clash wins (challenge clash wins x others).2
      else contest clash wins (challenge clash wins x others).2 := by
  rw [contest]

theorem contest_sublist (everyone : List α) : (contest clash wins everyone).Sublist everyone := by
  induction everyone using contest_induction clash wins with
  | nil => rw [contest_nil]
  | cons x others ih =>
    have left := ih.trans (challenge_sublist x others)
    rw [contest_cons]
    split
    · exact left.cons_cons x
    · exact left.cons x

/-- Who stays does not clash with any of those who are left behind. -/
theorem not_clash_of_mem_challenge {x : α} {others : List α}
    (stays : (challenge clash wins x others).1 = true) :
    ∀ y ∈ (challenge clash wins x others).2, clash x y = false := by
  induction others with
  | nil => exact nofun
  | cons y rest ih =>
    cases hc : clash x y with
    | false =>
      rw [challenge_of_not_clash rest hc] at stays ⊢
      exact List.forall_mem_cons.2 ⟨hc, ih stays⟩
    | true =>
      cases hw : wins x y with
      | false =>
        rw [challenge_of_not_wins rest hc hw] at stays ⊢
        exact ih stays
      | true =>
        rw [challenge_of_wins rest hc hw] at stays
        cases stays

/-- Nobody who is left clashes with one who comes later. -/
theorem pairwise_contest (everyone : List α) :
    (contest clash wins everyone).Pairwise fun x y => clash x y = false := by
  induction everyone using contest_induction clash wins with
  | nil =>
    rw [contest_nil]
    exact .nil
  | cons x others ih =>
    rw [contest_cons]
    split_ifs with stays
    · refine .cons (fun y hy => ?_) ih
      exact not_clash_of_mem_challenge stays y ((contest_sublist _).mem hy)
    · exact ih

/-! ## Other elements -/

theorem challenge_map (f : β → α) (x : β) (others : List β) :
    challenge clash wins (f x) (others.map f) =
      ((challenge (fun a b => clash (f a) (f b)) (fun a b => wins (f a) (f b)) x others).1,
        (challenge (fun a b => clash (f a) (f b)) (fun a b => wins (f a) (f b)) x others).2.map f) := by
  induction others with
  | nil => rfl
  | cons y rest ih =>
    cases hc : clash (f x) (f y) with
    | false => simp only [List.map_cons, challenge, hc, ih, Bool.false_eq_true, if_false]
    | true =>
      cases hw : wins (f x) (f y) with
      | false => simp only [List.map_cons, challenge, hc, hw, ih, Bool.false_eq_true, if_false, if_true]
      | true => simp only [List.map_cons, challenge, hc, hw, if_true]

/-- A contest of images is the image of a contest. -/
theorem contest_map (f : β → α) (everyone : List β) :
    contest clash wins (everyone.map f) =
      (contest (fun a b => clash (f a) (f b)) (fun a b => wins (f a) (f b)) everyone).map f := by
  induction everyone using
    contest_induction (fun a b => clash (f a) (f b)) (fun a b => wins (f a) (f b)) with
  | nil => rw [List.map_nil, contest_nil, contest_nil, List.map_nil]
  | cons x others ih =>
    rw [List.map_cons, contest_cons, contest_cons, challenge_map, ih]
    split
    · rw [List.map_cons]
    · rfl

/-! ## Other rules -/

variable {clash' wins' : α → α → Bool}

theorem challenge_congr {x : α} {others : List α} (hc : ∀ y ∈ others, clash x y = clash' x y)
    (hw : ∀ y ∈ others, wins x y = wins' x y) :
    challenge clash wins x others = challenge clash' wins' x others := by
  induction others with
  | nil => rfl
  | cons y rest ih =>
    have htail := ih (fun z hz => hc z (List.mem_cons_of_mem y hz))
      (fun z hz => hw z (List.mem_cons_of_mem y hz))
    simp only [challenge, hc y List.mem_cons_self, hw y List.mem_cons_self, htail]

/-- Rules that agree on the elements of a list give the same contest. -/
theorem contest_congr {everyone : List α}
    (hc : ∀ x ∈ everyone, ∀ y ∈ everyone, clash x y = clash' x y)
    (hw : ∀ x ∈ everyone, ∀ y ∈ everyone, wins x y = wins' x y) :
    contest clash wins everyone = contest clash' wins' everyone := by
  induction everyone using contest_induction clash wins with
  | nil => rw [contest_nil, contest_nil]
  | cons x others ih =>
    have same : challenge clash wins x others = challenge clash' wins' x others :=
      challenge_congr (fun y hy => hc x List.mem_cons_self y (List.mem_cons_of_mem x hy))
        (fun y hy => hw x List.mem_cons_self y (List.mem_cons_of_mem x hy))
    have hmem : ∀ y ∈ (challenge clash wins x others).2, y ∈ x :: others :=
      fun y hy => List.mem_cons_of_mem x ((challenge_sublist x others).mem hy)
    rw [contest_cons, contest_cons, ← same,
      ih (fun y hy z hz => hc y (hmem y hy) z (hmem z hz))
        (fun y hy z hz => hw y (hmem y hy) z (hmem z hz))]

/-! ## Fewer elements

Where a mark `p` decides between elements, so that one that has it wins over one that has not, the marked
ones contend as if they were alone.
-/

variable {p : α → Bool}

/-- The others that lack the mark make no difference to an element that they cannot win over. -/
theorem challenge_filter {x : α} {others : List α} (low : ∀ y ∈ others, p y = false → wins x y = false) :
    challenge clash wins x (others.filter p) =
      ((challenge clash wins x others).1, (challenge clash wins x others).2.filter p) := by
  induction others with
  | nil => rfl
  | cons y rest ih =>
    have htail := ih fun z hz => low z (List.mem_cons_of_mem y hz)
    cases hp : p y with
    | false =>
      have hw : wins x y = false := low y List.mem_cons_self hp
      rw [List.filter_cons_of_neg (by simp [hp]), htail]
      cases hc : clash x y with
      | false => rw [challenge_of_not_clash rest hc, List.filter_cons_of_neg (by simp [hp])]
      | true => rw [challenge_of_not_wins rest hc hw]
    | true =>
      rw [List.filter_cons_of_pos hp]
      cases hc : clash x y with
      | false =>
        rw [challenge_of_not_clash _ hc, challenge_of_not_clash rest hc, htail,
          List.filter_cons_of_pos hp]
      | true =>
        cases hw : wins x y with
        | false => rw [challenge_of_not_wins _ hc hw, challenge_of_not_wins rest hc hw, htail]
        | true =>
          rw [challenge_of_wins _ hc hw, challenge_of_wins rest hc hw, List.filter_cons_of_pos hp]

/-- An element that cannot win over the marked ones makes no difference to them. -/
theorem filter_challenge {x : α} {others : List α} (high : ∀ y ∈ others, p y = true → wins x y = true) :
    (challenge clash wins x others).2.filter p = others.filter p := by
  induction others with
  | nil => rfl
  | cons y rest ih =>
    have htail := ih fun z hz => high z (List.mem_cons_of_mem y hz)
    cases hc : clash x y with
    | false =>
      rw [challenge_of_not_clash rest hc, List.filter_cons, List.filter_cons, htail]
    | true =>
      cases hw : wins x y with
      | true => rw [challenge_of_wins rest hc hw]
      | false =>
        have hp : p y = false := by
          rw [Bool.eq_false_iff]
          intro marked
          exact Bool.false_ne_true (hw.symm.trans (high y List.mem_cons_self marked))
        rw [challenge_of_not_wins rest hc hw, htail, List.filter_cons_of_neg (by simp [hp])]

/-- The marked ones that are left are those that are left when only they contend. -/
theorem filter_contest {everyone : List α}
    (low : ∀ x ∈ everyone, ∀ y ∈ everyone, p x = true → p y = false → wins x y = false)
    (high : ∀ x ∈ everyone, ∀ y ∈ everyone, p x = false → p y = true → wins x y = true) :
    (contest clash wins everyone).filter p = contest clash wins (everyone.filter p) := by
  induction everyone using contest_induction clash wins with
  | nil => rw [List.filter_nil, contest_nil, List.filter_nil]
  | cons x others ih =>
    have hmem : ∀ y ∈ (challenge clash wins x others).2, y ∈ x :: others :=
      fun y hy => List.mem_cons_of_mem x ((challenge_sublist x others).mem hy)
    have hrest := ih (fun y hy z hz => low y (hmem y hy) z (hmem z hz))
      (fun y hy z hz => high y (hmem y hy) z (hmem z hz))
    rw [contest_cons]
    cases hp : p x with
    | false =>
      have hsame : (challenge clash wins x others).2.filter p = others.filter p :=
        filter_challenge fun y hy => high x List.mem_cons_self y (List.mem_cons_of_mem x hy) hp
      rw [List.filter_cons_of_neg (by simp [hp]), ← hsame, ← hrest]
      split
      · rw [List.filter_cons_of_neg (by simp [hp])]
      · rfl
    | true =>
      -- A marked element meets the same marked ones, whether or not others stand between them.
      have hsame : challenge clash wins x (others.filter p) =
          ((challenge clash wins x others).1, (challenge clash wins x others).2.filter p) :=
        challenge_filter fun y hy => low x List.mem_cons_self y (List.mem_cons_of_mem x hy) hp
      rw [List.filter_cons_of_pos hp, contest_cons, hsame, ← hrest]
      split
      · rw [List.filter_cons_of_pos hp]
      · rfl

end FrameDetect.Detect
