import FrameDetect.Proofs.Detect.Independence
import FrameDetect.Proofs.Detect.Reference
import Mathlib.Logic.Relation

/-!
# Rows that give way

A row is rejected by a row that overlaps it and beats it.  That row may be rejected itself later in the same
pass, but then again by one that beats it, and so on up to a row that is kept.  Rows are beaten in a linear
order, by objectness and between equals by index, so that the best row of all never gives way.
-/

namespace FrameDetect.Detect

open FrameDetect.Number (beq_iff_rank lt_iff_rank)

/-! ## Losers of a contest -/

section

variable {α : Type} {clash wins : α → α → Bool} {R : α → α → Prop} {x : α} {others everyone : List α}

/-- Who leaves a challenge has met somebody who wins and who is left. -/
theorem exists_winner_of_leaves (h : ∀ y ∈ others, clash x y = true → wins x y = true → R x y)
    (leaves : (challenge clash wins x others).1 = false) :
    ∃ y ∈ (challenge clash wins x others).2, R x y := by
  induction others with
  | nil => cases leaves
  | cons y rest ih =>
    obtain ⟨hy, hrest⟩ := List.forall_mem_cons.1 h
    cases hc : clash x y with
    | false =>
      rw [challenge_of_not_clash rest hc] at leaves ⊢
      obtain ⟨z, hz, hxz⟩ := ih hrest leaves
      exact ⟨z, List.mem_cons_of_mem y hz, hxz⟩
    | true =>
      cases hw : wins x y with
      | false =>
        rw [challenge_of_not_wins rest hc hw] at leaves ⊢
        exact ih hrest leaves
      | true =>
        rw [challenge_of_wins rest hc hw]
        exact ⟨y, List.mem_cons_self, hy hc hw⟩

/-- Those who are not left behind a challenger have lost to the challenger. -/
theorem left_or_loses (h : ∀ y ∈ others, clash x y = true → wins x y = false → R y x) :
    ∀ y ∈ others, y ∈ (challenge clash wins x others).2 ∨ R y x := by
  induction others with
  | nil => exact nofun
  | cons y rest ih =>
    obtain ⟨hy, hrest⟩ := List.forall_mem_cons.1 h
    cases hc : clash x y with
    | false =>
      rw [challenge_of_not_clash rest hc]
      refine List.forall_mem_cons.2 ⟨.inl List.mem_cons_self, fun z hz => ?_⟩
      exact (ih hrest z hz).imp_left (List.mem_cons_of_mem y)
    | true =>
      cases hw : wins x y with
      | false =>
        rw [challenge_of_not_wins rest hc hw]
        exact List.forall_mem_cons.2 ⟨.inr (hy hc hw), ih hrest⟩
      | true =>
        rw [challenge_of_wins rest hc hw]
        exact fun z hz => .inl hz

/-- The loser of each clash stands on the left of `R`. -/
def LosesBy (clash wins : α → α → Bool) (R : α → α → Prop) (x y : α) : Prop :=
  (clash x y = true → wins x y = true → R x y) ∧ (clash x y = true → wins x y = false → R y x)

/-- From everyone a chain of losses leads to somebody who is left in the end. -/
theorem exists_chain_to_contest (h : everyone.Pairwise (LosesBy clash wins R)) :
    ∀ x ∈ everyone, ∃ y ∈ contest clash wins everyone, Relation.ReflTransGen R x y := by
  induction everyone using contest_induction clash wins with
  | nil => exact nofun
  | cons x others ih =>
    obtain ⟨hx, hothers⟩ := List.pairwise_cons.1 h
    have hleft := ih (hothers.sublist (challenge_sublist x others))
    have hrest : ∀ y ∈ contest clash wins (challenge clash wins x others).2,
        y ∈ contest clash wins (x :: others) := by
      intro y hy
      rw [contest_cons]
      split
      · exact List.mem_cons_of_mem x hy
      · exact hy
    have hself : ∃ y ∈ contest clash wins (x :: others), Relation.ReflTransGen R x y := by
      cases hstays : (challenge clash wins x others).1 with
      | true =>
        refine ⟨x, ?_, .refl⟩
        rw [contest_cons, if_pos hstays]
        exact List.mem_cons_self
      | false =>
        obtain ⟨z, hz, hxz⟩ := exists_winner_of_leaves (fun y hy => (hx y hy).1) hstays
        obtain ⟨y, hy, hzy⟩ := hleft z hz
        exact ⟨y, hrest y hy, .head hxz hzy⟩
    refine List.forall_mem_cons.2 ⟨hself, fun y hy => ?_⟩
    rcases left_or_loses (fun y hy => (hx y hy).2) y hy with hyleft | hyx
    · obtain ⟨z, hz, hyz⟩ := hleft y hyleft
      exact ⟨z, hrest z hz, hyz⟩
    · -- `x` may have left afterwards, so that the chain of `x` is needed and not only `x`
      obtain ⟨z, hz, hxz⟩ := hself
      exact ⟨z, hz, .head hyx hxz⟩

/-- Who does not win a contest has lost, and a chain of losses leads to a winner. -/
theorem exists_chain_of_not_mem (h : everyone.Pairwise (LosesBy clash wins R)) (hx : x ∈ everyone)
    (hlost : x ∉ contest clash wins everyone) :
    ∃ y ∈ contest clash wins everyone, Relation.TransGen R x y := by
  obtain ⟨y, hy, hxy⟩ := exists_chain_to_contest h x hx
  rcases Relation.reflTransGen_iff_eq_or_transGen.1 hxy with rfl | hchain
  · exact absurd hy hlost
  · exact ⟨y, hy, hchain⟩

end

/-! ## The order of rows -/

/-- Whether the first of two indices wins a tie. -/
def TieBreak.Prefers : TieBreak → Nat → Nat → Prop
  | .later, i, j => i < j
  | .earlier, i, j => j < i

/-- A row beats those of smaller objectness, and those of the same objectness against which it wins ties. -/
def Beats (tie : TieBreak) (y x : Row × Nat) : Prop :=
  x.1.objectness < y.1.objectness ∨
    (x.1.objectness == y.1.objectness) = true ∧ tie.Prefers y.2 x.2

/-- The place of a row among all others: by objectness, then by index. -/
def standing (tie : TieBreak) (x : Row × Nat) : (Int ×ₗ Int ×ₗ Int) ×ₗ Int :=
  toLex (Number.rank x.1.objectness,
    match tie with
    | .later => -(x.2 : Int)
    | .earlier => x.2)

section

variable {tie : TieBreak} {x y : Row × Nat}

theorem standing_ne (h : x.2 ≠ y.2) : standing tie x ≠ standing tie y := by
  intro heq
  have hindex := congrArg (fun place => (ofLex place).2) heq
  cases tie <;> simp [standing] at hindex <;> exact h hindex

variable (hx : x.1.objectness.isNaN = false) (hy : y.1.objectness.isNaN = false)

include hx hy

theorem beats_iff_standing : Beats tie y x ↔ standing tie x < standing tie y := by
  unfold Beats standing
  rw [Prod.Lex.toLex_lt_toLex, lt_iff_rank, beq_iff_rank]
  cases tie <;> simp only [hx, hy, true_and, TieBreak.Prefers, neg_lt_neg_iff, Nat.cast_lt]

/-- The second of two rows wins just if it beats the first. -/
theorem defeats_iff_beats (hlt : x.2 < y.2) : defeats tie x y = true ↔ Beats tie y x := by
  rw [defeats, secondWins_eq tie hx hy, Bool.or_eq_true, Bool.and_eq_true, decide_eq_true_eq,
    decide_eq_true_eq, Beats]
  cases tie with
  | later => simp [TieBreak.Prefers, Nat.not_lt_of_gt hlt]
  | earlier => simp [TieBreak.Prefers, hlt]

/-- Of two rows one beats the other. -/
theorem beats_of_not_beats (hne : x.2 ≠ y.2) (h : ¬Beats tie y x) : Beats tie x y := by
  rw [beats_iff_standing hx hy] at h
  rw [beats_iff_standing hy hx]
  exact lt_of_le_of_ne (not_lt.1 h) (standing_ne hne.symm)

theorem not_beats_of_beats (h : Beats tie y x) : ¬Beats tie x y := by
  rw [beats_iff_standing hx hy] at h
  rw [beats_iff_standing hy hx]
  exact h.asymm

end

/-! ## Suppression -/

/-- Row `i` may be rejected for row `j`: both were kept before, they overlap by more than the threshold, and
row `j` beats row `i`. -/
def GivesWay (rows : Array Row) (mask : Mask) (threshold : Float32) (tie : TieBreak) (i j : Nat) : Prop :=
  ∃ a b, rows[i]? = some a ∧ mask.keeps i = true ∧ rows[j]? = some b ∧ mask.keeps j = true ∧
    threshold < overlap a.box b.box ∧ Beats tie (b, j) (a, i)

/-- A row that was kept and beats all others that were kept. -/
structure Best (rows : Array Row) (mask : Mask) (tie : TieBreak) (best : Nat) : Prop where
  kept : mask.keeps best = true
  beats : ∀ i, mask.keeps i = true → i ≠ best →
    ∃ a b, rows[i]? = some a ∧ rows[best]? = some b ∧ Beats tie (b, best) (a, i)

section

variable {rows : Array Row} {mask : Mask} {threshold : Float32} {tie : TieBreak}

/-- A row that is kept is there. -/
theorem exists_mem_kept (hsize : rows.size = mask.size) {i : Nat} (h : mask.keeps i = true) :
    ∃ a, (a, i) ∈ mask.kept 0 rows.toList := by
  have hi : i < rows.size := hsize.symm ▸ Mask.lt_size_of_keeps h
  exact ⟨rows[i], mem_kept_iff.2 ⟨Array.getElem?_eq_getElem hi, h⟩⟩

section

variable (numbers : ∀ row ∈ rows, row.objectness.isNaN = false)

include numbers

theorem isNaN_of_mem_kept {x : Row × Nat} (h : x ∈ mask.kept 0 rows.toList) :
    x.1.objectness.isNaN = false :=
  numbers x.1 (Array.mem_of_getElem? (mem_kept_iff.1 h).1)

/-- Of two kept rows that clash, the one that loses gives way to the other. -/
theorem losesBy_givesWay (hthreshold : threshold.isNaN = false) :
    (mask.kept 0 rows.toList).Pairwise
      (LosesBy (clashes threshold) (defeats tie) fun x y => GivesWay rows mask threshold tie x.2 y.2) := by
  refine (mask.pairwise_kept 0 rows.toList).imp_of_mem fun {x y} hx hy hlt => ?_
  have hnx := isNaN_of_mem_kept numbers hx
  have hny := isNaN_of_mem_kept numbers hy
  obtain ⟨hrow, hkept⟩ := mem_kept_iff.1 hx
  obtain ⟨hrow', hkept'⟩ := mem_kept_iff.1 hy
  have hiff : defeats tie x y = true ↔ Beats tie y x := defeats_iff_beats hnx hny hlt
  constructor
  · intro hc hw
    rw [clashes, conflicts_eq hthreshold, decide_eq_true_eq] at hc
    exact ⟨x.1, y.1, hrow, hkept, hrow', hkept', hc, hiff.1 hw⟩
  · intro hc hw
    rw [clashes, conflicts_comm, conflicts_eq hthreshold, decide_eq_true_eq] at hc
    have hnot : ¬Beats tie y x := mt hiff.2 (Bool.eq_false_iff.1 hw)
    exact ⟨y.1, x.1, hrow', hkept', hrow, hkept, hc,
      beats_of_not_beats hnx hny (Nat.ne_of_lt hlt) hnot⟩

/-- Among kept rows there is a best one. -/
theorem exists_best (hsize : rows.size = mask.size) (hkept : ∃ i, mask.keeps i = true) :
    ∃ best, Best rows mask tie best := by
  obtain ⟨i, hi⟩ := hkept
  obtain ⟨a, ha⟩ := exists_mem_kept hsize hi
  obtain ⟨best, hbest, hmax⟩ := (mask.kept 0 rows.toList).toFinset.exists_max_image (standing tie)
    ⟨(a, i), List.mem_toFinset.2 ha⟩
  rw [List.mem_toFinset] at hbest
  obtain ⟨hrow, hkeeps⟩ := mem_kept_iff.1 hbest
  refine ⟨best.2, hkeeps, fun k hk hne => ?_⟩
  obtain ⟨b, hb⟩ := exists_mem_kept hsize hk
  refine ⟨b, best.1, (mem_kept_iff.1 hb).1, hrow, ?_⟩
  have hle := hmax (b, k) (List.mem_toFinset.2 hb)
  rw [beats_iff_standing (isNaN_of_mem_kept numbers hb) (isNaN_of_mem_kept numbers hbest)]
  exact lt_of_le_of_ne hle (standing_ne hne)

/-- The best row gives way to no other. -/
theorem Best.not_givesWay {best j : Nat} (h : Best rows mask tie best) :
    ¬GivesWay rows mask threshold tie best j := by
  rintro ⟨a, b, ha, -, hb, hkept, -, hbeats⟩
  have hna := numbers a (Array.mem_of_getElem? ha)
  have hnb := numbers b (Array.mem_of_getElem? hb)
  have hnot : ¬Beats tie (a, best) (b, j) :=
    not_beats_of_beats (x := (a, best)) (y := (b, j)) hna hnb hbeats
  by_cases hne : j = best
  · subst hne
    cases Option.some.inj (ha.symm.trans hb)
    exact hnot hbeats
  · obtain ⟨b', a', hb', ha', hbeats'⟩ := h.beats j hkept hne
    cases Option.some.inj (ha.symm.trans ha')
    cases Option.some.inj (hb.symm.trans hb')
    exact hnot hbeats'

end

end

/-- For each row that suppression rejects there is a chain of rows, each of which overlaps the one before by more
than the threshold and beats it, up to a row that suppression keeps.  All of them were kept before.  The best
row of all is never rejected, and if any row was kept before there is a best one. -/
theorem rejected_gives_way (rows : Array Row) (mask : Mask) (threshold : Float32) (tie : TieBreak)
    (hsize : rows.size = mask.size) (numbers : ∀ row ∈ rows, row.objectness.isNaN = false)
    (hthreshold : threshold.isNaN = false) :
    ∃ count mask', suppress rows threshold tie mask = .ok (count, mask') ∧
      (∀ i, mask.keeps i = true → mask'.keeps i = false →
        ∃ j, Relation.TransGen (GivesWay rows mask threshold tie) i j ∧ mask'.keeps j = true) ∧
      (∀ best, Best rows mask tie best → mask'.keeps best = true) ∧
      ((∃ i, mask.keeps i = true) → ∃ best, Best rows mask tie best) := by
  obtain ⟨count, mask', hsuppress, hsize', hkept⟩ := suppress_eq_contest threshold tie hsize
  have hchain : ∀ i, mask.keeps i = true → mask'.keeps i = false →
      ∃ j, Relation.TransGen (GivesWay rows mask threshold tie) i j ∧ mask'.keeps j = true := by
    intro i hi hrejected
    obtain ⟨a, ha⟩ := exists_mem_kept hsize hi
    have hlost : (a, i) ∉ contest (clashes threshold) (defeats tie) (mask.kept 0 rows.toList) := by
      rw [← hkept, mem_kept_iff, hrejected]
      simp
    obtain ⟨y, hy, hgen⟩ := exists_chain_of_not_mem (losesBy_givesWay numbers hthreshold) ha hlost
    rw [← hkept] at hy
    exact ⟨y.2, hgen.lift Prod.snd fun _ _ => id, (mem_kept_iff.1 hy).2⟩
  refine ⟨count, mask', hsuppress, hchain, fun best hbest => ?_, exists_best numbers hsize⟩
  by_contra hrejected
  obtain ⟨j, hgen, -⟩ := hchain best hbest.kept (Bool.eq_false_iff.2 hrejected)
  obtain ⟨next, hfirst, -⟩ := Relation.TransGen.head'_iff.1 hgen
  exact hbest.not_givesWay numbers hfirst

/-- Three rows side by side, each of which overlaps the next one and has a smaller objectness. -/
def stairs : Array Row :=
  #[⟨⟨0.4, 0.5, 0.4, 1⟩, 0.5⟩, ⟨⟨0.5, 0.5, 0.4, 1⟩, 0.6⟩, ⟨⟨0.6, 0.5, 0.4, 1⟩, 0.9⟩]

theorem rejected_gives_way_stairs :
    stairs.size = (Mask.clear 3).size ∧ (∀ row ∈ stairs, row.objectness.isNaN = false) ∧
      (0.4 : Float32).isNaN = false ∧
      ∃ count mask', suppress stairs 0.4 .later (.clear 3) = .ok (count, mask') ∧
        (∀ i, (Mask.clear 3).keeps i = true → mask'.keeps i = false →
          ∃ j, Relation.TransGen (GivesWay stairs (.clear 3) 0.4 .later) i j ∧ mask'.keeps j = true) ∧
        (∀ best, Best stairs (.clear 3) .later best → mask'.keeps best = true) ∧
        ((∃ i, (Mask.clear 3).keeps i = true) → ∃ best, Best stairs (.clear 3) .later best) :=
  ⟨rfl, by decide, by decide,
    rejected_gives_way stairs (.clear 3) 0.4 .later rfl (by decide) (by decide)⟩

-- the second row is rejected for the third, after the first was rejected for it
example : suppress stairs 0.4 .later (.clear 3) = .ok (2, ⟨#[true, true, false]⟩) := by decide +kernel

end FrameDetect.Detect
