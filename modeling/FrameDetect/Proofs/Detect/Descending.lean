import FrameDetect.Proofs.Detect.Independence
import FrameDetect.Proofs.Detect.Reference

/-!
# Suppression of sorted rows

Where the rows come in the order of falling objectness and the later one loses ties, a row never gives way to
one behind it.  Suppression then is the greedy choice: the first row is kept, those that overlap it are
dropped, and so on with the others.  Which rows are kept can be said without any order of steps: just those
that overlap no row which is kept before them.
-/

namespace FrameDetect.Detect

open FrameDetect.Number (not_lt_iff not_isNaN_of_le)

/-! ## The greedy choice -/

section

variable {α : Type}

/-- Those who do not clash with an element. -/
def apart (clash : α → α → Bool) (x : α) (others : List α) : List α := others.filter fun y => !clash x y

theorem apart_sublist (clash : α → α → Bool) (x : α) (others : List α) :
    (apart clash x others).Sublist others := List.filter_sublist

theorem mem_apart {clash : α → α → Bool} {x y : α} {others : List α} :
    y ∈ apart clash x others ↔ y ∈ others ∧ clash x y = false := by
  rw [apart, List.mem_filter, Bool.not_eq_true']

/-- Takes the first element, drops those that clash with it, and goes on with the others. -/
def greedy (clash : α → α → Bool) : List α → List α
  | [] => []
  | x :: others => x :: greedy clash (apart clash x others)
termination_by everyone => everyone.length
decreasing_by exact Nat.lt_succ_of_le (apart_sublist clash x others).length_le

variable {clash wins : α → α → Bool} {everyone : List α}

theorem greedy_sublist (clash : α → α → Bool) (everyone : List α) :
    (greedy clash everyone).Sublist everyone := by
  fun_induction greedy clash everyone with
  | case1 => exact .refl []
  | case2 x others ih => exact (ih.trans (apart_sublist clash x others)).cons_cons x

/-- An element over which nobody wins stays, and all that clash with it leave. -/
theorem challenge_of_forall_not_wins {x : α} {others : List α} (h : ∀ y ∈ others, wins x y = false) :
    challenge clash wins x others = (true, apart clash x others) := by
  unfold apart
  induction others with
  | nil => rfl
  | cons y rest ih =>
    obtain ⟨hy, hrest⟩ := List.forall_mem_cons.1 h
    cases hc : clash x y with
    | false => rw [challenge_of_not_clash rest hc, ih hrest, List.filter_cons_of_pos (by simp [hc])]
    | true => rw [challenge_of_not_wins rest hc hy, ih hrest, List.filter_cons_of_neg (by simp [hc])]

/-- Where nobody wins over one who comes before, a contest is the greedy choice. -/
theorem contest_eq_greedy (h : everyone.Pairwise fun x y => wins x y = false) :
    contest clash wins everyone = greedy clash everyone := by
  fun_induction greedy clash everyone with
  | case1 => exact contest_nil
  | case2 x others ih =>
    obtain ⟨hx, hothers⟩ := List.pairwise_cons.1 h
    have hrest := ih (hothers.sublist (apart_sublist clash x others))
    rw [contest_cons, challenge_of_forall_not_wins hx, if_pos rfl, hrest]

/-- The greedy choice takes just those who clash with nobody that it takes before them. -/
theorem mem_greedy_iff (index : α → Nat) (h : everyone.Pairwise fun x y => index x < index y) {y : α} :
    y ∈ greedy clash everyone ↔
      y ∈ everyone ∧ ∀ x ∈ greedy clash everyone, index x < index y → clash x y = false := by
  fun_induction greedy clash everyone with
  | case1 => simp
  | case2 x others ih =>
    obtain ⟨hx, hothers⟩ := List.pairwise_cons.1 h
    have hbehind : ∀ z ∈ greedy clash (apart clash x others), index x < index z :=
      fun z hz => hx z ((apart_sublist clash x others).mem ((greedy_sublist clash _).mem hz))
    have hrest := ih (hothers.sublist (apart_sublist clash x others))
    rw [List.forall_mem_cons]
    constructor
    · intro hy
      rcases List.mem_cons.1 hy with rfl | hy
      · refine ⟨List.mem_cons_self, fun hself => absurd hself (lt_irrefl _), fun z hz hlt => ?_⟩
        exact absurd hlt (hbehind z hz).asymm
      · obtain ⟨hmem, hclash⟩ := hrest.1 hy
        obtain ⟨hother, hapart⟩ := mem_apart.1 hmem
        exact ⟨List.mem_cons_of_mem x hother, fun _ => hapart, hclash⟩
    · rintro ⟨hy, hapart, hclash⟩
      rcases List.mem_cons.1 hy with rfl | hy
      · exact List.mem_cons_self
      · have hmem : y ∈ apart clash x others := mem_apart.2 ⟨hy, hapart (hx y hy)⟩
        exact List.mem_cons_of_mem x (hrest.2 ⟨hmem, hclash⟩)

end

/-! ## Suppression -/

/-- A row does not win over one of at least the same objectness if the later one loses ties. -/
theorem secondWins_of_le {first second : Row} (h : second.objectness ≤ first.objectness) :
    secondWins .later first second = false := by
  obtain ⟨hsecond, hfirst⟩ := not_isNaN_of_le h
  have hnot : ¬first.objectness < second.objectness := (not_lt_iff hfirst hsecond).2 h
  rw [secondWins, if_neg hnot]
  split <;> rfl

/-- If kept rows do not rise in objectness and the later one loses ties, suppression makes the greedy choice
among them.  It keeps just the rows that were kept before and overlap no earlier row, of those that it keeps,
by more than the threshold. -/
theorem suppress_descending (rows : Array Row) (mask : Mask) (threshold : Float32)
    (hsize : rows.size = mask.size) (hthreshold : threshold.isNaN = false)
    (hsorted : (mask.kept 0 rows.toList).Pairwise fun x y => y.1.objectness ≤ x.1.objectness) :
    ∃ count mask', suppress rows threshold .later mask = .ok (count, mask') ∧
      mask'.kept 0 rows.toList = greedy (clashes threshold) (mask.kept 0 rows.toList) ∧
      ∀ i b, rows[i]? = some b →
        (mask'.keeps i = true ↔ mask.keeps i = true ∧
          ∀ s a, s < i → rows[s]? = some a → mask'.keeps s = true →
            ¬threshold < overlap a.box b.box) := by
  obtain ⟨count, mask', hsuppress, -, hkept⟩ := suppress_eq_contest threshold .later hsize
  have hnever : (mask.kept 0 rows.toList).Pairwise fun x y => defeats .later x y = false :=
    hsorted.imp secondWins_of_le
  rw [contest_eq_greedy hnever] at hkept
  refine ⟨count, mask', hsuppress, hkept, fun i b hb => ?_⟩
  have hiff : (b, i) ∈ mask'.kept 0 rows.toList ↔ (b, i) ∈ mask.kept 0 rows.toList ∧
      ∀ x ∈ mask'.kept 0 rows.toList, x.2 < i → clashes threshold x (b, i) = false := by
    rw [hkept]
    exact mem_greedy_iff Prod.snd (mask.pairwise_kept 0 rows.toList)
  simp only [mem_kept_iff, hb, true_and] at hiff
  rw [hiff]
  refine and_congr_right fun _ => ?_
  constructor
  · intro hclash s a hlt ha hs
    have hapart := hclash (a, s) (mem_kept_iff.2 ⟨ha, hs⟩) hlt
    rwa [clashes, conflicts_eq hthreshold, decide_eq_false_iff_not] at hapart
  · rintro hapart ⟨a, s⟩ hx hlt
    obtain ⟨ha, hs⟩ := mem_kept_iff.1 hx
    rw [clashes, conflicts_eq hthreshold, decide_eq_false_iff_not]
    exact hapart s a hlt ha hs

/-- Three rows side by side, each of which overlaps the next one and has a greater objectness. -/
def downstairs : Array Row :=
  #[⟨⟨0.4, 0.5, 0.4, 1⟩, 0.9⟩, ⟨⟨0.5, 0.5, 0.4, 1⟩, 0.6⟩, ⟨⟨0.6, 0.5, 0.4, 1⟩, 0.5⟩]

theorem suppress_descending_downstairs :
    downstairs.size = (Mask.clear 3).size ∧ (0.4 : Float32).isNaN = false ∧
      ((Mask.clear 3).kept 0 downstairs.toList).Pairwise (fun x y => y.1.objectness ≤ x.1.objectness) ∧
      ∃ count mask', suppress downstairs 0.4 .later (.clear 3) = .ok (count, mask') ∧
        mask'.kept 0 downstairs.toList =
          greedy (clashes 0.4) ((Mask.clear 3).kept 0 downstairs.toList) ∧
        ∀ i b, downstairs[i]? = some b →
          (mask'.keeps i = true ↔ (Mask.clear 3).keeps i = true ∧
            ∀ s a, s < i → downstairs[s]? = some a → mask'.keeps s = true →
              ¬0.4 < overlap a.box b.box) :=
  ⟨rfl, by decide, by decide,
    suppress_descending downstairs (.clear 3) 0.4 rfl (by decide) (by decide)⟩

end FrameDetect.Detect
