import FrameDetect.Proofs.Cycle.Published
import FrameDetect.Proofs.Cycle.Unbroken
import FrameDetect.Proofs.Detect.Upkeep

/-!
# The balance of a cycle

A cycle counts the candidates that pass the confidence filter and the rows that are suppressed among them.
What is left is published, so that the candidates are as many as the suppressed rows and the detections
together.

Suppression counts a row whenever it rejects one.  It never rejects a row twice and never revives one, so that
its count is the number of rows that the mask kept before and does not keep any more.
-/

namespace FrameDetect.Detect

/-- The number of rows that a mask keeps and another one does not. -/
def Mask.dropped (mask mask' : Mask) : Nat :=
  (List.range mask.size).countP fun i => mask.keeps i && !mask'.keeps i

/-- Rows that are rejected one after the other are as many as the mask drops. -/
theorem Rejects.dropped_eq {mask : Mask} {hits : List Nat} (h : Rejects mask hits) :
    mask.dropped ((hits.map Mark.hit).foldl Mark.apply mask) = hits.length := by
  obtain ⟨hnodup, hkept⟩ := h.nodup
  have hperm : ((List.range mask.size).filter fun i => mask.keeps i &&
      !((hits.map Mark.hit).foldl Mark.apply mask).keeps i).Perm hits := by
    refine (List.perm_ext_iff_of_nodup (List.nodup_range.filter _) hnodup).2 fun i => ?_
    rw [List.mem_filter, List.mem_range, keeps_foldl_hit]
    constructor
    · rintro ⟨-, hdropped⟩
      by_contra hnot
      simp [hnot] at hdropped
    · intro hi
      exact ⟨Mask.lt_size_of_keeps (hkept i hi), by simp [hkept i hi, hi]⟩
  rw [Mask.dropped, List.countP_eq_length_filter, hperm.length_eq]

/-- Suppression counts the rows that it drops, and revives none. -/
theorem suppress_eq_dropped {rows : Array Row} {mask : Mask} (threshold : Float32) (tie : TieBreak)
    (h : rows.size = mask.size) :
    ∃ mask', suppress rows threshold tie mask = .ok (mask.dropped mask', mask') ∧
      mask'.size = mask.size ∧ ∀ i, mask'.keeps i = true → mask.keeps i = true := by
  obtain ⟨hits, after, -, hmarked, hrejects, hsuppress⟩ :=
    InPlace.suppress_runs threshold tie (w := ⟨⟨rows, mask⟩, []⟩) h
  have hcount : mask.dropped after.scratch.mask = hits.length := by
    rw [hmarked.mask]
    exact hrejects.dropped_eq
  refine ⟨after.scratch.mask, ?_, hmarked.size, fun i hi => ?_⟩
  · rw [hcount]
    exact hsuppress
  · rw [hmarked.mask] at hi
    exact keeps_of_foldl_hit hi

theorem Mask.countValid_eq_countP (mask : Mask) :
    mask.countValid = (List.range mask.size).countP mask.keeps := by
  rw [← length_survivors, survivors, List.countP_eq_length_filter]

/-- Where no row is revived, the rows that were kept are those that are dropped and those that are left. -/
theorem Mask.countValid_eq {mask mask' : Mask} (hsize : mask'.size = mask.size)
    (h : ∀ i, mask'.keeps i = true → mask.keeps i = true) :
    mask.countValid = mask.dropped mask' + mask'.countValid := by
  have hleft : ∀ i, (mask.keeps i && mask'.keeps i) = mask'.keeps i := by
    intro i
    cases hi : mask'.keeps i with
    | false => rw [Bool.and_false]
    | true => rw [h i hi, Bool.and_self]
  calc mask.countValid = (List.range mask.size).countP mask.keeps := countValid_eq_countP mask
    _ = (List.range mask.size).countP (fun i => mask.keeps i && mask'.keeps i) +
        (List.range mask.size).countP (fun i => mask.keeps i && !mask'.keeps i) := by
      rw [List.countP_eq_countP_filter_add _ _ mask'.keeps, List.countP_filter, List.countP_filter]
    _ = mask'.countValid + mask.dropped mask' := by
      simp only [hleft, countValid_eq_countP, hsize, dropped]
    _ = mask.dropped mask' + mask'.countValid := Nat.add_comm _ _

namespace Scratch

variable {s s' : Scratch} {threshold : Float32} {tie : TieBreak} {count : Nat}

/-- Suppression counts the rows that it drops, revives none, and leaves what is in the rows. -/
theorem suppress_eq_dropped (threshold : Float32) (tie : TieBreak) (h : s.rows.size = s.mask.size) :
    ∃ s', s.suppress threshold tie = .ok (s.mask.dropped s'.mask, s') ∧ s'.rows = s.rows ∧
      s'.mask.size = s.mask.size ∧ ∀ i, s'.mask.keeps i = true → s.mask.keeps i = true := by
  obtain ⟨mask', hsuppress, hsize, hkeeps⟩ := Detect.suppress_eq_dropped threshold tie h
  refine ⟨{ s with mask := mask' }, ?_, rfl, hsize, hkeeps⟩
  rw [suppress, hsuppress]
  rfl

/-- Only scratch space with a mark for each row is suppressed. -/
theorem size_eq_of_suppress (h : s.suppress threshold tie = .ok (count, s')) :
    s.rows.size = s.mask.size := by
  by_contra hne
  rw [suppress, Detect.suppress, if_neg hne] at h
  cases h

/-- The rows that were kept are those that suppression counts and those that it leaves. -/
theorem countValid_of_suppress (h : s.suppress threshold tie = .ok (count, s')) :
    s.mask.countValid = count + s'.mask.countValid := by
  obtain ⟨after, hsuppress, -, hsize, hkeeps⟩ :=
    suppress_eq_dropped threshold tie (size_eq_of_suppress h)
  cases h.symm.trans hsuppress
  exact Mask.countValid_eq hsize hkeeps

/-- There is a detection for each row that is kept. -/
theorem length_of_resolve {view : Tensor.View} {detections : List Detection}
    (h : s.resolve view = .ok detections) : detections.length = s.mask.countValid := by
  rw [length_of_mapM_eq_ok h, length_survivors]

end Scratch

end FrameDetect.Detect

namespace FrameDetect.Cycle

open FrameDetect.Detect (Detection Scratch TieBreak)
open FrameDetect.Tensor (View fourRowsView)

/-- The steps of the pipeline on a tensor, with what is counted on the way and what is left in the end. -/
def Detector.Passes (d : Detector) (v : View) (candidates suppressed : Nat) (detections : List Detection) :
    Prop :=
  ∃ decoded filtered after,
    d.scratch.decode v = .ok decoded ∧
    decoded.filter d.thresholds.confidence = .ok filtered ∧
    filtered.mask.countValid = candidates ∧
    filtered.suppress d.thresholds.overlap d.tieBreak = .ok (suppressed, after) ∧
    after.resolve v = .ok detections

variable {d : Detector}

/-- Each candidate is suppressed or detected. -/
theorem Detector.Passes.balance {v : View} {candidates suppressed : Nat} {detections : List Detection}
    (h : d.Passes v candidates suppressed detections) : candidates = suppressed + detections.length := by
  obtain ⟨decoded, filtered, after, -, -, hcandidates, hsuppress, hresolve⟩ := h
  rw [← hcandidates, Scratch.countValid_of_suppress hsuppress, Scratch.length_of_resolve hresolve]

/-- A tensor passes through the steps of a detector that fits. -/
theorem Detector.Fitted.passes (h : d.Fitted) {v : View} (hv : v.layout = d.layout) :
    ∃ candidates suppressed, d.Passes v candidates suppressed (v.detections d.thresholds d.tieBreak) := by
  obtain ⟨scratch, hview, -⟩ := detectView_eq h hv
  obtain ⟨decoded, filtered, suppressed, hdecode, hfilter, hsuppress, hresolve⟩ :=
    steps_of_detectView hview
  exact ⟨_, suppressed, decoded, filtered, scratch, hdecode, hfilter, rfl, hsuppress, hresolve⟩

/-- Suppression returns the number of rows that were kept before and are not kept afterwards; it revives no
row and writes none.  Therefore the candidates in each tensor that a cycle publishes are as many as the rows
that it suppresses and the detections that it publishes together. -/
theorem candidates_add_up (h : d.Reachable) :
    (∀ (s : Scratch) (threshold : Float32) (tie : TieBreak), s.rows.size = s.mask.size →
      ∃ s', s.suppress threshold tie = .ok (s.mask.dropped s'.mask, s') ∧ s'.rows = s.rows ∧
        s'.mask.size = s.mask.size ∧ ∀ i, s'.mask.keeps i = true → s.mask.keeps i = true) ∧
    ∀ {σ F : Type} (w : Surroundings σ F) (s : Scene σ F), ∃ new,
      ((run (Recorded.devices w) d).run s).2.past = s.past ++ new ∧
      ∀ detections, ((run (Recorded.devices w) d).run s).1.1 = .ok (.published detections) →
        ∃ v : View, v.layout = d.layout ∧ .output 0 (.ok v.bytes) ∈ calls new ∧
          ∃ candidates suppressed, d.Passes v candidates suppressed detections ∧
            candidates = suppressed + detections.length := by
  have hfit := h.fitted
  refine ⟨fun s threshold tie hsize => Scratch.suppress_eq_dropped threshold tie hsize, fun w s => ?_⟩
  obtain ⟨new, hext, -, course, hfits, hcalls, hresult, -⟩ := emits_run (w := w) hfit s
  refine ⟨new, hext.past, fun detections hpublished => ?_⟩
  obtain ⟨v, hv, hread, rfl⟩ := Course.output_of_result hfits (hresult.symm.trans hpublished)
  obtain ⟨candidates, suppressed, hpasses⟩ := hfit.passes hv
  exact ⟨v, hv, hcalls ▸ hread, candidates, suppressed, hpasses, hpasses.balance⟩

/-- The scratch space after four rows have been decoded and filtered. -/
def filteredFourRows : Scratch := ⟨Array.ofFn fourRowsView.row, ⟨#[false, false, true, false]⟩⟩

/-- Of three candidates among four rows one is suppressed, and two are published. -/
theorem candidates_add_up_fourRows :
    let found := [fourRowsView.detection ⟨1, by decide⟩, fourRowsView.detection ⟨3, by decide⟩]
    Detector.fourRows.Reachable ∧
    (∃ s', filteredFourRows.suppress 0.25 .later = .ok (filteredFourRows.mask.dropped s'.mask, s') ∧
      filteredFourRows.mask.dropped s'.mask = 1) ∧
    ((run (Recorded.devices (.steady fourRowsView.bytes)) .fourRows).run (.opening 1)).1.1 =
      .ok (.published found) ∧
    Detector.fourRows.Passes fourRowsView 3 1 found ∧ 3 = 1 + found.length := by
  intro found
  obtain ⟨hsuppress, hcycle⟩ := candidates_add_up Detector.reachable_fourRows
  obtain ⟨s', hs', -⟩ := hsuppress filteredFourRows 0.25 .later (by decide +kernel)
  have hone : (filteredFourRows.suppress 0.25 .later).map Prod.fst = .ok 1 := by decide +kernel
  rw [hs', Except.map, Except.ok.injEq] at hone
  have hpublished : ((run (Recorded.devices (.steady fourRowsView.bytes)) .fourRows).run (.opening 1)).1.1 =
      .ok (.published found) := by decide +kernel
  obtain ⟨new, hpast, hbalance⟩ := hcycle (.steady fourRowsView.bytes) (.opening 1)
  obtain ⟨v, hv, hread, candidates, suppressed, hpasses, hcount⟩ := hbalance found hpublished
  have hreading : (0, v.bytes.data) ∈ [(0, fourRowsView.bytes.data)] := by
    rw [← readings_fourRows, hpast, mem_readings]
    exact hread
  obtain ⟨-, hdata⟩ := Prod.mk.inj (List.mem_singleton.1 hreading)
  obtain rfl : v = fourRowsView := View.eq_of_bytes hv (ByteArray.ext hdata)
  have hcandidates : (Detector.fourRows.scratch.decode fourRowsView).bind
      (fun decoded => (decoded.filter 0.5).map fun filtered => filtered.mask.countValid) = .ok 3 := by
    decide +kernel
  obtain ⟨decoded, filtered, after, hdecode, hfilter, hcandidate, -, -⟩ := id hpasses
  have hfiltered : decoded.filter 0.5 = .ok filtered := hfilter
  rw [hdecode, Except.bind, hfiltered, Except.map, hcandidate, Except.ok.injEq] at hcandidates
  obtain rfl : candidates = 3 := hcandidates
  obtain rfl : suppressed = 1 := Nat.add_right_cancel (hcount.symm.trans (rfl : 3 = 1 + 2))
  exact ⟨Detector.reachable_fourRows, ⟨s', hs', hone⟩, hpublished, hpasses, hcount⟩

end FrameDetect.Cycle
