import FrameDetect.Proofs.Cycle.Lockstep
import FrameDetect.Proofs.Cycle.Reachable

/-!
# Detectors are as good as new

A cycle writes its scratch space before it reads it.  So two detectors with the same settings do the same
in the same scene, whatever their scratch space was left with, and a detector with any history does what
a new one would.
-/

namespace FrameDetect.Cycle

open FrameDetect.Detect (Scratch)
open FrameDetect.Tensor (View oneRowView)

variable {d d' : Detector}

namespace Detector

/-- Detectors that both go on from one have the same settings. -/
theorem Continues.between {d₀ : Detector} (h : d₀.Continues d) (h' : d₀.Continues d') :
    d.Continues d' :=
  ⟨h'.layout.trans h.layout.symm, h'.labels.trans h.labels.symm,
    h'.thresholds.trans h.thresholds.symm, h'.tieBreak.trans h.tieBreak.symm, h'.fitted⟩

/-- Other scratch space that fits changes no settings. -/
theorem Fitted.withScratch (h : d.Fitted) {scratch : Scratch}
    (hrows : scratch.rows.size = d.layout.rows) (hmask : scratch.mask.size = d.layout.rows) :
    d.Continues { d with scratch } :=
  ⟨rfl, rfl, rfl, rfl, hrows, hmask, h.quantization, h.overlap⟩

/-- Any bytes are detected alike with the same settings. -/
theorem detect_congr (h : d.Fitted) (h' : d.Continues d') (bytes : ByteArray) :
    (d.detect bytes).1 = (d'.detect bytes).1 ∧
      (d.detect bytes).2.Fitted ∧ (d.detect bytes).2.Continues (d'.detect bytes).2 := by
  rcases Nat.lt_or_ge bytes.size d.layout.tensorSize with short | enough
  · have short' : bytes.size < d'.layout.tensorSize := h'.layout ▸ short
    rw [detect_short short, detect_short short', h'.layout]
    exact ⟨rfl, h, h'⟩
  · let v : View := ⟨d.layout, bytes, enough⟩
    obtain ⟨e, hdetect, hcontinues⟩ := detect_view h (v := v) rfl
    obtain ⟨e', hdetect', hcontinues'⟩ := detect_view h'.fitted (v := v) h'.layout.symm
    change d.detect bytes = _ at hdetect
    change d'.detect bytes = _ at hdetect'
    rw [hdetect, hdetect', h'.thresholds, h'.tieBreak]
    exact ⟨rfl, hcontinues.fitted, hcontinues.between (h'.trans hcontinues')⟩

/-- Detectors with the same settings match. -/
theorem matches_continues : Matches fun d d' => d.Fitted ∧ d.Continues d' where
  labels := fun ⟨_, h'⟩ => h'.labels.symm
  detect := by
    rintro d d' ⟨h, h'⟩ bytes
    obtain ⟨hsame, hfitted, hcontinues⟩ := detect_congr h h' bytes
    exact ⟨hsame, hfitted, hcontinues⟩

/-- In every scene two detectors come to the same outcome and leave the same scene behind: what devices,
log and clocks remember, all calls in order, and the requests. -/
def ActsLike (d d' : Detector) : Prop :=
  ∀ ⦃σ F : Type⦄ (w : Surroundings σ F) (s : Scene σ F),
    ((run (Recorded.devices w) d).run s).1.1 = ((run (Recorded.devices w) d').run s).1.1 ∧
      ((run (Recorded.devices w) d).run s).2 = ((run (Recorded.devices w) d').run s).2

theorem Fitted.actsLike (h : d.Fitted) (h' : d.Continues d') : d.ActsLike d' := by
  intro σ F w s
  obtain ⟨hscene, hresult, -⟩ :=
    (keepStep_self w).inStep_run matches_continues ⟨h, h'⟩ s s rfl
  exact ⟨hresult, hscene⟩

/-- New scratch space for a detector fits. -/
theorem Fitted.renewed (h : d.Fitted) : d.Continues { d with scratch := .ofLayout d.layout } :=
  h.withScratch Array.size_replicate (Detect.Mask.size_clear _)

/-- A detector with any history acts like a new one with its settings, whatever rows and mask its scratch
space holds. -/
theorem cycle_forgets_history (h : d.Reachable) :
    ∃ fresh, Detector.ofSettings d.layout d.labels d.thresholds d.tieBreak = .ok fresh ∧
      d.ActsLike fresh ∧
      ∀ scratch : Scratch, scratch.rows.size = d.layout.rows → scratch.mask.size = d.layout.rows →
        { d with scratch }.ActsLike fresh := by
  have hfit := h.fitted
  refine ⟨{ d with scratch := .ofLayout d.layout }, ofSettings_eq_ok _ _ h.covers,
    hfit.actsLike hfit.renewed, fun scratch hrows hmask => ?_⟩
  have hother := hfit.withScratch hrows hmask
  exact hother.fitted.actsLike (hother.between hfit.renewed)

/-- The detector for tensors of one row after it has published. -/
def usedOneRow : Detector :=
  ((run (Recorded.devices (.steady oneRowView.bytes)) oneRow).run (.opening 1)).1.2

theorem cycle_forgets_history_oneRow :
    usedOneRow.Reachable ∧
      ∃ fresh, Detector.ofSettings usedOneRow.layout usedOneRow.labels usedOneRow.thresholds
          usedOneRow.tieBreak = .ok fresh ∧
        usedOneRow.ActsLike fresh := by
  have hused : usedOneRow.Reachable := .run _ _ reachable_oneRow
  obtain ⟨fresh, hfresh, hacts, -⟩ := cycle_forgets_history hused
  exact ⟨hused, fresh, hfresh, hacts⟩

end Detector

end FrameDetect.Cycle
