import FrameDetect.Inference.Replay
import FrameDetect.Machine
import FrameDetect.Publish.Picture
import FrameDetect.Video.Synthetic
import FrameDetect.Proofs.Url.Settings

/-!
# Devices that URLs describe

Synthetic frames, pictures and replayed tensors are set up by one convention, though each has a fold of its own: what is
not known is passed over, the first bad value is the fault, and of good values the last of each name counts.  A picture
of good values may still be too large for a block of memory.  A replay looks at its settings before it looks for its
file.
-/

namespace FrameDetect.Url

open FrameDetect.Inference
open FrameDetect.Number (Range)
open FrameDetect.Publish
open FrameDetect.Text
open FrameDetect.Video

variable {σ α : Type}

/-! ## Numbers -/

/-- A setting that is a number is read just if it is one. -/
theorem numberSetting_answers {range : Range} (hleast : range.least = 0) (hgreatest : 0 ≤ range.greatest)
    (name value : String) (word : ℤ → α) :
    (ValueKind.number range).Answers name value (numberSetting name ((readInteger range value.toList).map word)) := by
  cases hread : readInteger range value.toList with
  | error fault =>
    refine .blamed fault.message ?_ ⟨fault, hread, rfl⟩
    rintro ⟨n, hn, hcontains⟩
    rw [(readInteger_natural_eq_ok_iff hleast hgreatest).2 ⟨⟨n, hn, rfl⟩, hcontains⟩] at hread
    cases hread
  | ok n =>
    obtain ⟨⟨m, hm, rfl⟩, hcontains⟩ := (readInteger_natural_eq_ok_iff hleast hgreatest).1 hread
    exact .accepted (word m) ⟨m, hm, hcontains⟩

theorem readUInt32_answers (name value : String) :
    (ValueKind.number unsigned32).Answers name value (numberSetting name (readUInt32 value)) :=
  numberSetting_answers rfl (by decide) name value _

theorem readUInt64_answers (name value : String) :
    (ValueKind.number unsigned64).Answers name value (numberSetting name (readUInt64 value)) :=
  numberSetting_answers rfl (by decide) name value _

/-- A change that a number brings about. -/
theorem exists_of_numberSetting {name : String} {read : Except IntegerFault α} {f : α → Option σ} {s s' : σ}
    (h : ((numberSetting name read).map f).map (·.getD s) = .ok s') : ∃ k, read = .ok k ∧ s' = (f k).getD s := by
  cases read with
  | error fault => cases h
  | ok k =>
    cases h
    exact ⟨k, rfl, rfl⟩

/-- A value that is the numeral of a word. -/
def Holds {ω : Type} (number : ω → ℕ) (value : String) (n : ω) : Prop := UnsignedNumeral value.toList (number n)

/-- A value that is given, where there need not be one. -/
def Given {β : Type} (Denotes : String → β → Prop) (value : String) (given : Option β) : Prop :=
  ∃ b, given = some b ∧ Denotes value b

theorem holds_unique {ω : Type} {number : ω → ℕ} (hinj : ∀ {a b}, number a = number b → a = b) (value : String)
    (n k : ω) (hn : Holds number value n) (hk : Holds number value k) : n = k :=
  hinj (UnsignedNumeral.unique hn hk)

theorem given_unique {β : Type} {Denotes : String → β → Prop}
    (hunique : ∀ value b b', Denotes value b → Denotes value b' → b = b') (value : String) (given given' : Option β)
    (h : Given Denotes value given) (h' : Given Denotes value given') : given = given' := by
  obtain ⟨b, rfl, hb⟩ := h
  obtain ⟨b', rfl, hb'⟩ := h'
  rw [hunique value b b' hb hb']

/-! ## Synthetic frames -/

/-- The pixel formats by their names. -/
def formats : List (String × PixelFormat) := [("nv12", .nv12), ("yuv", .nv12), ("rgb", .rgb)]

/-- What synthetic frames ask for. -/
def syntheticKind? : String → Option ValueKind
  | "width" => some (.number unsigned32)
  | "height" => some (.number unsigned32)
  | "frames" => some (.number unsigned64)
  | "format" => some (.word (formats.map Prod.fst))
  | _ => none

section Synthetic

variable {name value : String} {format : PixelFormat} {s s' : SyntheticSettings} {pair : String × String}

theorem ofName?_eq_some_iff : PixelFormat.ofName? value = some format ↔ (value, format) ∈ formats := by
  unfold PixelFormat.ofName? formats
  split
  · simp [eq_comm]
  · simp [eq_comm]
  · simp [eq_comm]
  · simp_all

theorem ofName?_answers (name value : String) (f : PixelFormat → σ) :
    (ValueKind.word (formats.map Prod.fst)).Answers name value
      (match PixelFormat.ofName? value with
        | some format => .ok (f format)
        | none => .error ⟨name, value⟩) := by
  cases hformat : PixelFormat.ofName? value with
  | some format =>
    have hmem := List.mem_map_of_mem (f := Prod.fst) (ofName?_eq_some_iff.1 hformat)
    exact .accepted (f format) hmem
  | none =>
    refine .blamed value ?_ rfl
    intro hmem
    obtain ⟨⟨_, format⟩, hpair, rfl⟩ := List.mem_map.1 hmem
    rw [ofName?_eq_some_iff.2 hpair] at hformat
    cases hformat

theorem synthetic_obeys : Obeys SyntheticSettings.apply syntheticKind? where
  ignores := by
    intro s name value h
    unfold syntheticKind? at h
    split at h
    all_goals try contradiction
    simp [applied, SyntheticSettings.apply, *, Except.map]
  answers := by
    intro s name value kind h
    unfold syntheticKind? at h
    split at h
    all_goals cases h
    · exact ((readUInt32_answers "width" value).map _).map _
    · exact ((readUInt32_answers "height" value).map _).map _
    · exact ((readUInt64_answers "frames" value).map _).map _
    · exact (ofName?_answers "format" value _).map _

/-- What one setting of synthetic frames changes and what it leaves alone. -/
structure SyntheticStep (s s' : SyntheticSettings) (pair : String × String) : Prop where
  width : if pair.1 = "width" then Holds UInt32.toNat pair.2 s'.width else s'.width = s.width
  height : if pair.1 = "height" then Holds UInt32.toNat pair.2 s'.height else s'.height = s.height
  limit : if pair.1 = "frames" then Given (Holds UInt64.toNat) pair.2 s'.limit else s'.limit = s.limit
  format : if pair.1 = "format" then (pair.2, s'.format) ∈ formats else s'.format = s.format

theorem synthetic_step (h : applied SyntheticSettings.apply s pair = .ok s') : SyntheticStep s s' pair := by
  obtain ⟨name, value⟩ := pair
  unfold applied SyntheticSettings.apply at h
  dsimp only at h
  split at h
  · obtain ⟨n, hn, rfl⟩ := exists_of_numberSetting h
    constructor <;> simp [Holds, readUInt32_eq_ok_iff.1 hn]
  · obtain ⟨n, hn, rfl⟩ := exists_of_numberSetting h
    constructor <;> simp [Holds, readUInt32_eq_ok_iff.1 hn]
  · obtain ⟨n, hn, rfl⟩ := exists_of_numberSetting h
    constructor <;> simp [Given, Holds, readUInt64_eq_ok_iff.1 hn]
  · cases hformat : PixelFormat.ofName? value with
    | none =>
      rw [hformat] at h
      cases h
    | some format =>
      rw [hformat] at h
      cases h
      constructor <;> simp [ofName?_eq_some_iff.1 hformat]
  · next hwidth hheight hframes hformat =>
    obtain rfl : s = s' := Except.ok.inj h
    exact ⟨by rw [if_neg hwidth], by rw [if_neg hheight], by rw [if_neg hframes], by rw [if_neg hformat]⟩

theorem synthetic_width : Governs SyntheticSettings.apply "width" SyntheticSettings.width (Holds UInt32.toNat) :=
  fun _ _ _ h => (synthetic_step h).width

theorem synthetic_height : Governs SyntheticSettings.apply "height" SyntheticSettings.height (Holds UInt32.toNat) :=
  fun _ _ _ h => (synthetic_step h).height

theorem synthetic_limit :
    Governs SyntheticSettings.apply "frames" SyntheticSettings.limit (Given (Holds UInt64.toNat)) :=
  fun _ _ _ h => (synthetic_step h).limit

theorem synthetic_format :
    Governs SyntheticSettings.apply "format" SyntheticSettings.format (fun value format => (value, format) ∈ formats) :=
  fun _ _ _ h => (synthetic_step h).format

theorem format_unique (value : String) (format format' : PixelFormat) (h : (value, format) ∈ formats)
    (h' : (value, format') ∈ formats) : format = format' := by
  rw [← ofName?_eq_some_iff] at h h'
  exact Option.some.inj (h.symm.trans h')

theorem synthetic_convention :
    Convention syntheticKind? (fun pairs => pairs.foldlM (applied SyntheticSettings.apply) .default) := by
  refine synthetic_obeys.convention ?_
  intro pairs pairs' t t' ht ht' hlatest
  have hwidth := synthetic_width.determined (holds_unique UInt32.toNat_inj.1) ht ht' (hlatest _ rfl)
  have hheight := synthetic_height.determined (holds_unique UInt32.toNat_inj.1) ht ht' (hlatest _ rfl)
  have hlimit := synthetic_limit.determined (given_unique (holds_unique UInt64.toNat_inj.1)) ht ht' (hlatest _ rfl)
  have hformat := synthetic_format.determined format_unique ht ht' (hlatest _ rfl)
  obtain ⟨width, height, format, limit⟩ := t
  obtain ⟨width', height', format', limit'⟩ := t'
  dsimp only at hwidth hheight hlimit hformat
  rw [hwidth, hheight, hlimit, hformat]

theorem synthetic_ofUrl (url : Url) (machine : Machine) (h : url.scheme = syntheticScheme) :
    ((Synthetic.ofUrl url : StateM Machine _) machine).1 =
      ((url.settings.foldlM (applied SyntheticSettings.apply) .default).map Synthetic.ofSettings).mapError .setting := by
  obtain ⟨machine', hrun⟩ := applySettings_run SyntheticSettings.apply
    (fun name value => logWarn s!"忽略未知参数: {name}={value}") .default url.settings machine
  unfold Synthetic.ofUrl
  rw [if_neg (not_not.2 h)]
  dsimp only
  rw [bind_eq_of_eq hrun]
  cases url.settings.foldlM (applied SyntheticSettings.apply) .default <;> rfl

end Synthetic

/-! ## Pictures -/

/-- What pictures ask for. -/
def pictureKind? : String → Option ValueKind
  | "width" => some (.number unsigned32)
  | "height" => some (.number unsigned32)
  | _ => none

section Picture

variable {s s' : PictureSize} {pair : String × String}

theorem picture_obeys : Obeys PictureSize.apply pictureKind? where
  ignores := by
    intro s name value h
    unfold pictureKind? at h
    split at h
    all_goals try contradiction
    simp [applied, PictureSize.apply, *, Except.map]
  answers := by
    intro s name value kind h
    unfold pictureKind? at h
    split at h
    all_goals cases h
    · exact ((readUInt32_answers "width" value).map _).map _
    · exact ((readUInt32_answers "height" value).map _).map _

/-- What one setting of a picture changes and what it leaves alone, though its value is read under any name. -/
structure PictureStep (s s' : PictureSize) (pair : String × String) : Prop where
  width : if pair.1 = "width" then Holds UInt32.toNat pair.2 s'.width else s'.width = s.width
  height : if pair.1 = "height" then Holds UInt32.toNat pair.2 s'.height else s'.height = s.height

theorem picture_step (h : applied PictureSize.apply s pair = .ok s') : PictureStep s s' pair := by
  obtain ⟨name, value⟩ := pair
  unfold applied PictureSize.apply at h
  dsimp only at h
  split at h
  · obtain ⟨n, hn, rfl⟩ := exists_of_numberSetting h
    constructor <;> simp [Holds, readUInt32_eq_ok_iff.1 hn]
  · obtain ⟨n, hn, rfl⟩ := exists_of_numberSetting h
    constructor <;> simp [Holds, readUInt32_eq_ok_iff.1 hn]
  · next hwidth hheight =>
    obtain rfl : s = s' := Except.ok.inj h
    exact ⟨by rw [if_neg hwidth], by rw [if_neg hheight]⟩

theorem picture_width : Governs PictureSize.apply "width" PictureSize.width (Holds UInt32.toNat) :=
  fun _ _ _ h => (picture_step h).width

theorem picture_height : Governs PictureSize.apply "height" PictureSize.height (Holds UInt32.toNat) :=
  fun _ _ _ h => (picture_step h).height

theorem picture_convention :
    Convention pictureKind? (fun pairs => pairs.foldlM (applied PictureSize.apply) .default) := by
  refine picture_obeys.convention ?_
  intro pairs pairs' t t' ht ht' hlatest
  have hwidth := picture_width.determined (holds_unique UInt32.toNat_inj.1) ht ht' (hlatest _ rfl)
  have hheight := picture_height.determined (holds_unique UInt32.toNat_inj.1) ht ht' (hlatest _ rfl)
  obtain ⟨width, height⟩ := t
  obtain ⟨width', height'⟩ := t'
  dsimp only at hwidth hheight
  rw [hwidth, hheight]

theorem picture_ofUrl (url : Url) (machine : Machine) (h : url.scheme = pictureScheme) :
    ((Picture.ofUrl url : StateM Machine _) machine).1 =
      ((url.settings.foldlM (applied PictureSize.apply) .default).mapError .setting).bind
        fun size => (Picture.ofSize url.path size.width size.height).mapError .overflow := by
  obtain ⟨machine', hrun⟩ := applySettings_run PictureSize.apply
    (fun name value => logWarn s!"忽略未知参数: {name}={value}") .default url.settings machine
  unfold Picture.ofUrl
  rw [if_neg (not_not.2 h), bind_eq_of_eq hrun]
  cases url.settings.foldlM (applied PictureSize.apply) .default <;> rfl

theorem picture_ofUrl_of_error {url : Url} {fault : SettingFault} (machine : Machine) (h : url.scheme = pictureScheme)
    (hfault : url.settings.foldlM (applied PictureSize.apply) .default = .error fault) :
    ((Picture.ofUrl url : StateM Machine _) machine).1 = .error (.setting fault) := by
  rw [picture_ofUrl url machine h, hfault]
  rfl

/-- The settings are good, but the canvas must fit a block of memory, too. -/
theorem picture_ofUrl_of_ok {url : Url} {size : PictureSize} (machine : Machine) (h : url.scheme = pictureScheme)
    (hsize : url.settings.foldlM (applied PictureSize.apply) .default = .ok size) :
    ((Picture.ofUrl url : StateM Machine _) machine).1 =
      if Picture.bytes size.width size.height ≤ greatestBlock then .ok (.blank url.path size.width size.height)
      else .error (.overflow (if 2 ^ 64 ≤ Picture.bytes size.width size.height then .picture else .capacity)) := by
  rw [picture_ofUrl url machine h, hsize]
  show (Picture.ofSize url.path size.width size.height).mapError PictureFault.overflow = _
  rw [Picture.ofSize_eq]
  split <;> rfl

end Picture

/-! ## Replayed tensors -/

/-- What replays ask for. -/
def replayKind? : String → Option ValueKind
  | "fail_every" => some (.number unsigned64)
  | _ => none

section Replay

theorem replay_obeys : Obeys Replay.applySetting replayKind? where
  ignores := by
    intro s name value h
    unfold replayKind? at h
    split at h
    · contradiction
    · simp [applied, Replay.applySetting, *, Except.map]
  answers := by
    intro s name value kind h
    unfold replayKind? at h
    split at h
    all_goals cases h
    exact ((readUInt64_answers "fail_every" value).map _).map _

theorem replay_failEvery : Governs Replay.applySetting "fail_every" id (Given (Holds UInt64.toNat)) := by
  intro s s' pair h
  obtain ⟨name, value⟩ := pair
  unfold applied Replay.applySetting at h
  dsimp only at h
  split at h
  · obtain ⟨n, hn, rfl⟩ := exists_of_numberSetting h
    simp [Given, Holds, readUInt64_eq_ok_iff.1 hn]
  · next hfailEvery =>
    obtain rfl : s = s' := Except.ok.inj h
    rw [if_neg hfailEvery]

theorem replay_convention : Convention replayKind? (fun pairs => pairs.foldlM (applied Replay.applySetting) none) := by
  refine replay_obeys.convention ?_
  intro pairs pairs' t t' ht ht' hlatest
  exact replay_failEvery.determined (given_unique (holds_unique UInt64.toNat_inj.1)) ht ht' (hlatest _ rfl)

/-- A replay with a bad setting is refused, and nothing is read. -/
theorem replay_ofUrl_of_error {url : Url} {fault : SettingFault} (machine : Machine) (h : url.scheme = replayScheme)
    (hfault : url.settings.foldlM (applied Replay.applySetting) none = .error fault) :
    (Replay.ofUrl url : StateM Machine _) machine = (.error (.setting fault), machine) := by
  unfold Replay.ofUrl
  rw [if_neg (not_not.2 h), bind_eq_of_eq (applySettings_silent machine), hfault]
  rfl

theorem replay_ofUrl_of_ok {url : Url} {setting : Option UInt64} (machine : Machine) (h : url.scheme = replayScheme)
    (hsetting : url.settings.foldlM (applied Replay.applySetting) none = .ok setting) :
    ((Replay.ofUrl url : StateM Machine _) machine).1 =
      ((machine.files.read url.path).map fun tensor => Replay.ofTensor tensor setting).mapError .storage := by
  let lines := machine.lines.push (.info, s!"加载张量文件: {url.path}")
  have hlog : (logInfo s!"加载张量文件: {url.path}" : StateM Machine Unit) machine = ((), { machine with lines }) := rfl
  have hread : (readBytes url.path : StateM Machine _) { machine with lines } =
      (machine.files.read url.path, { machine with lines }) := rfl
  unfold Replay.ofUrl
  rw [if_neg (not_not.2 h), bind_eq_of_eq (applySettings_silent machine), hsetting]
  dsimp only
  rw [bind_eq_of_eq hlog, bind_eq_of_eq hread]
  cases machine.files.read url.path <;> rfl

/-- Zero and no number are alike: no run fails.  Under another number every multiple of it fails. -/
theorem infer_ofTensor (tensor : ByteArray) (setting : Option UInt64) {runs run : UInt64}
    (h : addChecked runs 1 = .ok run) :
    ∃ result next, ({ Replay.ofTensor tensor setting with runs }).infer = .ok (result, next) ∧
      (result = .ok () ↔ ∀ n, setting = some n → n = 0 ∨ run % n ≠ 0) := by
  unfold Replay.infer
  rw [show ({ Replay.ofTensor tensor setting with runs } : Replay).runs = runs from rfl, h]
  refine ⟨_, _, rfl, ?_⟩
  cases setting with
  | none => simp [Replay.ofTensor]
  | some n =>
    by_cases hn : n = 0
    · simp [Replay.ofTensor, Option.filter, hn]
    · have hpos : 0 < n := UInt64.pos_iff_ne_zero.2 hn
      simp [Replay.ofTensor, Option.filter, hpos, hn]

end Replay

/-! ## Devices -/

/-- Synthetic frames, pictures and replays follow one convention for the settings of their URLs.  What is set is what
the last setting of each name says, or else the default.  A picture that is too large for a block of memory breaks the
program off.  A replay with a bad setting is refused before anything is read, and one that is to fail every zero runs
does not fail. -/
theorem url_settings_are_folded :
    (∃ outcome : List (String × String) → Except SettingFault SyntheticSettings,
      Convention syntheticKind? outcome ∧
      (∀ pairs s, outcome pairs = .ok s →
        Settles (Holds UInt32.toNat) 640 (latest? "width" pairs) s.width ∧
        Settles (Holds UInt32.toNat) 640 (latest? "height" pairs) s.height ∧
        Settles (fun value format => (value, format) ∈ formats) .nv12 (latest? "format" pairs) s.format ∧
        Settles (Given (Holds UInt64.toNat)) none (latest? "frames" pairs) s.limit) ∧
      ∀ url machine, url.scheme = syntheticScheme →
        ((Synthetic.ofUrl url : StateM Machine _) machine).1 =
          ((outcome url.settings).map Synthetic.ofSettings).mapError .setting) ∧
    (∃ outcome : List (String × String) → Except SettingFault PictureSize,
      Convention pictureKind? outcome ∧
      (∀ pairs size, outcome pairs = .ok size →
        Settles (Holds UInt32.toNat) 640 (latest? "width" pairs) size.width ∧
        Settles (Holds UInt32.toNat) 640 (latest? "height" pairs) size.height) ∧
      ∀ url machine, url.scheme = pictureScheme →
        (∀ fault, outcome url.settings = .error fault →
          ((Picture.ofUrl url : StateM Machine _) machine).1 = .error (.setting fault)) ∧
        ∀ size, outcome url.settings = .ok size →
          ((Picture.ofUrl url : StateM Machine _) machine).1 =
            if Picture.bytes size.width size.height ≤ greatestBlock then .ok (.blank url.path size.width size.height)
            else .error (.overflow (if 2 ^ 64 ≤ Picture.bytes size.width size.height then .picture else .capacity))) ∧
    (∃ outcome : List (String × String) → Except SettingFault (Option UInt64),
      Convention replayKind? outcome ∧
      (∀ pairs setting, outcome pairs = .ok setting →
        Settles (Given (Holds UInt64.toNat)) none (latest? "fail_every" pairs) setting) ∧
      ∀ url machine, url.scheme = replayScheme →
        (∀ fault, outcome url.settings = .error fault →
          (Replay.ofUrl url : StateM Machine _) machine = (.error (.setting fault), machine)) ∧
        ∀ setting, outcome url.settings = .ok setting →
          ((Replay.ofUrl url : StateM Machine _) machine).1 =
            ((machine.files.read url.path).map fun tensor => Replay.ofTensor tensor setting).mapError .storage ∧
          ∀ tensor runs run, addChecked runs 1 = .ok run →
            ∃ result next, ({ Replay.ofTensor tensor setting with runs }).infer = .ok (result, next) ∧
              (result = .ok () ↔ ∀ n, setting = some n → n = 0 ∨ run % n ≠ 0)) := by
  refine ⟨⟨_, synthetic_convention, ?_, synthetic_ofUrl⟩, ⟨_, picture_convention, ?_, ?_⟩,
    ⟨_, replay_convention, ?_, ?_⟩⟩
  · intro pairs s hs
    exact ⟨synthetic_width.settles hs, synthetic_height.settles hs, synthetic_format.settles hs,
      synthetic_limit.settles hs⟩
  · intro pairs size hsize
    exact ⟨picture_width.settles hsize, picture_height.settles hsize⟩
  · intro url machine hscheme
    exact ⟨fun fault => picture_ofUrl_of_error machine hscheme, fun size => picture_ofUrl_of_ok machine hscheme⟩
  · intro pairs setting hsetting
    exact replay_failEvery.settles hsetting
  · intro url machine hscheme
    constructor
    · intro fault hfault
      exact replay_ofUrl_of_error machine hscheme hfault
    · intro setting hsetting
      exact ⟨replay_ofUrl_of_ok machine hscheme hsetting, fun tensor runs run => infer_ofTensor tensor setting⟩

/-- All settings of this URL are good, but no word can count the bytes of its picture. -/
theorem large_pictures_break_off :
    let url : Url := ⟨"overlay", some "", "/a.png", some "width=4294967295&height=4294967295", none⟩
    (∀ pair ∈ url.settings, Fine pictureKind? pair) ∧
      ∀ machine, ((Picture.ofUrl url : StateM Machine _) machine).1 = .error (.overflow .picture) := by
  intro url
  have hsize : url.settings.foldlM (applied PictureSize.apply) .default = .ok ⟨4294967295, 4294967295⟩ := by
    decide +kernel
  refine ⟨picture_obeys.foldlM_eq_ok_iff.1 ⟨_, hsize⟩, fun machine => ?_⟩
  rw [picture_ofUrl_of_ok machine rfl hsize]
  rfl

end FrameDetect.Url
