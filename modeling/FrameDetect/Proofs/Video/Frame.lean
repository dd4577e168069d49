import FrameDetect.Proofs.Basic
import FrameDetect.Video.Frame
import Mathlib.Algebra.Group.Nat.Defs

/-!
# The length of a frame

The length that a frame needs is computed in words of 64 bits.  The number of pixels always fits such a word, but
three bytes for each of them may not, and then there is no length, although half of them might fit.  Where there is a
length it is exact, and a frame has it from the start and keeps it when its bytes are written.
-/

namespace FrameDetect.Video

/-! ## Lengths -/

/-- What a format keeps of three bytes for each pixel. -/
def PixelFormat.share : PixelFormat → Nat → Nat
  | .nv12, bytes => bytes / 2
  | .rgb, bytes => bytes

/-- The bytes of a frame at three for each pixel. -/
def fullLength (width height : UInt32) : Nat := 3 * width.toNat * height.toNat

/-- The bytes of a frame by its format, however large it is. -/
def PixelFormat.exactLength (format : PixelFormat) (width height : UInt32) : Nat :=
  format.share (fullLength width height)

variable {format : PixelFormat} {width height : UInt32}

/-- The pixels of a frame can be counted in a word. -/
theorem exists_pixels (width height : UInt32) :
    ∃ pixels, mulChecked width.toUInt64 height.toUInt64 = .ok pixels ∧ 3 * pixels.toNat = fullLength width height := by
  have hwidth : width.toNat ≤ 2 ^ 32 - 1 := Nat.le_sub_one_of_lt width.toNat_lt
  have hheight : height.toNat ≤ 2 ^ 32 - 1 := Nat.le_sub_one_of_lt height.toNat_lt
  have hpixels : width.toNat * height.toNat ≤ (2 ^ 32 - 1) * (2 ^ 32 - 1) := Nat.mul_le_mul hwidth hheight
  have hcount : (UInt64.ofNat (width.toNat * height.toNat)).toNat = width.toNat * height.toNat :=
    UInt64.toNat_ofNat_of_lt' (Nat.lt_of_le_of_lt hpixels (by decide))
  refine ⟨.ofNat (width.toNat * height.toNat), ?_, ?_⟩
  · rw [mulChecked_eq_ok_iff, hcount, UInt32.toNat_toUInt64, UInt32.toNat_toUInt64]
  · rw [hcount, fullLength, Nat.mul_assoc]

/-- There is a length just if a word can hold three bytes for each pixel, before a format takes its share. -/
theorem frameLength_eq_ok_iff {length : UInt64} :
    format.frameLength width height = .ok length ↔
      fullLength width height < 2 ^ 64 ∧ length.toNat = format.exactLength width height := by
  obtain ⟨pixels, hpixels, hfull⟩ := exists_pixels width height
  rw [PixelFormat.exactLength, ← hfull, Nat.mul_comm, PixelFormat.frameLength, hpixels, ok_bind]
  cases hbytes : mulChecked pixels 3 with
  | error cause =>
    have hlarge : 2 ^ 64 ≤ pixels.toNat * 3 := (mulChecked_eq_error_iff.1 hbytes).1
    have hnone : ¬ pixels.toNat * 3 < 2 ^ 64 := Nat.not_lt_of_le hlarge
    cases format with
    | nv12 => exact iff_of_false nofun fun h => hnone h.1
    | rgb => exact iff_of_false nofun fun h => hnone h.1
  | ok bytes =>
    have heq : bytes.toNat = pixels.toNat * 3 := mulChecked_eq_ok_iff.1 hbytes
    rw [← heq, and_iff_right bytes.toNat_lt]
    cases format with
    | nv12 =>
      have hhalf : (bytes / 2).toNat = bytes.toNat / 2 := UInt64.toNat_div ..
      rw [PixelFormat.share, ← hhalf, UInt64.toNat_inj]
      exact (Except.ok.injEq ..).to_iff.trans eq_comm
    | rgb =>
      rw [PixelFormat.share, UInt64.toNat_inj]
      simp only [Except.ok.injEq, eq_comm]

theorem frameLength_eq_error_iff {cause : Overflow} :
    format.frameLength width height = .error cause ↔ 2 ^ 64 ≤ fullLength width height ∧ cause = .product := by
  obtain ⟨pixels, hpixels, hfull⟩ := exists_pixels width height
  rw [← hfull, Nat.mul_comm, ← show (3 : UInt64).toNat = 3 from rfl, ← mulChecked_eq_error_iff,
    PixelFormat.frameLength, hpixels, ok_bind]
  cases format with
  | nv12 =>
    cases hbytes : mulChecked pixels 3 with
    | error => rfl
    | ok => exact iff_of_false nofun nofun
  | rgb => rfl

/-! ## Frames and their data -/

namespace Frame

variable {frame written : Frame} {data : ByteArray} {sequence : UInt64}

theorem ofData_eq_ok_iff :
    ofData sequence width height format data = .ok frame ↔
      (fullLength width height < 2 ^ 64 ∧ data.size = format.exactLength width height) ∧
        frame = ⟨sequence, width, height, format, data⟩ := by
  unfold ofData
  cases hlength : format.frameLength width height with
  | error cause =>
    have hlarge : 2 ^ 64 ≤ fullLength width height := (frameLength_eq_error_iff.1 hlength).1
    exact iff_of_false nofun fun h => Nat.not_lt_of_le hlarge h.1.1
  | ok length =>
    obtain ⟨hfits, hexact⟩ := frameLength_eq_ok_iff.1 hlength
    rw [and_iff_right hfits, ← hexact]
    simp only [Except.mapError, ok_bind]
    split
    next hsize => rw [Except.ok.injEq, and_iff_right hsize, eq_comm]
    next hsize => exact iff_of_false nofun fun h => hsize h.1

/-- Data makes no frame if it has another length than the frame, or if the frame has none. -/
theorem ofData_eq_error_iff {fault : FrameFault} :
    ofData sequence width height format data = .error fault ↔
      if fullLength width height < 2 ^ 64 then
        data.size ≠ format.exactLength width height ∧
          fault = .lengthMismatch (format.exactLength width height) data.size
      else fault = .overflow .product := by
  unfold ofData
  cases hlength : format.frameLength width height with
  | error cause =>
    obtain ⟨hlarge, rfl⟩ := frameLength_eq_error_iff.1 hlength
    rw [if_neg (Nat.not_lt_of_le hlarge)]
    exact (Except.error.injEq ..).to_iff.trans eq_comm
  | ok length =>
    obtain ⟨hfits, hexact⟩ := frameLength_eq_ok_iff.1 hlength
    rw [if_pos hfits, ← hexact]
    simp only [Except.mapError, ok_bind]
    split
    next hsize => exact iff_of_false nofun fun h => h.1 hsize
    next hsize => rw [Except.error.injEq, and_iff_right hsize, eq_comm]

/-- A frame of zeros of the length of its format. -/
def zeroed (sequence : UInt64) (width height : UInt32) (format : PixelFormat) : Frame :=
  ⟨sequence, width, height, format, ⟨Array.replicate (format.exactLength width height) 0⟩⟩

theorem blank_eq_ok_iff :
    blank sequence width height format = .ok frame ↔
      (fullLength width height < 2 ^ 64 ∧ format.exactLength width height ≤ greatestBlock) ∧
        frame = zeroed sequence width height format := by
  unfold blank
  cases hlength : format.frameLength width height with
  | error cause =>
    have hlarge : 2 ^ 64 ≤ fullLength width height := (frameLength_eq_error_iff.1 hlength).1
    exact iff_of_false nofun fun h => Nat.not_lt_of_le hlarge h.1.1
  | ok length =>
    obtain ⟨hfits, hexact⟩ := frameLength_eq_ok_iff.1 hlength
    rw [and_iff_right hfits, zeroed, ← hexact, ok_bind]
    cases hzeros : zeros length with
    | error cause =>
      have hlarge : greatestBlock < length.toNat := (zeros_eq_error_iff.1 hzeros).1
      exact iff_of_false nofun fun h => Nat.not_le_of_lt hlarge h.1
    | ok bytes =>
      obtain ⟨hblock, rfl⟩ := zeros_eq_ok_iff.1 hzeros
      rw [and_iff_right hblock]
      exact (Except.ok.injEq ..).to_iff.trans eq_comm

/-- There is no frame of zeros if it has no length, or if no block of memory is as long. -/
theorem blank_eq_error_iff {cause : Overflow} :
    blank sequence width height format = .error cause ↔
      if fullLength width height < 2 ^ 64 then
        greatestBlock < format.exactLength width height ∧ cause = .capacity
      else cause = .product := by
  unfold blank
  cases hlength : format.frameLength width height with
  | error cause =>
    obtain ⟨hlarge, rfl⟩ := frameLength_eq_error_iff.1 hlength
    rw [if_neg (Nat.not_lt_of_le hlarge)]
    exact (Except.error.injEq ..).to_iff.trans eq_comm
  | ok length =>
    obtain ⟨hfits, hexact⟩ := frameLength_eq_ok_iff.1 hlength
    rw [if_pos hfits, ← hexact, ← zeros_eq_error_iff, ok_bind]
    cases hzeros : zeros length with
    | error => simp only [error_bind, Except.error.injEq]
    | ok => exact iff_of_false nofun nofun

/-- A frame of given size and format, over given data or of zeros. -/
inductive Built (sequence : UInt64) (width height : UInt32) (format : PixelFormat) : Frame → Prop
  | ofData {data : ByteArray} {frame : Frame} :
      ofData sequence width height format data = .ok frame → Built sequence width height format frame
  | blank {frame : Frame} :
      blank sequence width height format = .ok frame → Built sequence width height format frame

theorem Built.size_eq (h : Built sequence width height format frame) :
    frame.data.size = format.exactLength width height := by
  cases h with
  | ofData hdata =>
    obtain ⟨⟨-, hsize⟩, rfl⟩ := ofData_eq_ok_iff.1 hdata
    exact hsize
  | blank hblank =>
    obtain ⟨-, rfl⟩ := blank_eq_ok_iff.1 hblank
    exact Array.size_replicate

/-! ## Writing -/

/-- Changes bytes one after the other. -/
def writeAll? (frame : Frame) (writes : List (Nat × UInt8)) : Option Frame :=
  writes.foldlM (fun frame (position, value) => frame.write? position value) frame

/-- A frame is written with other bytes, as many as before. -/
structure Rewritten (frame written : Frame) : Prop where
  size : written.data.size = frame.data.size
  others : written = { frame with data := written.data }

theorem Rewritten.refl (frame : Frame) : Rewritten frame frame := ⟨rfl, rfl⟩

theorem Rewritten.trans {next : Frame} (h : Rewritten frame next) (h' : Rewritten next written) :
    Rewritten frame written := by
  refine ⟨h'.size.trans h.size, ?_⟩
  rw [h'.others, h.others]

/-- One byte can be written just if it is one of the frame. -/
theorem exists_write?_iff (frame : Frame) (position : Nat) (value : UInt8) :
    (∃ written, frame.write? position value = some written) ↔ position < frame.data.size := by
  unfold write?
  split
  next h => simp [h]
  next h => simp [h]

theorem rewritten_of_write? {position : Nat} {value : UInt8}
    (h : frame.write? position value = some written) : Rewritten frame written := by
  unfold write? at h
  split at h
  next hposition =>
    cases h
    exact ⟨Array.size_set .., rfl⟩
  next => cases h

/-- Bytes can be written one after the other just if all of them are bytes of the frame. -/
theorem exists_writeAll?_iff (frame : Frame) (writes : List (Nat × UInt8)) :
    (∃ written, frame.writeAll? writes = some written) ↔ ∀ write ∈ writes, write.1 < frame.data.size := by
  induction writes generalizing frame with
  | nil => simp [writeAll?]
  | cons write rest ih =>
    obtain ⟨position, value⟩ := write
    rw [List.forall_mem_cons, ← exists_write?_iff frame position value]
    simp only [writeAll?, List.foldlM_cons, Option.bind_eq_bind] at ih ⊢
    cases hwrite : frame.write? position value with
    | none => simp
    | some next =>
      rw [Option.bind_some, ih next, (rewritten_of_write? hwrite).size]
      simp

theorem rewritten_of_writeAll? {writes : List (Nat × UInt8)}
    (h : frame.writeAll? writes = some written) : Rewritten frame written := by
  induction writes generalizing frame with
  | nil =>
    cases h
    exact .refl _
  | cons write rest ih =>
    obtain ⟨next, hnext, hrest⟩ := Option.bind_eq_some_iff.1 h
    exact (rewritten_of_write? hnext).trans (ih hrest)

end Frame

/-- A frame has a length just if a word can hold three bytes for each pixel, and this length is that of its format.  It
takes data of this length and no other data, and it has this length as long as it is written. -/
theorem frames_have_exact_length (format : PixelFormat) (width height : UInt32) :
    let fits := fullLength width height < 2 ^ 64
    let exact := format.exactLength width height
    (∀ length, format.frameLength width height = .ok length ↔ fits ∧ length.toNat = exact) ∧
    (∀ cause, format.frameLength width height = .error cause ↔ ¬ fits ∧ cause = .product) ∧
    ∀ sequence : UInt64,
      (∀ data : ByteArray,
        ((∃ frame, Frame.ofData sequence width height format data = .ok frame) ↔ fits ∧ data.size = exact) ∧
        ∀ fault, Frame.ofData sequence width height format data = .error fault ↔
          if fits then data.size ≠ exact ∧ fault = .lengthMismatch exact data.size
          else fault = .overflow .product) ∧
      ((∃ frame, Frame.blank sequence width height format = .ok frame) ↔ fits ∧ exact ≤ greatestBlock) ∧
      (∀ cause, Frame.blank sequence width height format = .error cause ↔
        if fits then greatestBlock < exact ∧ cause = .capacity else cause = .product) ∧
      ∀ frame, Frame.Built sequence width height format frame →
        ∀ writes : List (Nat × UInt8),
          ((∃ written, frame.writeAll? writes = some written) ↔ ∀ write ∈ writes, write.1 < exact) ∧
          ∀ written, frame.writeAll? writes = some written →
            written.data.size = exact ∧ written = { frame with data := written.data } := by
  intro fits exact
  refine ⟨fun length => frameLength_eq_ok_iff, fun cause => ?_, fun sequence => ⟨fun data => ⟨?_, fun fault => ?_⟩, ?_⟩⟩
  · rw [Nat.not_lt]
    exact frameLength_eq_error_iff
  · simp only [Frame.ofData_eq_ok_iff, exists_and_left, exists_eq, and_true, fits, exact]
  · exact Frame.ofData_eq_error_iff
  · refine ⟨?_, fun cause => Frame.blank_eq_error_iff, ?_⟩
    · simp only [Frame.blank_eq_ok_iff, exists_and_left, exists_eq, and_true, fits, exact]
    · intro frame hbuilt writes
      refine ⟨?_, fun written hwritten => ?_⟩
      · rw [Frame.exists_writeAll?_iff, hbuilt.size_eq]
      · have hrewritten := Frame.rewritten_of_writeAll? hwritten
        exact ⟨hrewritten.size.trans hbuilt.size_eq, hrewritten.others⟩

/-- A frame of four by two pixels is written at its last byte. -/
theorem frames_have_exact_length_small :
    ∃ frame written : Frame, Frame.Built 7 4 2 .nv12 frame ∧
      frame.writeAll? [(11, 200)] = some written ∧ written.data.size = 12 := by
  obtain ⟨-, -, hframes⟩ := frames_have_exact_length .nv12 4 2
  obtain ⟨-, hblank, -, hwrites⟩ := hframes 7
  obtain ⟨frame, hframe⟩ := hblank.2 (by decide)
  obtain ⟨hexists, hkeeps⟩ := hwrites frame (.blank hframe) [(11, 200)]
  obtain ⟨written, hwritten⟩ := hexists.2 (by decide)
  exact ⟨frame, written, .blank hframe, hwritten, (hkeeps written hwritten).1⟩

/-- A frame whose length a word could hold has none, as three bytes for each pixel are halved too late.  Without a
length there is neither a frame of zeros nor one over any data. -/
theorem large_frames_break_off :
    PixelFormat.nv12.exactLength 4294967295 2147483648 = 13835058052060938240 ∧
      13835058052060938240 < 2 ^ 64 ∧
      PixelFormat.nv12.frameLength 4294967295 2147483648 = .error .product ∧
      Frame.blank 0 4294967295 2147483648 .nv12 = .error .product ∧
      ∀ data, Frame.ofData 0 4294967295 2147483648 .nv12 data = .error (.overflow .product) := by
  have hlarge : ¬ fullLength 4294967295 2147483648 < 2 ^ 64 := by decide
  refine ⟨by decide, by decide, ?_, ?_, fun data => ?_⟩
  · exact frameLength_eq_error_iff.2 ⟨Nat.le_of_not_lt hlarge, rfl⟩
  · rw [Frame.blank_eq_error_iff, if_neg hlarge]
  · rw [Frame.ofData_eq_error_iff, if_neg hlarge]

end FrameDetect.Video
