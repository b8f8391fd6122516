import FrameGrabber.Frame.Decode
import FrameGrabber.Proofs.Exposure

/-!
# What is decoded from a whole picture

Four formats are decoded. From a payload that is a whole picture in one of them,
as long as a word can say, a frame comes out, and it has three bytes for each
pixel of the picture. What a camera sends is such a payload wherever its pictures
are as long as the payloads that it announces.
-/

namespace FrameGrabber

/-- The formats for which there is a rule. -/
def PixelFormat.IsDecoded (f : PixelFormat) : Prop := f ∈ [mono8, bayerRG8, rgb8, bgr8]

instance (f : PixelFormat) : Decidable f.IsDecoded :=
  inferInstanceAs (Decidable (f ∈ [.mono8, .bayerRG8, .rgb8, .bgr8]))

theorem toNat_pixels (width height : UInt32) :
    (width.toUInt64 * height.toUInt64).toNat = width.toNat * height.toNat := by
  have hw : width.toNat < 2 ^ 32 := width.toNat_lt
  have hh : height.toNat < 2 ^ 32 := height.toNat_lt
  have hlt : width.toNat * height.toNat < 2 ^ 32 * 2 ^ 32 := Nat.mul_lt_mul'' hw hh
  rw [UInt64.toNat_mul, UInt32.toNat_toUInt64, UInt32.toNat_toUInt64]
  exact Nat.mod_eq_of_lt hlt

/-- The word that counts three bytes to a pixel wraps where they are too many. -/
theorem toNat_triples (width height : UInt32) :
    (width.toUInt64 * height.toUInt64 * 3).toNat =
      3 * (width.toNat * height.toNat) % UInt64.size := by
  rw [UInt64.toNat_mul, toNat_pixels, Nat.mul_comm 3]
  rfl

theorem size_grayToRgb (gray : Bytes) : (grayToRgb gray).size = 3 * gray.size := by
  rw [grayToRgb, Array.size_flatMap]
  show (gray.map fun _ => 3).sum = _
  rw [Array.map_const', Array.sum_replicate_nat, Nat.mul_comm]

theorem size_demosaic (raw : Bytes) (w h : Nat) : (Mosaic.demosaic raw w h).size = w * h * 3 := by
  simp [Mosaic.demosaic]

theorem size_swapRedBlue (bytes : Bytes) : (swapRedBlue bytes).size = bytes.size / 3 * 3 :=
  Array.size_ofFn

theorem grayToRgb_getElem? (gray : Bytes) (i : Nat) {k : Nat} (hk : k < 3) :
    (grayToRgb gray)[i * 3 + k]? = gray[i]? := by
  have hlist : ∀ (l : List UInt8) (i : Nat),
      (l.flatMap fun v => [v, v, v])[i * 3 + k]? = l[i]? := by
    intro l
    induction l with
    | nil => simp
    | cons v rest ih =>
        intro i
        cases i with
        | zero =>
            obtain rfl | rfl | rfl : k = 0 ∨ k = 1 ∨ k = 2 := by omega
            all_goals rfl
        | succ i =>
            rw [List.flatMap_cons, List.getElem?_append_right (by simp; omega)]
            have hback : (i + 1) * 3 + k - [v, v, v].length = i * 3 + k := by
              simp
              omega
            rw [hback, ih, List.getElem?_cons_succ]
  rw [← Array.getElem?_toList, ← Array.getElem?_toList, ← hlist gray.toList i, grayToRgb,
    Array.toList_flatMap]

theorem swapRedBlue_getElem? {bytes : Bytes} {i k : Nat} (hi : i < bytes.size / 3)
    (hk : k < 3) : (swapRedBlue bytes)[i * 3 + k]? = bytes[i * 3 + (2 - k)]? := by
  have hlt : i * 3 + k < bytes.size / 3 * 3 := by omega
  have hpixel : (i * 3 + k) / 3 = i := by omega
  have hbyte : (i * 3 + k) % 3 = k := by omega
  have hsource : i * 3 + (2 - k) < bytes.size := by omega
  rw [swapRedBlue, Array.getElem?_ofFn, dif_pos hlt]
  simp only [hpixel, hbyte]
  rw [Array.getD_eq_getD_getElem?, Array.getElem?_eq_getElem hsource, Option.getD_some]

theorem leading_whole {payload : Bytes} {needed : UInt64} (h : payload.size = needed.toNat) :
    leading payload needed = .ok payload := by
  rw [leading, if_pos (Nat.le_of_eq h.symm), ← h, Array.extract_size]

/-- A whole picture is decoded, three bytes to a pixel. -/
theorem decodePixels_whole {payload : Bytes} {width height : UInt32} {format : PixelFormat}
    (hformat : format.IsDecoded)
    (hsize : payload.size = width.toNat * height.toNat * format.bytesPerPixel?.getD 1)
    (hword : payload.size < UInt64.size) :
    ∃ data, decodePixels payload width height format = .ok data ∧
      data.size = 3 * (width.toNat * height.toNat) := by
  have hpixels := toNat_pixels width height
  have hone : format.bytesPerPixel?.getD 1 = 1 →
      payload.size = (width.toUInt64 * height.toUInt64).toNat := by
    intro h
    rw [hsize, h, hpixels, Nat.mul_one]
  have hthree : format.bytesPerPixel?.getD 1 = 3 →
      payload.size = (width.toUInt64 * height.toUInt64 * 3).toNat := by
    intro h
    rw [hsize, h] at hword ⊢
    rw [toNat_triples, Nat.mul_comm 3]
    exact (Nat.mod_eq_of_lt hword).symm
  have hcases : format = .mono8 ∨ format = .bayerRG8 ∨ format = .rgb8 ∨ format = .bgr8 := by
    simpa [PixelFormat.IsDecoded] using hformat
  rcases hcases with rfl | rfl | rfl | rfl <;> simp only [decodePixels]
  · rw [leading_whole (hone rfl)]
    refine ⟨_, rfl, ?_⟩
    rw [size_grayToRgb, hone rfl, hpixels]
  · rw [leading_whole (hone rfl)]
    refine ⟨_, rfl, ?_⟩
    rw [size_demosaic, Nat.mul_comm]
  · rw [leading_whole (hthree rfl)]
    refine ⟨_, rfl, ?_⟩
    rw [hsize]
    exact Nat.mul_comm _ _
  · rw [leading_whole (hthree rfl)]
    refine ⟨_, rfl, ?_⟩
    rw [size_swapRedBlue, hsize]
    show width.toNat * height.toNat * 3 / 3 * 3 = _
    omega

theorem isDecoded_of_decodePixels {payload data : Bytes} {width height : UInt32}
    {format : PixelFormat} (h : decodePixels payload width height format = .ok data) :
    format.IsDecoded := by
  cases format with
  | mono8 | bayerRG8 | rgb8 | bgr8 => decide
  | mono16 | bayerGR8 | bayerGB8 | bayerBG8 | yuv422 | other name => cases h

/-- The pictures of a camera are decoded where they fill its payloads. -/
theorem Registers.decodePixels_pattern {r : Registers} (hformat : r.format.IsDecoded)
    (hwhole : r.pictureSize = r.payloadSize.toNat) (tick : Nat) :
    ∃ data, decodePixels (Pattern.payload r.format r.width.toNat r.height.toNat tick) r.width
        r.height r.format = .ok data ∧
      data.size = 3 * (r.width.toNat * r.height.toNat) := by
  have hsize := Pattern.size_payload r.format r.width.toNat r.height.toNat tick
  refine decodePixels_whole hformat hsize ?_
  rw [hsize]
  show r.pictureSize < UInt64.size
  rw [hwhole]
  exact r.payloadSize.toNat_lt

/-- What the frame of a decoded payload is. -/
theorem decodeFrame_eq_ok {payload : Bytes} {width height : UInt32} {format : PixelFormat}
    {sequence : Nat} {now : Instant} {f : Frame}
    (h : decodeFrame payload width height format sequence now = .ok f) :
    ∃ data, decodePixels payload width height format = .ok data ∧
      f = ⟨width, height, .rgb8, data, sequence, now⟩ := by
  unfold decodeFrame at h
  rcases hpixels : decodePixels payload width height format with e | data <;>
    rw [hpixels] at h
  · cases h
  · cases h
    exact ⟨data, rfl, rfl⟩

theorem decodeFrame_of_pixels {payload data : Bytes} {width height : UInt32}
    {format : PixelFormat} (h : decodePixels payload width height format = .ok data)
    (sequence : Nat) (now : Instant) :
    decodeFrame payload width height format sequence now =
      .ok ⟨width, height, .rgb8, data, sequence, now⟩ := by
  rw [decodeFrame, h]
  rfl

end FrameGrabber
