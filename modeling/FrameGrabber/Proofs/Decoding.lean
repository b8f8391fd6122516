import FrameGrabber.Proofs.Interpolation

/-!
# What a payload is decoded to

A format that has a rule takes so many bytes to a picture, and the rule looks at
these alone: the decoder cuts them off, or refuses, and what it does then is a
function of the bytes that were cut. So everything about payloads that are too
short or too long is said once, for all formats, in `exists_develop`; the formats
differ only in what becomes of a payload of just the right length.

Lengths are words. That they are the lengths that the geometry calls for needs a
picture whose three bytes to a pixel can still be counted in a word.
-/

namespace FrameGrabber

/-- Is `data`, three bytes to a pixel, the picture that the payload is in this format? -/
def PixelFormat.Renders (format : PixelFormat) (payload data : Bytes) (w h : Nat) : Prop :=
  match format with
  | mono8 => ∀ i < w * h, ∀ k < 3, data[i * 3 + k]? = payload[i]?
  | bayerRG8 => ∀ x y c, x < w → y < h →
      ∃ v, Mosaic.Interpolates (payload.extract 0 (w * h)) w h data x y c v
  | rgb8 => ∀ i < w * h, ∀ k < 3, data[i * 3 + k]? = payload[i * 3 + k]?
  | bgr8 => ∀ i < w * h, ∀ k < 3, data[i * 3 + k]? = payload[i * 3 + (2 - k)]?
  | _ => False

/-- The frame that a payload becomes. -/
structure Frame.DecodedFrom (f : Frame) (payload : Bytes) (width height : UInt32)
    (format : PixelFormat) (sequence : Nat) (now : Instant) : Prop where
  width_eq : f.width = width
  height_eq : f.height = height
  sequence_eq : f.sequence = sequence
  timestamp_eq : f.timestamp = now
  layout_eq : f.layout = .rgb8
  size_eq : f.data.size = 3 * (width.toNat * height.toNat)
  expectedLength_eq : f.expectedLength.toNat = f.data.size
  renders : format.Renders payload f.data width.toNat height.toNat

/-! ## Formats -/

namespace PixelFormat

variable {format : PixelFormat} {payload data : Bytes} {w h n : Nat}

theorem exists_needed (hformat : format.IsDecoded) (pixels : Nat) :
    ∃ needed, format.needed? pixels = some needed := by
  cases format with
  | mono8 | bayerRG8 | rgb8 | bgr8 => exact ⟨_, rfl⟩
  | mono16 | bayerGR8 | bayerGB8 | bayerBG8 | yuv422 | other name =>
      simp [IsDecoded] at hformat

/-- Nothing is needed of a picture without pixels. -/
theorem needed?_zero (hn : format.needed? 0 = some n) : n = 0 := by
  cases format <;> cases hn <;> rfl

theorem needed?_le {pixels : Nat} (hn : format.needed? pixels = some n) : n ≤ 3 * pixels := by
  cases format <;> cases hn <;> omega

/-- What a picture shows is in the bytes that it takes. -/
theorem Renders.of_extract (hn : format.needed? (w * h) = some n)
    (hr : format.Renders (payload.extract 0 n) data w h) : format.Renders payload data w h := by
  have hinside : ∀ i < n, (payload.extract 0 n)[i]? = payload[i]? := by
    intro i hi
    rw [Array.getElem?_extract]
    split
    · rw [Nat.zero_add]
    · rw [Array.getElem?_eq_none (by omega)]
  cases format with
  | mono8 =>
      cases hn
      exact fun i hi k hk => (hr i hi k hk).trans (hinside i hi)
  | bayerRG8 =>
      cases hn
      have hcut : (payload.extract 0 (w * h)).extract 0 (w * h) = payload.extract 0 (w * h) := by
        rw [Array.extract_extract]
        simp
      simpa only [Renders, hcut] using hr
  | rgb8 =>
      cases hn
      exact fun i hi k hk => (hr i hi k hk).trans (hinside _ (by omega))
  | bgr8 =>
      cases hn
      exact fun i hi k hk => (hr i hi k hk).trans (hinside _ (by omega))
  | mono16 | bayerGR8 | bayerGB8 | bayerBG8 | yuv422 | other name => cases hn

end PixelFormat

/-! ## Lengths -/

variable {width height : UInt32} {format : PixelFormat} {n : Nat}

theorem lt_of_needed (hn : format.needed? (width.toNat * height.toNat) = some n)
    (hword : 3 * (width.toNat * height.toNat) < UInt64.size) : n < UInt64.size :=
  Nat.lt_of_le_of_lt (PixelFormat.needed?_le hn) hword

theorem Frame.toNat_expectedLength (f : Frame) :
    f.expectedLength.toNat =
      f.layout.channels * (f.width.toNat * f.height.toNat) % UInt64.size := by
  have hchannels : f.layout.channels.toUInt64.toNat = f.layout.channels := by
    cases f.layout <;> rfl
  rw [expectedLength, stride, UInt64.toNat_mul, UInt64.toNat_mul, UInt32.toNat_toUInt64,
    UInt32.toNat_toUInt64, hchannels, Nat.mod_mul_mod, Nat.mul_comm f.width.toNat,
    Nat.mul_assoc]

/-! ## One rule for all formats -/

theorem map_leading_of_le {develop : Bytes → Bytes} {payload : Bytes} {needed : UInt64}
    (h : needed.toNat ≤ payload.size) :
    develop <$> leading payload needed = .ok (develop (payload.extract 0 needed.toNat)) := by
  rw [leading, if_pos h]
  rfl

theorem map_leading_of_lt {develop : Bytes → Bytes} {payload : Bytes} {needed : UInt64}
    (h : payload.size < needed.toNat) :
    develop <$> leading payload needed =
      .error (.payloadTooShort needed.toNat payload.size) := by
  rw [leading, if_neg (Nat.not_le.2 h)]
  rfl

/-- A format with a rule cuts off as many bytes as the word of its need says and develops
them. What comes out is a picture if the word says what is needed. -/
theorem exists_develop (hn : format.needed? (width.toNat * height.toNat) = some n) :
    ∃ (needed : UInt64) (develop : Bytes → Bytes), needed.toNat = n % UInt64.size ∧
      (∀ payload, decodePixels payload width height format =
        develop <$> leading payload needed) ∧
      ∀ raw : Bytes, raw.size = n % UInt64.size →
        ((develop raw).size = 3 * (width.toNat * height.toNat) ↔ n < UInt64.size) ∧
        (n < UInt64.size → format.Renders raw (develop raw) width.toNat height.toNat) := by
  have hpixels := toNat_pixels width height
  have htriples := toNat_triples width height
  have hcounted : width.toNat * height.toNat < UInt64.size := hpixels ▸ UInt64.toNat_lt _
  have hmod := Nat.mod_eq_of_lt hcounted
  cases format with
  | mono8 =>
      cases hn
      rw [hmod]
      refine ⟨_, grayToRgb, hpixels, fun _ => rfl, fun raw hraw => ⟨?_, fun _ => ?_⟩⟩
      · rw [size_grayToRgb, hraw]
        exact iff_of_true rfl hcounted
      · exact fun i _ k hk => grayToRgb_getElem? raw i hk
  | bayerRG8 =>
      cases hn
      rw [hmod]
      refine ⟨_, (Mosaic.demosaic · width.toNat height.toNat), hpixels, fun _ => rfl,
        fun raw hraw => ⟨?_, fun _ => ?_⟩⟩
      · rw [size_demosaic]
        exact iff_of_true (Nat.mul_comm _ _) hcounted
      · intro x y c hx hy
        rw [← hraw, Array.extract_size]
        exact ⟨_, Mosaic.interpolates hraw hx hy c⟩
  | rgb8 =>
      cases hn
      refine ⟨_, id, htriples, fun payload => ?_, fun raw hraw => ⟨?_, fun _ _ _ _ _ => rfl⟩⟩
      · rw [decodePixels, id_map]
      · rw [id, hraw]
        exact mod_size_eq_iff
  | bgr8 =>
      cases hn
      refine ⟨_, swapRedBlue, htriples, fun _ => rfl, fun raw hraw => ⟨?_, fun hlt => ?_⟩⟩
      · have hle := Nat.mod_le (3 * (width.toNat * height.toNat)) UInt64.size
        rw [size_swapRedBlue, hraw, ← mod_size_eq_iff]
        omega
      · rw [Nat.mod_eq_of_lt hlt] at hraw
        exact fun i hi k hk => swapRedBlue_getElem? (by omega) hk
  | mono16 | bayerGR8 | bayerGB8 | bayerBG8 | yuv422 | other name => cases hn

theorem decodePixels_of_le (hn : format.needed? (width.toNat * height.toNat) = some n)
    (hword : 3 * (width.toNat * height.toNat) < UInt64.size) {payload : Bytes}
    (hle : n ≤ payload.size) :
    ∃ data, decodePixels payload width height format = .ok data ∧
      data.size = 3 * (width.toNat * height.toNat) ∧
      format.Renders payload data width.toNat height.toNat := by
  have hlt := lt_of_needed hn hword
  obtain ⟨needed, develop, hneeded, hdecode, hdevelop⟩ := exists_develop hn
  rw [Nat.mod_eq_of_lt hlt] at hneeded hdevelop
  subst hneeded
  obtain ⟨hsize, hrenders⟩ := hdevelop (payload.extract 0 needed.toNat) (by simp [hle])
  exact ⟨_, (hdecode payload).trans (map_leading_of_le hle), hsize.2 hlt,
    (hrenders hlt).of_extract hn⟩

theorem decodePixels_of_lt (hn : format.needed? (width.toNat * height.toNat) = some n)
    (hword : 3 * (width.toNat * height.toNat) < UInt64.size) {payload : Bytes}
    (hlt : payload.size < n) :
    decodePixels payload width height format = .error (.payloadTooShort n payload.size) := by
  obtain ⟨needed, develop, hneeded, hdecode, -⟩ := exists_develop hn
  rw [Nat.mod_eq_of_lt (lt_of_needed hn hword)] at hneeded
  subst hneeded
  exact (hdecode payload).trans (map_leading_of_lt hlt)

theorem decodePixels_of_not_isDecoded (hformat : ¬format.IsDecoded) (payload : Bytes) :
    decodePixels payload width height format = .error (.unsupportedPixelFormat format) := by
  cases format with
  | mono8 | bayerRG8 | rgb8 | bgr8 => exact absurd (by decide) hformat
  | mono16 | bayerGR8 | bayerGB8 | bayerBG8 | yuv422 | other name => rfl

/-- Payloads that begin alike are decoded alike. -/
theorem decodePixels_congr (hn : format.needed? (width.toNat * height.toNat) = some n)
    (hword : 3 * (width.toNat * height.toNat) < UInt64.size) {payload payload' : Bytes}
    (hle : n ≤ payload.size) (halike : ∀ i < n, payload'[i]? = payload[i]?) :
    decodePixels payload' width height format = decodePixels payload width height format := by
  obtain ⟨needed, develop, hneeded, hdecode, -⟩ := exists_develop hn
  rw [Nat.mod_eq_of_lt (lt_of_needed hn hword)] at hneeded
  subst hneeded
  have hle' : needed.toNat ≤ payload'.size := by
    by_contra hshort
    have hlast := halike payload'.size (by omega)
    rw [Array.getElem?_eq_none (Nat.le_refl _), Array.getElem?_eq_getElem (by omega)] at hlast
    cases hlast
  have hcut : payload'.extract 0 needed.toNat = payload.extract 0 needed.toNat := by
    apply Array.ext_getElem?
    intro i
    rw [Array.getElem?_extract, Array.getElem?_extract]
    by_cases hi : i < needed.toNat
    · rw [if_pos (by omega), if_pos (by omega), Nat.zero_add, halike i hi]
    · rw [if_neg (by omega), if_neg (by omega)]
  rw [hdecode, hdecode, map_leading_of_le hle, map_leading_of_le hle', hcut]

/-! ## Frames -/

theorem decodeFrame_of_error {payload : Bytes} {e : CameraError}
    (h : decodePixels payload width height format = .error e) (sequence : Nat) (now : Instant) :
    decodeFrame payload width height format sequence now = .error e := by
  rw [decodeFrame, h]
  rfl

theorem decodeFrame_of_le (hn : format.needed? (width.toNat * height.toNat) = some n)
    (hword : 3 * (width.toNat * height.toNat) < UInt64.size) {payload : Bytes}
    (hle : n ≤ payload.size) (sequence : Nat) (now : Instant) :
    ∃ f, decodeFrame payload width height format sequence now = .ok f ∧
      f.DecodedFrom payload width height format sequence now := by
  obtain ⟨data, hdata, hsize, hrenders⟩ := decodePixels_of_le hn hword hle
  refine ⟨_, decodeFrame_of_pixels hdata sequence now, rfl, rfl, rfl, rfl, rfl, hsize, ?_,
    hrenders⟩
  rw [Frame.toNat_expectedLength, hsize]
  exact Nat.mod_eq_of_lt hword

/-- Whatever stands against a frame shows in the answer. -/
theorem needed_of_decodeFrame {payload : Bytes} {sequence : Nat} {now : Instant} {f : Frame}
    (hword : 3 * (width.toNat * height.toNat) < UInt64.size)
    (h : decodeFrame payload width height format sequence now = .ok f) :
    ∃ needed, format.needed? (width.toNat * height.toNat) = some needed ∧
      needed ≤ payload.size := by
  by_cases hformat : format.IsDecoded
  · obtain ⟨needed, hn⟩ := PixelFormat.exists_needed hformat (width.toNat * height.toNat)
    refine ⟨needed, hn, Nat.le_of_not_lt fun hlt => ?_⟩
    have hshort := decodeFrame_of_error (decodePixels_of_lt hn hword hlt) sequence now
    cases h.symm.trans hshort
  · have hunknown : decodeFrame payload width height format sequence now =
        .error (.unsupportedPixelFormat format) :=
      decodeFrame_of_error (decodePixels_of_not_isDecoded hformat payload) sequence now
    cases h.symm.trans hunknown

/-- Where memory has room for three bytes to a pixel there is nothing to panic over. -/
theorem decodeFrame?_of_room (hroom : 3 * (width.toNat * height.toNat) ≤ memoryLimit) (b : Build)
    (payload : Bytes) (sequence : Nat) (now : Instant) :
    decodeFrame? b payload width height format sequence now =
      some (decodeFrame payload width height format sequence now) := by
  have hword : 3 * (width.toNat * height.toNat) < UInt64.size :=
    Nat.lt_of_le_of_lt hroom (by decide)
  have hanswers : decodeFrame? b payload width height format sequence now ≠ none := by
    rw [Ne, decodeFrame?_eq_none_iff]
    rintro (⟨-, hcount⟩ | ⟨f, hf, hlimit⟩)
    · cases hn : format.needed? (width.toNat * height.toNat) with
      | none => simp [hn] at hcount
      | some needed =>
          rw [hn, Option.getD_some] at hcount
          exact Nat.not_le.2 (lt_of_needed hn hword) hcount
    · obtain ⟨needed, hn, hle⟩ := needed_of_decodeFrame hword hf
      obtain ⟨f', hf', hdecoded⟩ := decodeFrame_of_le hn hword hle sequence now
      cases hf.symm.trans hf'
      rw [hdecoded.size_eq] at hlimit
      exact Nat.not_le.2 hlimit hroom
  obtain ⟨answer, hanswer⟩ := Option.ne_none_iff_exists'.1 hanswers
  rw [hanswer, decodeFrame_of_decodeFrame? hanswer]

/-- What the decoder answers. Four formats have a rule; for them a payload of enough
bytes becomes a frame that has three bytes to a pixel, as many as its geometry and its
layout call for, and shows what the first bytes of the payload are, whatever comes
behind these. A shorter payload is refused with both lengths, any other format with its
name, and of a picture without width or without height nothing is needed. -/
theorem decodeFrame_answers (payload : Bytes) (width height : UInt32) (format : PixelFormat)
    (sequence : Nat) (now : Instant)
    (hword : 3 * (width.toNat * height.toNat) < UInt64.size) :
    ((decodeFrame payload width height format sequence now).isOk = true ↔
      ∃ needed, format.needed? (width.toNat * height.toNat) = some needed ∧
        needed ≤ payload.size) ∧
    (∀ f, decodeFrame payload width height format sequence now = .ok f →
      f.DecodedFrom payload width height format sequence now) ∧
    (∀ needed, format.needed? (width.toNat * height.toNat) = some needed →
      (payload.size < needed → decodeFrame payload width height format sequence now =
        .error (.payloadTooShort needed payload.size)) ∧
      ∀ payload' : Bytes, needed ≤ payload.size →
        (∀ i < needed, payload'[i]? = payload[i]?) →
        decodeFrame payload' width height format sequence now =
          decodeFrame payload width height format sequence now) ∧
    (¬format.IsDecoded → decodeFrame payload width height format sequence now =
      .error (.unsupportedPixelFormat format)) ∧
    (format.IsDecoded → width = 0 ∨ height = 0 →
      ∃ f, decodeFrame payload width height format sequence now = .ok f ∧ f.data = #[]) := by
  refine ⟨⟨fun hok => ?_, ?_⟩, fun f hf => ?_, fun needed hn => ⟨fun hlt => ?_, ?_⟩, ?_, ?_⟩
  · rcases hf : decodeFrame payload width height format sequence now with e | f <;>
      rw [hf] at hok
    · cases hok
    · exact needed_of_decodeFrame hword hf
  · rintro ⟨needed, hn, hle⟩
    obtain ⟨f, hf, -⟩ := decodeFrame_of_le hn hword hle sequence now
    rw [hf]
    rfl
  · obtain ⟨needed, hn, hle⟩ := needed_of_decodeFrame hword hf
    obtain ⟨f', hf', hdecoded⟩ := decodeFrame_of_le hn hword hle sequence now
    cases hf.symm.trans hf'
    exact hdecoded
  · exact decodeFrame_of_error (decodePixels_of_lt hn hword hlt) sequence now
  · intro payload' hle halike
    rw [decodeFrame, decodeFrame, decodePixels_congr hn hword hle halike]
  · intro hformat
    exact decodeFrame_of_error (decodePixels_of_not_isDecoded hformat payload) sequence now
  · intro hformat hempty
    have hpixels : width.toNat * height.toNat = 0 := by
      rcases hempty with rfl | rfl
      · exact Nat.zero_mul _
      · exact Nat.mul_zero _
    obtain ⟨needed, hn⟩ := PixelFormat.exists_needed hformat (width.toNat * height.toNat)
    have hnone : needed = 0 := PixelFormat.needed?_zero (hpixels ▸ hn)
    have hle : needed ≤ payload.size := hnone ▸ Nat.zero_le payload.size
    obtain ⟨f, hf, hdecoded⟩ := decodeFrame_of_le hn hword hle sequence now
    refine ⟨f, hf, Array.eq_empty_of_size_eq_zero ?_⟩
    rw [hdecoded.size_eq, hpixels]

/-- Two pixels with a byte too many; a payload that is too short; a name that is only
spelled like a format; a picture of three rows without columns. -/
theorem decodeFrame_answers_small :
    3 * (2 * 1) < UInt64.size ∧
      (∃ f, decodeFrame #[1, 2, 3, 4, 5, 6, 99] 2 1 .bgr8 7 0 = .ok f ∧
        f.DecodedFrom #[1, 2, 3, 4, 5, 6, 99] 2 1 .bgr8 7 0 ∧ f.data = #[3, 2, 1, 6, 5, 4] ∧
        decodeFrame #[1, 2, 3, 4, 5, 6] 2 1 .bgr8 7 0 = .ok f) ∧
      decodeFrame #[1, 2, 3, 4, 5] 4 2 .mono8 0 0 = .error (.payloadTooShort 8 5) ∧
      decodeFrame #[1, 2] 2 1 (.other "Mono8") 0 0 =
        .error (.unsupportedPixelFormat (.other "Mono8")) ∧
      ∃ f, decodeFrame #[9] 0 3 .bayerRG8 0 0 = .ok f ∧ f.data = #[] := by
  obtain ⟨hok, hframe, hpayload, -, -⟩ :=
    decodeFrame_answers #[1, 2, 3, 4, 5, 6, 99] 2 1 .bgr8 7 0 (by decide)
  obtain ⟨-, -, hshort, -, -⟩ := decodeFrame_answers #[1, 2, 3, 4, 5] 4 2 .mono8 0 0 (by decide)
  obtain ⟨-, -, -, hunknown, -⟩ :=
    decodeFrame_answers #[1, 2] 2 1 (.other "Mono8") 0 0 (by decide)
  obtain ⟨-, -, -, -, hempty⟩ := decodeFrame_answers #[9] 0 3 .bayerRG8 0 0 (by decide)
  refine ⟨by decide, ?_, (hshort 8 rfl).1 (by decide), hunknown (by decide),
    hempty (by decide) (.inl rfl)⟩
  have hf : decodeFrame #[1, 2, 3, 4, 5, 6, 99] 2 1 .bgr8 7 0 =
      .ok ⟨2, 1, .rgb8, #[3, 2, 1, 6, 5, 4], 7, 0⟩ := by decide
  exact ⟨_, hf, hframe _ hf, rfl, ((hpayload 6 rfl).2 _ (by decide) (by decide)).trans hf⟩

end FrameGrabber
