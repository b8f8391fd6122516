import FrameGrabber.Proofs.Decoding

/-!
# Bringing a frame to RGB is decoding it

A frame in gray or in reversed triples holds what a payload of that format holds, so
there are two ways from the bytes to RGB: to bring the frame there, or to decode its
bytes as a payload. They come to the same wherever the decoder uses all the bytes, that
is, where the data of the frame have just the length that its geometry calls for.

That length is a word. Where three bytes to a pixel are too many to be counted in it,
what is left of the count is never a multiple of three: the word has one value more than
a multiple of three. So a frame of reversed triples whose data have the length called
for then ends in a part of a triple, which is lost on the way to RGB; and gray data,
which are counted one to a pixel, become more than the word of the RGB frame says. All
the laws about lengths below hold just where the count does not wrap.

A program that was built to check its arithmetic panics where it would wrap, so there no
length is called for. And in either build there has to be room for the frame: that is a
matter of gray data only, which become three times as many.
-/

namespace FrameGrabber

/-- The format of the payloads that hold what a frame of this layout holds. -/
def Layout.format : Layout → PixelFormat
  | rgb8 => .rgb8
  | bgr8 => .bgr8
  | gray8 => .mono8

/-- Do the data have the length that geometry and layout call for? -/
def Frame.IsFilled (f : Frame) : Prop := f.data.size = f.expectedLength.toNat

instance (f : Frame) : Decidable f.IsFilled :=
  inferInstanceAs (Decidable (f.data.size = f.expectedLength.toNat))

/-- Do they have the length that a program calls for that was built so? -/
def Frame.IsFilledIn (b : Build) (f : Frame) : Prop :=
  ∃ n, f.expectedLength? b = some n ∧ f.data.size = n.toNat

/-! ## Triples -/

/-- What is reversed twice is as it was, but for the bytes behind the last whole triple. -/
theorem swapRedBlue_swapRedBlue (bytes : Bytes) :
    swapRedBlue (swapRedBlue bytes) = bytes.extract 0 (bytes.size / 3 * 3) := by
  have hsize := size_swapRedBlue bytes
  apply Array.ext_getElem?
  intro j
  obtain ⟨i, k, hk, rfl⟩ : ∃ i k, k < 3 ∧ j = i * 3 + k := ⟨j / 3, j % 3, by omega, by omega⟩
  by_cases hi : i < bytes.size / 3
  · have hback : i * 3 + (2 - (2 - k)) = 0 + (i * 3 + k) := by omega
    rw [swapRedBlue_getElem? (by omega) hk, swapRedBlue_getElem? hi (by omega), hback,
      Array.getElem?_extract, if_pos (by omega)]
  · rw [Array.getElem?_eq_none (by rw [size_swapRedBlue]; omega),
      Array.getElem?_eq_none (by rw [Array.size_extract]; omega)]

/-- A count of triples that wraps is no multiple of three any more. -/
theorem three_dvd_wrapped_iff {pixels : Nat} (h : pixels < UInt64.size) :
    3 * pixels % UInt64.size % 3 = 0 ↔ 3 * pixels < UInt64.size := by
  have hcount := Nat.div_add_mod (3 * pixels) UInt64.size
  have hrest : 3 * pixels % UInt64.size < UInt64.size := Nat.mod_lt _ (by decide)
  have hwraps : 3 * pixels / UInt64.size < 3 := Nat.div_lt_of_lt_mul (by omega)
  generalize 3 * pixels % UInt64.size = rest at *
  generalize 3 * pixels / UInt64.size = wraps at *
  simp only [UInt64.size] at *
  -- It wraps twice at most, and each time takes one more than a multiple of three away.
  obtain rfl | rfl | rfl : wraps = 0 ∨ wraps = 1 ∨ wraps = 2 := by omega
  all_goals omega

namespace Frame

variable {f : Frame}

theorem normalize_normalize (f : Frame) : f.normalize.normalize = f.normalize :=
  normalize_of_rgb8 f.normalize_layout

/-! ## Lengths -/

theorem pixels_lt (f : Frame) : f.width.toNat * f.height.toNat < UInt64.size := by
  rw [← toNat_pixels]
  exact UInt64.toNat_lt _

theorem IsFilled.size_gray (h : f.IsFilled) (hlayout : f.layout = .gray8) :
    f.data.size = f.width.toNat * f.height.toNat := by
  rw [h, toNat_expectedLength, hlayout, Layout.channels, Nat.one_mul]
  exact Nat.mod_eq_of_lt f.pixels_lt

theorem IsFilled.size_triples (h : f.IsFilled) (hlayout : f.layout ≠ .gray8) :
    f.data.size = 3 * (f.width.toNat * f.height.toNat) % UInt64.size := by
  have hchannels : f.layout.channels = 3 := by
    cases hcases : f.layout with
    | rgb8 | bgr8 => rfl
    | gray8 => exact absurd hcases hlayout
  rw [h, toNat_expectedLength, hchannels]

/-- In RGB the data have the length called for, unless there is something to be done to
the frame and its triples are too many to be counted. -/
theorem IsFilled.normalize_iff (h : f.IsFilled) :
    f.normalize.IsFilled ↔
      f.layout = .rgb8 ∨ 3 * (f.width.toNat * f.height.toNat) < UInt64.size := by
  have hpixels := f.pixels_lt
  have hcalled : f.normalize.expectedLength.toNat =
      3 * (f.width.toNat * f.height.toNat) % UInt64.size := by
    rw [toNat_expectedLength, normalize_eq, Layout.channels]
  cases hlayout : f.layout with
  | rgb8 =>
      rw [normalize_of_rgb8 hlayout]
      exact iff_of_true h (.inl rfl)
  | bgr8 =>
      have hsize := h.size_triples (by rw [hlayout]; decide)
      have hdvd := three_dvd_wrapped_iff hpixels
      rw [IsFilled, hcalled, normalize_of_bgr8 hlayout]
      show (swapRedBlue f.data).size = _ ↔ _
      rw [size_swapRedBlue, hsize]
      simp only [reduceCtorEq, false_or]
      omega
  | gray8 =>
      rw [IsFilled, hcalled, normalize_of_gray8 hlayout]
      show (grayToRgb f.data).size = _ ↔ _
      rw [size_grayToRgb, h.size_gray hlayout]
      simp only [reduceCtorEq, false_or]
      rw [eq_comm, mod_size_eq_iff]

/-! ## Builds -/

variable {b : Build}

theorem toNat_stride (f : Frame) : f.stride.toNat = f.width.toNat * f.layout.channels := by
  have hchannels : f.layout.channels.toUInt64.toNat = f.layout.channels := by
    cases f.layout <;> rfl
  have hfew : f.layout.channels ≤ 3 := by
    cases f.layout <;> decide
  have hwidth : f.width.toNat < 2 ^ 32 := f.width.toNat_lt
  have hrow : f.width.toNat * f.layout.channels < 2 ^ 64 :=
    Nat.lt_of_le_of_lt (Nat.mul_le_mul_left _ hfew) (by omega)
  rw [stride, UInt64.toNat_mul, UInt32.toNat_toUInt64, hchannels, Nat.mod_eq_of_lt hrow]

/-- The length that a program panics over. -/
theorem expectedLength?_eq_none_iff :
    f.expectedLength? b = none ↔
      b = .checked ∧ UInt64.size ≤ f.layout.channels * (f.width.toNat * f.height.toNat) := by
  rw [expectedLength?, Build.count?_eq_none_iff, toNat_stride, Nat.mul_comm f.width.toNat,
    Nat.mul_assoc]

theorem isFilledIn_iff :
    f.IsFilledIn b ↔
      (b = .checked → f.layout.channels * (f.width.toNat * f.height.toNat) < UInt64.size) ∧
        f.IsFilled := by
  unfold IsFilledIn
  simp only [expectedLength?, Build.count?_eq_some_iff, toNat_stride,
    Nat.mul_comm f.width.toNat, Nat.mul_assoc]
  exact ⟨fun ⟨n, ⟨hcounted, hn⟩, hsize⟩ => ⟨hcounted, hsize.trans (congrArg _ hn.symm)⟩,
    fun ⟨hcounted, hsize⟩ => ⟨_, ⟨hcounted, rfl⟩, hsize⟩⟩

theorem IsFilledIn.normalize_iff (h : f.IsFilledIn b) :
    f.normalize.IsFilledIn b ↔
      f.layout = .rgb8 ∨ 3 * (f.width.toNat * f.height.toNat) < UInt64.size := by
  obtain ⟨hcounted, hfilled⟩ := isFilledIn_iff.1 h
  have htriples : (b = .checked → f.normalize.layout.channels *
      (f.normalize.width.toNat * f.normalize.height.toNat) < UInt64.size) ↔
      (b = .checked → 3 * (f.width.toNat * f.height.toNat) < UInt64.size) := by
    rw [normalize_eq]
    rfl
  rw [isFilledIn_iff, hfilled.normalize_iff, htriples]
  refine ⟨And.right, fun hwraps => ⟨fun hb => ?_, hwraps⟩⟩
  rcases hwraps with hlayout | hlt
  · have hcalled := hcounted hb
    rwa [hlayout] at hcalled
  · exact hlt

/-- Of what is in memory only gray data may become more than there is room for. -/
theorem normalize?_eq_none_iff (hsize : f.data.size ≤ memoryLimit) :
    f.normalize? = none ↔ f.layout = .gray8 ∧ memoryLimit < 3 * f.data.size := by
  rw [normalize?, room?_eq_none_iff]
  cases hlayout : f.layout with
  | rgb8 =>
      rw [normalize_of_rgb8 hlayout]
      exact iff_of_false (Nat.not_lt.2 hsize) fun h => nomatch h.1
  | bgr8 =>
      rw [normalize_of_bgr8 hlayout]
      have hle : (swapRedBlue f.data).size ≤ memoryLimit := by
        rw [size_swapRedBlue]
        omega
      exact iff_of_false (Nat.not_lt.2 hle) fun h => nomatch h.1
  | gray8 =>
      rw [normalize_of_gray8 hlayout]
      show memoryLimit < (grayToRgb f.data).size ↔ _
      rw [size_grayToRgb]
      exact (and_iff_right rfl).symm

/-! ## The two ways to RGB -/

/-- Where the data have the length called for, the decoder takes all of them. -/
theorem IsFilled.decodePixels (h : f.IsFilled) :
    decodePixels f.data f.width f.height f.layout.format = .ok f.normalize.data := by
  cases hlayout : f.layout with
  | rgb8 =>
      rw [normalize_of_rgb8 hlayout]
      refine leading_whole ?_
      rw [toNat_triples, h.size_triples (by rw [hlayout]; decide)]
  | bgr8 =>
      have hsize : f.data.size = (f.width.toUInt64 * f.height.toUInt64 * 3).toNat := by
        rw [toNat_triples, h.size_triples (by rw [hlayout]; decide)]
      rw [normalize_of_bgr8 hlayout, Layout.format, FrameGrabber.decodePixels,
        leading_whole hsize, Except.map_ok]
  | gray8 =>
      have hsize : f.data.size = (f.width.toUInt64 * f.height.toUInt64).toNat := by
        rw [toNat_pixels, h.size_gray hlayout]
      rw [normalize_of_gray8 hlayout, Layout.format, FrameGrabber.decodePixels,
        leading_whole hsize, Except.map_ok]

theorem IsFilled.decodeFrame (h : f.IsFilled) (sequence : Nat) (now : Instant) :
    decodeFrame f.data f.width f.height f.layout.format sequence now =
      .ok { f.normalize with sequence, timestamp := now } := by
  rw [decodeFrame_of_pixels h.decodePixels, f.normalize_eq]

/-- What the decoder needs of the data is what the layout calls for. -/
theorem needed_format (f : Frame) :
    f.layout.format.needed? (f.width.toNat * f.height.toNat) =
      some (f.layout.channels * (f.width.toNat * f.height.toNat)) := by
  cases f.layout with
  | rgb8 | bgr8 => rfl
  | gray8 => exact congrArg some (Nat.one_mul _).symm

/-- The same in a program, which panics on both ways or on neither. -/
theorem IsFilledIn.decodeFrame? (h : f.IsFilledIn b) (sequence : Nat) (now : Instant) :
    decodeFrame? b f.data f.width f.height f.layout.format sequence now =
      f.normalize?.map fun g => .ok { g with sequence, timestamp := now } := by
  obtain ⟨hcounted, hfilled⟩ := isFilledIn_iff.1 h
  have hcount : ∀ answer : Except CameraError Frame,
      b.count? (f.layout.channels * (f.width.toNat * f.height.toNat)) answer = some answer :=
    fun _ => Build.count?_eq_some_iff.2 ⟨hcounted, rfl⟩
  rw [FrameGrabber.decodeFrame?, hfilled.decodeFrame, needed_format, Option.getD_some]
  simp only [hcount, normalize?, room?]
  show (if memoryLimit < f.normalize.data.size then none else _) = _
  split
  · rfl
  · rfl

/-- Reversed triples that are reversed once more. -/
theorem normalize_relabelled (hlayout : f.layout = .bgr8) :
    { f.normalize with layout := .bgr8 }.normalize.data =
      f.data.extract 0 (f.data.size / 3 * 3) := by
  rw [normalize_of_bgr8 rfl, normalize_of_bgr8 hlayout]
  exact swapRedBlue_swapRedBlue f.data

/-- The way back leads to where it began just where all triples are whole. -/
theorem IsFilled.relabelled_iff (h : f.IsFilled) (hlayout : f.layout = .bgr8) :
    { f.normalize with layout := .bgr8 }.normalize.data = f.data ↔
      3 * (f.width.toNat * f.height.toNat) < UInt64.size := by
  have hsize := h.size_triples (by rw [hlayout]; decide)
  have hdvd := three_dvd_wrapped_iff f.pixels_lt
  rw [normalize_relabelled hlayout, ← hdvd, ← hsize]
  constructor
  · intro heq
    have hlength := congrArg Array.size heq
    rw [Array.size_extract] at hlength
    omega
  · intro hwhole
    have hall : f.data.size / 3 * 3 = f.data.size := by omega
    rw [hall, Array.extract_size]

/-- To bring a frame to RGB changes its layout and its data only, and is done once and
for all. Gray bytes are each said three times, reversed triples turned around, bytes
behind the last whole triple dropped. There has to be room for gray bytes said three times.

Data of the length that the geometry calls for become what the decoder makes of them as a
payload; they have again the length that the geometry calls for, and reversed triples come
back by the same way, just where the triples of the geometry can be counted in a word. A
program that was built to check its arithmetic panics where what the geometry calls for
cannot be counted. -/
theorem normalize_agrees (f : Frame) (b : Build) :
    f.normalize.normalize = f.normalize ∧
    f.normalize = { f with layout := .rgb8, data := f.normalize.data } ∧
    (f.layout = .rgb8 → f.normalize = f) ∧
    (f.layout = .gray8 → f.normalize.data.size = 3 * f.data.size ∧
      ∀ i, ∀ k < 3, f.normalize.data[i * 3 + k]? = f.data[i]?) ∧
    (f.layout = .bgr8 → f.normalize.data.size = f.data.size - f.data.size % 3 ∧
      ∀ i < f.data.size / 3, ∀ k < 3,
        f.normalize.data[i * 3 + k]? = f.data[i * 3 + (2 - k)]?) ∧
    (f.data.size ≤ memoryLimit →
      (f.normalize? = none ↔ f.layout = .gray8 ∧ memoryLimit < 3 * f.data.size)) ∧
    (∀ g, f.normalize? = some g → g = f.normalize) ∧
    (f.expectedLength? b = none ↔
      b = .checked ∧ UInt64.size ≤ f.layout.channels * (f.width.toNat * f.height.toNat)) ∧
    (f.IsFilledIn b →
      (f.normalize.IsFilledIn b ↔
        f.layout = .rgb8 ∨ 3 * (f.width.toNat * f.height.toNat) < UInt64.size) ∧
      (∀ sequence now,
        decodeFrame? b f.data f.width f.height f.layout.format sequence now =
          f.normalize?.map fun g => .ok { g with sequence, timestamp := now }) ∧
      (f.layout = .bgr8 → ({ f.normalize with layout := .bgr8 }.normalize.data = f.data ↔
        3 * (f.width.toNat * f.height.toNat) < UInt64.size))) := by
  refine ⟨f.normalize_normalize, f.normalize_eq, normalize_of_rgb8, fun hgray => ?_,
    fun hbgr => ?_, normalize?_eq_none_iff, fun g hg => ?_, expectedLength?_eq_none_iff,
    fun h => ⟨h.normalize_iff, h.decodeFrame?, (isFilledIn_iff.1 h).2.relabelled_iff⟩⟩
  · rw [normalize_of_gray8 hgray]
    exact ⟨size_grayToRgb f.data, fun i k hk => grayToRgb_getElem? f.data i hk⟩
  · rw [normalize_of_bgr8 hbgr]
    refine ⟨?_, fun i hi k hk => swapRedBlue_getElem? hi hk⟩
    show (swapRedBlue f.data).size = _
    rw [size_swapRedBlue]
    omega
  · exact (room?_eq_some_iff.1 hg).2.symm

/-- Two pixels of reversed triples; and thirteen bytes in a geometry whose triples, counted
in a word, come to thirteen: brought to RGB they are twelve, and they do not come back. A
program that checks its arithmetic has no length for them. -/
theorem normalize_agrees_thirteen :
    let f : Frame := ⟨2, 1, .bgr8, #[1, 2, 3, 4, 5, 6], 7, 0⟩
    let vast : Frame :=
      ⟨2900561549, 4239809835, .bgr8, #[1, 2, 3, 4, 5, 6, 7, 8, 9, 10, 11, 12, 13], 0, 0⟩
    f.data.size ≤ memoryLimit ∧ f.normalize? ≠ none ∧
      f.IsFilledIn .checked ∧ f.normalize.IsFilledIn .checked ∧
      decodeFrame? .checked #[1, 2, 3, 4, 5, 6] 2 1 .bgr8 7 0 =
        f.normalize?.map (fun g => .ok { g with sequence := 7, timestamp := 0 }) ∧
      { f.normalize with layout := .bgr8 }.normalize.data = f.data ∧
      vast.IsFilledIn .wrapping ∧ ¬vast.normalize.IsFilledIn .wrapping ∧
      vast.normalize.data.size = 12 ∧
      { vast.normalize with layout := .bgr8 }.normalize.data ≠ vast.data ∧
      vast.expectedLength? .checked = none := by
  intro f vast
  have hsize : f.data.size ≤ memoryLimit := by decide
  have hf : f.IsFilledIn .checked := isFilledIn_iff.2 ⟨fun _ => by decide, by decide⟩
  have hvast : vast.IsFilledIn .wrapping := isFilledIn_iff.2 ⟨fun h => (nomatch h), by decide⟩
  obtain ⟨-, -, -, -, -, hroom, -, -, hfilled⟩ := normalize_agrees f .checked
  obtain ⟨hlength, hdecoded, hback⟩ := hfilled hf
  obtain ⟨-, -, -, -, hdropped, -, -, -, hwrapped⟩ := normalize_agrees vast .wrapping
  obtain ⟨-, -, -, -, -, -, -, hpanics, -⟩ := normalize_agrees vast .checked
  obtain ⟨hlength', -, hback'⟩ := hwrapped hvast
  refine ⟨hsize, mt (hroom hsize).1 fun h => (nomatch h.1), hf, hlength.2 (.inr (by decide)),
    hdecoded 7 0, (hback rfl).2 (by decide), hvast, fun h => ?_, (hdropped rfl).1.trans (by decide),
    fun h => ?_, hpanics.2 ⟨rfl, by decide⟩⟩
  · exact absurd (hlength'.1 h) (by decide)
  · exact absurd ((hback' rfl).1 h) (by decide)

end Frame
end FrameGrabber
