import FrameGrabber.Engine
import FrameGrabber.Proofs.Decoding

/-!
# What the size check lets through

Before it decodes a payload the decoder asks whether there are as many bytes as the
geometry needs. The geometry may be any that a transport reports, and the number of bytes
is a word. One byte to a pixel can always be counted in a word, so for plain and mosaic
bytes the check is what it is meant to be. Three bytes to a pixel cannot: where their
number wraps, what is left of it is all that the check asks for, and a payload of no more
bytes than that becomes a frame, with fewer bytes than its geometry has pixels.

Whether the check is sound is a question of the geometry alone, until the payload is
shorter even than what is left of the number. A program that was built to check its
arithmetic is sound in any case, since it panics where the number wraps. Besides, a
payload of one byte to a pixel may be in memory while there is no room for its frame.
-/

namespace FrameGrabber

variable {payload : Bytes} {width height : UInt32} {format : PixelFormat} {sequence : Nat}
  {now : Instant} {needed : Nat}

/-- Is the answer one that the size check is meant to allow, for a payload of which so many
bytes are needed? A frame then has three bytes to each of its pixels, and a payload with
too few bytes is refused for that. -/
structure SizeChecked (payload : Bytes) (width height : UInt32) (needed : Nat)
    (answer : Except CameraError Frame) : Prop where
  whole : ∀ f, answer = .ok f → f.data.size = 3 * (width.toNat * height.toNat)
  refused : payload.size < needed →
    ∃ expected actual, answer = .error (.payloadTooShort expected actual)

/-- A payload is refused if it is shorter than the word says, whatever is needed. -/
theorem decodeFrame_of_lt_word
    (hn : format.needed? (width.toNat * height.toNat) = some needed)
    (hlt : payload.size < needed % UInt64.size) (sequence : Nat) (now : Instant) :
    decodeFrame payload width height format sequence now =
      .error (.payloadTooShort (needed % UInt64.size) payload.size) := by
  obtain ⟨word, develop, hword, hdecode, -⟩ := exists_develop hn
  rw [← hword] at hlt ⊢
  exact decodeFrame_of_error ((hdecode payload).trans (map_leading_of_lt hlt)) sequence now

/-- Any other payload becomes a frame, which is whole if the word says what is needed. -/
theorem decodeFrame_of_word_le
    (hn : format.needed? (width.toNat * height.toNat) = some needed)
    (hle : needed % UInt64.size ≤ payload.size) (sequence : Nat) (now : Instant) :
    ∃ f, decodeFrame payload width height format sequence now = .ok f ∧
      (f.data.size = 3 * (width.toNat * height.toNat) ↔ needed < UInt64.size) := by
  obtain ⟨word, develop, hword, hdecode, hdevelop⟩ := exists_develop hn
  rw [← hword] at hle
  have hcut : (payload.extract 0 word.toNat).size = needed % UInt64.size := by
    rw [← hword]
    simp [hle]
  have hdata := (hdecode payload).trans (map_leading_of_le hle)
  exact ⟨_, decodeFrame_of_pixels hdata sequence now, (hdevelop _ hcut).1⟩

/-- One byte to a pixel can be counted. -/
theorem PixelFormat.needed_lt_of_single (hbytes : format.bytesPerPixel? = some 1)
    (hn : format.needed? (width.toNat * height.toNat) = some needed) :
    needed < UInt64.size := by
  have hcounted : width.toNat * height.toNat < UInt64.size :=
    toNat_pixels width height ▸ UInt64.toNat_lt _
  cases format <;> cases hbytes <;> cases hn <;> exact hcounted

/-- The answer is one that the check is meant to allow where the word says what is needed,
or where even the word is too much. -/
theorem sizeChecked_iff (hn : format.needed? (width.toNat * height.toNat) = some needed) :
    SizeChecked payload width height needed
        (decodeFrame payload width height format sequence now) ↔
      needed < UInt64.size ∨ payload.size < needed % UInt64.size := by
  by_cases hlt : payload.size < needed % UInt64.size
  · have hrefused := decodeFrame_of_lt_word hn hlt sequence now
    refine iff_of_true ⟨fun f hf => ?_, fun _ => ⟨_, _, hrefused⟩⟩ (.inr hlt)
    cases hf.symm.trans hrefused
  · have hle := Nat.not_lt.1 hlt
    obtain ⟨f, hf, hwhole⟩ := decodeFrame_of_word_le hn hle sequence now
    constructor
    · exact fun hchecked => .inl (hwhole.1 (hchecked.whole f hf))
    · intro hcounted
      have hcounts := hcounted.resolve_right hlt
      refine ⟨fun f' hf' => ?_, fun hshort => ?_⟩
      · cases hf.symm.trans hf'
        exact hwhole.2 hcounts
      · rw [Nat.mod_eq_of_lt hcounts] at hlt
        exact absurd hshort hlt

/-- A frame has the bytes of its payload at most, or it was one byte to a pixel. -/
theorem size_of_decodeFrame {f : Frame}
    (hn : format.needed? (width.toNat * height.toNat) = some needed)
    (h : decodeFrame payload width height format sequence now = .ok f) :
    f.data.size ≤ payload.size ∨ format.bytesPerPixel? = some 1 ∧ f.data.size = 3 * needed := by
  have hleading : ∀ {word : UInt64} {cut : Bytes}, leading payload word = .ok cut →
      cut.size ≤ payload.size := by
    intro word cut hcut
    unfold leading at hcut
    split at hcut
    · cases hcut
      simp
    · cases hcut
  have hsingle : format.bytesPerPixel? = some 1 → needed = width.toNat * height.toNat →
      f.data.size = 3 * needed := by
    intro hbytes hpixels
    have hcounted := PixelFormat.needed_lt_of_single hbytes hn
    have hle : needed % UInt64.size ≤ payload.size := Nat.le_of_not_lt fun hlt =>
      nomatch h.symm.trans (decodeFrame_of_lt_word hn hlt sequence now)
    obtain ⟨f', hf', hwhole⟩ := decodeFrame_of_word_le hn hle sequence now
    cases h.symm.trans hf'
    rw [hwhole.2 hcounted, hpixels]
  obtain ⟨data, hdata, hf⟩ := decodeFrame_eq_ok h
  cases format with
  | mono8 | bayerRG8 =>
      cases hn
      exact .inr ⟨rfl, hsingle rfl rfl⟩
  | rgb8 =>
      rw [hf]
      exact .inl (hleading hdata)
  | bgr8 =>
      rw [hf]
      rw [decodePixels] at hdata
      rcases hcut : leading payload (width.toUInt64 * height.toUInt64 * 3) with e | cut <;>
        rw [hcut] at hdata
      · cases hdata
      · cases hdata
        have hle := hleading hcut
        refine .inl ?_
        show (swapRedBlue cut).size ≤ _
        rw [size_swapRedBlue]
        omega
  | mono16 | bayerGR8 | bayerGB8 | bayerBG8 | yuv422 | other name => cases hn

/-- What a program panics over that decodes a payload which is in memory. -/
theorem decodeFrame?_panics_iff (hpayload : payload.size ≤ memoryLimit)
    (hn : format.needed? (width.toNat * height.toNat) = some needed) {b : Build} :
    decodeFrame? b payload width height format sequence now = none ↔
      b = .checked ∧ UInt64.size ≤ needed ∨
        format.bytesPerPixel? = some 1 ∧ needed ≤ payload.size ∧ memoryLimit < 3 * needed := by
  rw [decodeFrame?_eq_none_iff, hn, Option.getD_some]
  refine or_congr_right ⟨fun ⟨f, hf, hlimit⟩ => ?_, fun ⟨hbytes, hle, hlimit⟩ => ?_⟩
  · obtain ⟨hbytes, hsize⟩ := (size_of_decodeFrame hn hf).resolve_left
      fun hle => Nat.not_le.2 hlimit (Nat.le_trans hle hpayload)
    have hword := Nat.mod_eq_of_lt (PixelFormat.needed_lt_of_single hbytes hn)
    refine ⟨hbytes, Nat.le_of_not_lt fun hlt => ?_, hsize ▸ hlimit⟩
    cases hf.symm.trans (decodeFrame_of_lt_word hn (by rwa [hword]) sequence now)
  · have hcounted := PixelFormat.needed_lt_of_single hbytes hn
    obtain ⟨f, hf, hwhole⟩ :=
      decodeFrame_of_word_le hn (by rwa [Nat.mod_eq_of_lt hcounted]) sequence now
    have hneeded : needed = width.toNat * height.toNat := by
      cases format <;> cases hbytes <;> cases hn <;> rfl
    refine ⟨f, hf, ?_⟩
    rwa [hwhole.2 hcounted, ← hneeded]

/-- What comes of the size check of the decoder, where the decoder gives an answer. It
allows what it is meant to allow just where the bytes that are needed can be counted in a
word, or else where the payload has not even as many bytes as are left of their number; so
it does for every geometry if there is one byte to a pixel. It refuses the payloads that
are shorter than the word says and tells them so, and each other payload becomes a frame.

There is no answer in two cases: a program that was built to check its arithmetic panics
where the bytes that are needed cannot be counted, so that each of its answers is sound; and
any program panics where a payload of one byte to a pixel is long enough and there is no
room for its frame. -/
theorem decodeFrame_lets_through (payload : Bytes) (hpayload : payload.size ≤ memoryLimit)
    (width height : UInt32) (format : PixelFormat) (sequence : Nat) (now : Instant)
    {needed : Nat} (hn : format.needed? (width.toNat * height.toNat) = some needed)
    (b : Build) :
    (decodeFrame? b payload width height format sequence now = none ↔
      b = .checked ∧ UInt64.size ≤ needed ∨
        format.bytesPerPixel? = some 1 ∧ needed ≤ payload.size ∧ memoryLimit < 3 * needed) ∧
    (∀ answer, decodeFrame? b payload width height format sequence now = some answer →
      (SizeChecked payload width height needed answer ↔
        needed < UInt64.size ∨ payload.size < needed % UInt64.size) ∧
      (payload.size < needed % UInt64.size →
        answer = .error (.payloadTooShort (needed % UInt64.size) payload.size)) ∧
      (needed % UInt64.size ≤ payload.size → ∃ f, answer = .ok f) ∧
      (b = .checked → SizeChecked payload width height needed answer)) ∧
    (format.bytesPerPixel? = some 1 → needed < UInt64.size) := by
  refine ⟨decodeFrame?_panics_iff hpayload hn, fun answer hanswer => ?_,
    fun hbytes => PixelFormat.needed_lt_of_single hbytes hn⟩
  have hchecked : SizeChecked payload width height needed answer ↔
      needed < UInt64.size ∨ payload.size < needed % UInt64.size := by
    rw [← decodeFrame_of_decodeFrame? hanswer]
    exact sizeChecked_iff hn
  refine ⟨hchecked, fun hlt => ?_, fun hle => ?_, fun hb => hchecked.2 (.inl ?_)⟩
  · rw [← decodeFrame_of_decodeFrame? hanswer]
    exact decodeFrame_of_lt_word hn hlt sequence now
  · obtain ⟨f, hf, -⟩ := decodeFrame_of_word_le hn hle sequence now
    exact ⟨f, (decodeFrame_of_decodeFrame? hanswer).symm.trans hf⟩
  · refine Nat.lt_of_not_le fun hwraps => ?_
    rw [(decodeFrame?_panics_iff hpayload hn).2 (.inl ⟨hb, hwraps⟩)] at hanswer
    cases hanswer

/-- A transport reports a geometry whose triples, counted in a word, come to thirteen bytes.
Twelve bytes are too few. Thirteen go through the check and are a frame that is not whole,
and so it is with every engine that decodes a buffer with this report. A program that was
built to check its arithmetic panics over all of them. -/
theorem decodeFrame_lets_through_thirteen :
    let payload : Bytes := #[1, 2, 3, 4, 5, 6, 7, 8, 9, 10, 11, 12, 13]
    let needed := 36893488147419103245
    payload.size ≤ memoryLimit ∧
      PixelFormat.rgb8.needed? ((2900561549 : UInt32).toNat * (4239809835 : UInt32).toNat) =
        some needed ∧
      payload.size < needed ∧
      (∃ f, decodeFrame? .wrapping payload 2900561549 4239809835 .rgb8 0 0 = some (.ok f) ∧
        ¬SizeChecked payload 2900561549 4239809835 needed (.ok f)) ∧
      decodeFrame? .wrapping (payload.extract 0 12) 2900561549 4239809835 .rgb8 0 0 =
        some (.error (.payloadTooShort 13 12)) ∧
      decodeFrame? .checked payload 2900561549 4239809835 .rgb8 0 0 = none ∧
      ∀ (e : Engine) (b : Buffer), b.payload = payload →
        b.info = some ⟨2900561549, 4239809835, .rgb8⟩ →
          (∃ f, e.decode? .wrapping b 0 = some (.ok f)) ∧ e.decode? .checked b 0 = none := by
  intro payload needed
  have hpayload : payload.size ≤ memoryLimit := by decide
  have hn : PixelFormat.rgb8.needed? ((2900561549 : UInt32).toNat *
      (4239809835 : UInt32).toNat) = some needed := by decide
  have hanswers : ∀ (bytes : Bytes) (sequence : Nat), bytes.size ≤ memoryLimit →
      ∃ answer, decodeFrame? .wrapping bytes 2900561549 4239809835 .rgb8 sequence 0 =
        some answer := by
    intro bytes sequence hbytes
    refine Option.ne_none_iff_exists'.1 (mt (decodeFrame_lets_through bytes hbytes 2900561549
      4239809835 .rgb8 sequence 0 hn .wrapping).1.1 ?_)
    rintro (⟨hb, -⟩ | ⟨hb, -⟩) <;> cases hb
  have hframe : ∀ sequence, ∃ f,
      decodeFrame? .wrapping payload 2900561549 4239809835 .rgb8 sequence 0 = some (.ok f) := by
    intro sequence
    obtain ⟨answer, hanswer⟩ := hanswers payload sequence hpayload
    obtain ⟨-, hthrough, -⟩ := decodeFrame_lets_through payload hpayload 2900561549 4239809835
      .rgb8 sequence 0 hn .wrapping
    obtain ⟨f, rfl⟩ := (hthrough answer hanswer).2.2.1 (by decide)
    exact ⟨f, hanswer⟩
  have hpanics : ∀ sequence,
      decodeFrame? .checked payload 2900561549 4239809835 .rgb8 sequence 0 = none :=
    fun sequence => (decodeFrame_lets_through payload hpayload 2900561549 4239809835 .rgb8
      sequence 0 hn .checked).1.2 (.inl ⟨rfl, by decide⟩)
  refine ⟨hpayload, hn, by decide, ?_, ?_, hpanics 0, fun e b hbytes hinfo => ?_⟩
  · obtain ⟨f, hf⟩ := hframe 0
    refine ⟨f, hf, ?_⟩
    rw [((decodeFrame_lets_through payload hpayload 2900561549 4239809835 .rgb8 0 0 hn
      .wrapping).2.1 _ hf).1]
    decide
  · have hshort : (payload.extract 0 12).size ≤ memoryLimit := by decide
    obtain ⟨answer, hanswer⟩ := hanswers (payload.extract 0 12) 0 hshort
    obtain ⟨-, hthrough, -⟩ := decodeFrame_lets_through (payload.extract 0 12) hshort 2900561549
      4239809835 .rgb8 0 0 hn .wrapping
    rw [hanswer, (hthrough answer hanswer).2.1 (by decide)]
    decide
  · simp only [Engine.decode?, hinfo, hbytes]
    exact ⟨hframe e.sequence, hpanics e.sequence⟩

end FrameGrabber
