import FrameGrabber.Proofs.Interpolation
import FrameGrabber.Sim.Painting

/-!
# What the camera draws is what the decoder shows

Drawing and decoding are written apart, each with its own idea of where a byte goes:
the one goes over the sites and stores what a format has for each, the other takes
the bytes of a payload together to pixels again. They agree where the payload of a
site can be said byte by byte.

For drawing that is the invariant of the loop. After some sites the region is the
payload of these sites followed by what it held before, so after all of them nothing
of what it held is left, if it is exactly as long as the picture. A region that is
shorter gives out at some site. The camera asks for a region of as many bytes as the
64-bit word of its payload says, and this is where it matters that the word can wrap.

For decoding it is one look at the places of a site in each format. Only the mosaic
needs more: a colour that a site does not sample is a mean over its neighbours, which
is the colour of the scene if these all look at the same of it. The scene is the same
all along a column, so what counts is the columns.
-/

namespace FrameGrabber
namespace Pattern

open Mosaic

variable {format : PixelFormat} {w h tick x y : Nat}

/-! ## The scene -/

theorem barIndex_lt (x w tick : Nat) : barIndex x w tick < 8 := by
  have hpos : 0 < max w 1 := Nat.lt_of_lt_of_le Nat.zero_lt_one (Nat.le_max_right w 1)
  have hshift : (x + tick) % max w 1 < max w 1 := Nat.mod_lt _ hpos
  show (x + tick) % max w 1 * 8 / max w 1 < 8
  rw [Nat.div_lt_iff_lt_mul hpos]
  omega

theorem scene_add_width (x w tick : Nat) : scene x w (tick + w) = scene x w tick := by
  have hshift : (x + (tick + w)) % max w 1 = (x + tick) % max w 1 := by
    cases w with
    | zero => rfl
    | succ w => rw [Nat.max_eq_left (by omega), ← Nat.add_assoc, Nat.add_mod_right]
  rw [scene, scene, barIndex, barIndex, hshift]

theorem size_scene (x w tick : Nat) : (scene x w tick).size = 3 := by
  have hbars : ∀ i : Fin 8, (bars.getD i #[]).size = 3 := by decide
  exact hbars ⟨barIndex x w tick, barIndex_lt x w tick⟩

theorem scene_getElem? (x w tick : Nat) {k : Nat} (hk : k < 3) :
    (scene x w tick)[k]? = some (sceneChannel x w tick k) := by
  have hlt : k < (scene x w tick).size := by rw [size_scene]; exact hk
  simp [sceneChannel, hlt]

/-! ## Drawing -/

theorem store?_eq_some {place : Nat} {bytes region region' : Bytes}
    (h : store? place bytes region = some region') :
    region'.size = region.size ∧ ∀ j, region'[j]? =
      if place ≤ j ∧ j < place + bytes.size then bytes[j - place]? else region[j]? := by
  unfold store? at h
  split at h
  · next hfits =>
    injection h with h
    subst h
    have hplace : min place region.size = place := Nat.min_eq_left (by omega)
    refine ⟨by simp; omega, fun j => ?_⟩
    by_cases hbefore : j < place
    · have hout : ¬(place ≤ j ∧ j < place + bytes.size) := by omega
      simp [Array.getElem?_append, hplace, hout, hbefore]
    · by_cases hin : j < place + bytes.size
      · have hoffset : j - place < bytes.size := by omega
        simp [Array.getElem?_append, hplace, hin, hbefore, hoffset, Nat.not_lt.1 hbefore]
      · have hoffset : ¬j - place < bytes.size := by omega
        have hback : place + bytes.size + (j - place - bytes.size) = j := by omega
        simp [Array.getElem?_append, Array.getElem?_extract, hplace, hin, hbefore, hoffset,
          hback]
        omega
  · cases h

/-- The region after as many pixels of a size as `n` says, one behind the other. -/
structure Painted (size n : Nat) (pixels : Nat → Bytes) (region region' : Bytes) : Prop where
  length : region'.size = region.size
  drawn : ∀ i < n, ∀ k < size, region'[i * size + k]? = (pixels i)[k]?
  rest : ∀ j, n * size ≤ j → region'[j]? = region[j]?

theorem Painted.store {size n : Nat} {pixels : Nat → Bytes} {region region₁ region₂ : Bytes}
    (h : Painted size n pixels region region₁) (hsize : (pixels n).size = size)
    (hstore : store? (n * size) (pixels n) region₁ = some region₂) :
    Painted size (n + 1) pixels region region₂ := by
  obtain ⟨hkept, hbytes⟩ := store?_eq_some hstore
  rw [hsize] at hbytes
  refine ⟨hkept.trans h.length, fun i hi k hk => ?_, fun j hj => ?_⟩
  · rw [hbytes]
    by_cases hlast : i = n
    · subst hlast
      rw [if_pos (by omega), Nat.add_sub_cancel_left]
    · have hin : i < n := by omega
      have hbefore : i * size + k < n * size := Nat.mul_comm size n ▸ site_lt hk hin
      rw [if_neg (by omega), h.drawn i hin k hk]
  · rw [Nat.succ_mul] at hj
    rw [hbytes, if_neg (by omega), h.rest j (by omega)]

/-- Pixels go into a region one behind the other, or end beyond it. -/
theorem storeAll_cases {size : Nat} {pixels : Nat → Bytes} (hsize : ∀ i, (pixels i).size = size)
    (n : Nat) (region : Bytes) :
    (n * size ≤ region.size ∧ ∃ region', (List.range n).foldlM
        (fun region i => store? (i * size) (pixels i) region) region = some region' ∧
          Painted size n pixels region region') ∨
      region.size < n * size ∧ (List.range n).foldlM
        (fun region i => store? (i * size) (pixels i) region) region = none := by
  -- Whether the next pixel fits depends on the length of the region only, which no
  -- pixel before it has changed; once one did not fit, none is tried any more.
  induction n with
  | zero => exact .inl ⟨by omega, region, rfl, rfl, by omega, fun _ _ => rfl⟩
  | succ n ih =>
      rw [List.range_succ, List.foldlM_append, Nat.succ_mul]
      rcases ih with ⟨hfits, region₁, hfold, hpainted⟩ | ⟨hover, hfold⟩ <;> rw [hfold]
      · by_cases hlast : n * size + size ≤ region.size
        · have hstore : (store? (n * size) (pixels n) region₁).isSome := by
            rw [store?, hsize, hpainted.length, if_pos hlast]
            rfl
          obtain ⟨region₂, hregion⟩ := Option.isSome_iff_exists.1 hstore
          refine .inl ⟨hlast, region₂, ?_, hpainted.store (hsize n) hregion⟩
          simp [hregion]
        · have hstore : store? (n * size) (pixels n) region₁ = none := by
            rw [store?, hsize, hpainted.length, if_neg hlast]
          exact .inr ⟨by omega, by simp [hstore]⟩
      · exact .inr ⟨by omega, rfl⟩

/-- Row after row, the sites are counted through. -/
theorem sites_eq (w h : Nat) : sites w h = (List.range (h * w)).map fun i => (i % w, i / w) := by
  induction h with
  | zero => simp [sites]
  | succ h ih =>
      have hrow : (List.range w).map (fun x => ((h * w + x) % w, (h * w + x) / w)) =
          (List.range w).map fun x => (x, h) := by
        apply List.map_congr_left
        intro x hx
        have hx : x < w := List.mem_range.1 hx
        rw [column_of_site hx, row_of_site hx]
      have hrows : sites w (h + 1) = sites w h ++ (List.range w).map fun x => (x, h) := by
        simp [sites, List.range_succ]
      rw [hrows, ih, Nat.succ_mul, List.range_add, List.map_append, List.map_map, ← hrow]
      rfl

theorem size_pixel (format : PixelFormat) (w tick x y : Nat) :
    (pixel format w tick x y).size = format.bytesPerPixel?.getD 1 := by
  simp [pixel]

theorem pixel_getElem? {k : Nat} (hk : k < format.bytesPerPixel?.getD 1) :
    (pixel format w tick x y)[k]? = some (byteAt format w tick x y k) := by
  rw [pixel, Array.getElem?_ofFn]
  simp only [hk, dif_pos]

theorem payload_getElem? {k : Nat} (hx : x < w) (hy : y < h)
    (hk : k < format.bytesPerPixel?.getD 1) :
    (payload format w h tick)[(y * w + x) * format.bytesPerPixel?.getD 1 + k]? =
      some (byteAt format w tick x y k) := by
  have hlt : (y * w + x) * format.bytesPerPixel?.getD 1 + k <
      w * h * format.bytesPerPixel?.getD 1 :=
    Nat.mul_comm _ (w * h) ▸ site_lt hk (site_lt hx hy)
  rw [payload, Array.getElem?_ofFn]
  simp only [hlt, column_of_site hk, row_of_site hk, column_of_site hx, row_of_site hx,
    dif_pos]

theorem paint?_eq (format : PixelFormat) (w h tick : Nat) (region : Bytes) :
    paint? format w h tick region = (List.range (w * h)).foldlM
      (fun region i => store? (i * format.bytesPerPixel?.getD 1)
        (pixel format w tick (i % w) (i / w)) region) region := by
  rw [paint?, sites_eq, List.foldlM_map, Nat.mul_comm h w]
  congr 1
  funext region i
  simp only [Nat.div_add_mod']

theorem Painted.eq_payload {region region' : Bytes}
    (hpainted : Painted (format.bytesPerPixel?.getD 1) (w * h)
      (fun i => pixel format w tick (i % w) (i / w)) region region')
    (hregion : region.size = w * h * format.bytesPerPixel?.getD 1) :
    region' = payload format w h tick := by
  have hlength := hpainted.length
  have hsize := size_payload format w h tick
  apply Array.ext_getElem?
  intro j
  by_cases hj : j < w * h * format.bytesPerPixel?.getD 1
  · -- A place in the payload is a byte of a pixel, and a pixel is at a site.
    obtain ⟨k, i, hk, hi, rfl⟩ := exists_site (Nat.mul_comm _ (w * h) ▸ hj)
    obtain ⟨x, y, hx, hy, rfl⟩ := exists_site hi
    rw [hpainted.drawn _ hi k hk, payload_getElem? hx hy hk, column_of_site hx,
      row_of_site hx, pixel_getElem? hk]
  · rw [Array.getElem?_eq_none (by omega), Array.getElem?_eq_none (by omega)]

/-- A region of the size of the picture holds the picture afterwards, whatever it held
before. In a shorter one the picture cannot be drawn. -/
theorem paint?_of_le (format : PixelFormat) (w h tick : Nat) {region : Bytes}
    (hregion : region.size ≤ w * h * format.bytesPerPixel?.getD 1) :
    paint? format w h tick region =
      if region.size = w * h * format.bytesPerPixel?.getD 1 then
        some (payload format w h tick)
      else none := by
  have hpixels : ∀ i, (pixel format w tick (i % w) (i / w)).size =
      format.bytesPerPixel?.getD 1 := fun i => size_pixel format w tick _ _
  rw [paint?_eq]
  rcases storeAll_cases hpixels (w * h) region with
    ⟨hfits, region', hfold, hpainted⟩ | ⟨hover, hfold⟩ <;> rw [hfold]
  · have hwhole := Nat.le_antisymm hregion hfits
    rw [if_pos hwhole, hpainted.eq_payload hwhole]
  · rw [if_neg (Nat.ne_of_lt hover)]

end Pattern

/-! ## Exposing -/

theorem Pattern.paint?_granted (r : Registers) (tick : Nat) {region : Bytes}
    (hregion : region.size = r.payloadSize.toNat) :
    paint? r.format r.width.toNat r.height.toNat tick region =
      if r.pictureSize < UInt64.size then
        some (payload r.format r.width.toNat r.height.toNat tick)
      else none := by
  have hle : region.size ≤ r.pictureSize := hregion ▸ r.payloadSize_le
  rw [paint?_of_le _ _ _ _ hle, hregion]
  exact if_congr r.toNat_payloadSize_eq_iff rfl rfl

namespace Camera

variable {c : Camera} {r : Registers} {tick : Nat} {b : Buffer}

/-- A good frame is drawn into the region that is granted, pixel by pixel. The camera
breaks down where it cannot be. -/
theorem exposure?_eq_paint (c : Camera) (r : Registers) (tick : Nat) (b : Buffer) :
    c.exposure? r tick b =
      if c.fails tick then some (b.setStatus .timeout)
      else match b.grant? r.payloadSize.toNat with
        | none => some (b.setStatus .aborted)
        | some b =>
          (Pattern.paint? r.format r.width.toNat r.height.toNat tick b.payload).map
            fun bytes => ((b.overwrite bytes).setStatus .success).setInfo
              ⟨r.width, r.height, r.format⟩ := by
  unfold exposure? overruns expose
  cases c.fails tick with
  | true => rfl
  | false =>
      by_cases hgrant : r.payloadSize.toNat ≤ b.capacity
      · simp only [Buffer.grant?, if_pos hgrant, ← r.toNat_payloadSize_eq_iff,
          Pattern.paint?_granted r tick (Buffer.size_payload_granted hgrant)]
        by_cases hwhole : r.payloadSize.toNat = r.pictureSize
        · simp [hwhole]
        · have hshort : r.payloadSize.toNat < r.pictureSize :=
            Nat.lt_of_le_of_ne r.payloadSize_le hwhole
          simp [hgrant, hwhole, hshort]
      · simp [Buffer.grant?, hgrant]

/-- What a good frame leaves of a buffer of the size of a payload is its identity. -/
theorem exposure?_of_good (hgood : c.fails tick = false)
    (hcapacity : b.capacity = r.payloadSize.toNat) :
    c.exposure? r tick b =
      if r.pictureSize < UInt64.size then
        some ⟨b.id, Pattern.payload r.format r.width.toNat r.height.toNat tick,
          r.payloadSize.toNat, .success, some ⟨r.width, r.height, r.format⟩⟩
      else none := by
  have hmemory : b.memory.size = r.payloadSize.toNat := hcapacity
  have hgrant : r.payloadSize.toNat ≤ b.capacity := Nat.le_of_eq hcapacity.symm
  rw [exposure?_eq_paint, hgood]
  simp only [Bool.false_eq_true, if_false, Buffer.grant?, if_pos hgrant,
    Pattern.paint?_granted r tick (Buffer.size_payload_granted hgrant)]
  split
  · next hpicture =>
      have hword := r.toNat_payloadSize_eq_iff.2 hpicture
      have hsize := Pattern.size_payload r.format r.width.toNat r.height.toNat tick
      have hnone : b.memory.extract
          (Pattern.payload r.format r.width.toNat r.height.toNat tick).size
          b.memory.size = #[] := by
        apply Array.extract_empty_of_stop_le_start
        rw [hmemory, hword, hsize, Registers.pictureSize]
      simp only [Option.map_some, Buffer.overwrite, Buffer.setStatus, Buffer.setInfo, hnone,
        Array.append_empty]
  · rfl

end Camera

/-! ## Decoding -/

/-- The three bytes of a pixel. -/
def Frame.pixel (f : Frame) (x y : Nat) : Bytes :=
  f.data.extract ((y * f.width.toNat + x) * 3) ((y * f.width.toNat + x) * 3 + 3)

theorem Frame.pixel_getElem? (f : Frame) (x y : Nat) {k : Nat} (hk : k < 3) :
    (f.pixel x y)[k]? = f.data[(y * f.width.toNat + x) * 3 + k]? := by
  rw [pixel, Array.getElem?_extract]
  split
  · rfl
  · rw [Array.getElem?_eq_none (by omega)]

theorem Frame.pixel_eq {f : Frame} {x y : Nat} {bytes : Bytes} (hsize : bytes.size = 3)
    (h : ∀ k < 3, f.data[(y * f.width.toNat + x) * 3 + k]? = bytes[k]?) :
    f.pixel x y = bytes := by
  apply Array.ext_getElem?
  intro k
  by_cases hk : k < 3
  · rw [f.pixel_getElem? x y hk, h k hk]
  · have hle : (f.pixel x y).size ≤ 3 := by
      rw [pixel, Array.size_extract]
      omega
    rw [Array.getElem?_eq_none (by omega), Array.getElem?_eq_none (by omega)]

namespace Pattern

open Mosaic

variable {w h tick x y : Nat}

/-- The two orders of triples come to the same. -/
theorem swapRedBlue_bgr8 (w h tick : Nat) :
    swapRedBlue (payload .bgr8 w h tick) = payload .rgb8 w h tick := by
  have hsize : (payload .bgr8 w h tick).size = w * h * 3 := size_payload .bgr8 w h tick
  have hswapped : (swapRedBlue (payload .bgr8 w h tick)).size = w * h * 3 := by
    rw [size_swapRedBlue, hsize]
    omega
  refine picture_ext (w := w) (h := h) hswapped (size_payload .rgb8 w h tick) ?_
  intro x y c hx hy
  have hc := index_lt c
  have hi : y * w + x < (payload .bgr8 w h tick).size / 3 := by
    rw [hsize, Nat.mul_div_cancel _ (by decide)]
    exact site_lt hx hy
  have hback : 2 - (2 - c.index) = c.index := by omega
  have hbgr : (payload .bgr8 w h tick)[(y * w + x) * 3 + (2 - c.index)]? =
      some (sceneChannel x w tick (2 - (2 - c.index))) :=
    payload_getElem? hx hy (show 2 - c.index < 3 by omega)
  have hrgb : (payload .rgb8 w h tick)[(y * w + x) * 3 + c.index]? =
      some (sceneChannel x w tick c.index) := payload_getElem? hx hy hc
  rw [swapRedBlue_getElem? hi hc, hbgr, hrgb, hback]

/-- What the mosaic has at a site. -/
theorem bayer_getElem? (hx : x < w) (hy : y < h) :
    (payload .bayerRG8 w h tick)[y * w + x]? =
      some (sceneChannel x w tick (sampled x y).index) := by
  have hbyte : (payload .bayerRG8 w h tick)[(y * w + x) * 1 + 0]? =
      some (sceneChannel x w tick (sampled x y).index) :=
    payload_getElem? hx hy (show 0 < 1 by decide)
  rwa [Nat.mul_one, Nat.add_zero] at hbyte

/-- The columns beside this one that are in the picture show the same of the scene. -/
def EvenAt (w tick x : Nat) : Prop :=
  ∀ x' < w, x' ≤ x + 1 → x ≤ x' + 1 → scene x' w tick = scene x w tick

theorem demosaic_even (hw : 2 ≤ w) (hh : 2 ≤ h) (hx : x < w) (hy : y < h)
    (heven : EvenAt w tick x) (c : Colour) :
    (demosaic (payload .bayerRG8 w h tick) w h)[(y * w + x) * 3 + c.index]? =
      some (sceneChannel x w tick c.index) := by
  have hraw : (payload .bayerRG8 w h tick).size = w * h := by
    rw [size_payload]
    exact Nat.mul_one _
  -- Every sample of the colour is of a column beside this one, so it is the one value.
  rw [(interpolates hraw hx hy c).stored]
  refine congrArg some (mean_of_forall (samples_ne_nil hraw hw hh hx hy c) fun a ha => ?_)
  obtain ⟨x', y', ⟨hx', hy'⟩, ⟨hright, hleft⟩, hc, rfl⟩ := mem_samples hraw ha
  rw [Array.getD_eq_getD_getElem?, bayer_getElem? hx' hy', hc, sceneChannel,
    heven x' hx' hright hleft]
  rfl

/-! ## Each format -/

variable {width height : UInt32}

theorem decode_triples (tick sequence : Nat) (now : Instant)
    (hword : width.toNat * height.toNat * 3 < UInt64.size) :
    ∃ f,
      decodeFrame (payload .rgb8 width.toNat height.toNat tick) width height .rgb8 sequence
        now = .ok f ∧
      decodeFrame (payload .bgr8 width.toNat height.toNat tick) width height .bgr8 sequence
        now = .ok f ∧
      f.data.size = width.toNat * height.toNat * 3 ∧
      ∀ x y, x < width.toNat → y < height.toNat →
        f.pixel x y = scene x width.toNat tick := by
  have hneeded : (width.toUInt64 * height.toUInt64 * 3).toNat =
      width.toNat * height.toNat * 3 := by
    rw [toNat_triples, Nat.mul_comm 3]
    exact Nat.mod_eq_of_lt hword
  have hrgb : (payload .rgb8 width.toNat height.toNat tick).size =
      width.toNat * height.toNat * 3 := size_payload .rgb8 _ _ tick
  have hbgr : (payload .bgr8 width.toNat height.toNat tick).size =
      width.toNat * height.toNat * 3 := size_payload .bgr8 _ _ tick
  have hplain : decodePixels (payload .rgb8 width.toNat height.toNat tick) width height .rgb8 =
      .ok (payload .rgb8 width.toNat height.toNat tick) :=
    leading_whole (hrgb.trans hneeded.symm)
  have hswapped : decodePixels (payload .bgr8 width.toNat height.toNat tick) width height
      .bgr8 = .ok (payload .rgb8 width.toNat height.toNat tick) := by
    rw [decodePixels, leading_whole (hbgr.trans hneeded.symm), Except.map_ok, swapRedBlue_bgr8]
  refine ⟨_, decodeFrame_of_pixels hplain sequence now,
    decodeFrame_of_pixels hswapped sequence now, hrgb,
    fun x y hx hy => Frame.pixel_eq (size_scene _ _ tick) fun k hk => ?_⟩
  rw [scene_getElem? _ _ _ hk]
  exact payload_getElem? hx hy hk

theorem decode_ramp (width height : UInt32) (tick sequence : Nat) (now : Instant) :
    ∃ f,
      decodeFrame (payload .mono8 width.toNat height.toNat tick) width height .mono8 sequence
        now = .ok f ∧
      f.data.size = width.toNat * height.toNat * 3 ∧
      ∀ x y, x < width.toNat → y < height.toNat →
        ∃ v : UInt8, f.pixel x y = #[v, v, v] ∧ v.toNat = (x + y + tick) % 256 := by
  have hsize : (payload .mono8 width.toNat height.toNat tick).size =
      width.toNat * height.toNat := (size_payload .mono8 _ _ tick).trans (Nat.mul_one _)
  have hdata : decodePixels (payload .mono8 width.toNat height.toNat tick) width height .mono8 =
      .ok (grayToRgb (payload .mono8 width.toNat height.toNat tick)) := by
    rw [decodePixels, leading_whole (hsize.trans (toNat_pixels width height).symm),
      Except.map_ok]
  refine ⟨_, decodeFrame_of_pixels hdata sequence now, ?_, fun x y hx hy =>
    ⟨(x + y + tick).toUInt8, Frame.pixel_eq rfl fun k hk => ?_, by simp⟩⟩
  · rw [size_grayToRgb, hsize, Nat.mul_comm]
  · have hbyte : (payload .mono8 width.toNat height.toNat tick)[(y * width.toNat + x) * 1 + 0]? =
        some (x + y + tick).toUInt8 := payload_getElem? hx hy (show 0 < 1 by decide)
    rw [Nat.mul_one, Nat.add_zero] at hbyte
    rw [grayToRgb_getElem? _ _ hk, hbyte]
    obtain rfl | rfl | rfl : k = 0 ∨ k = 1 ∨ k = 2 := by omega
    all_goals rfl

theorem decode_mosaic (width height : UInt32) (tick sequence : Nat) (now : Instant) :
    ∃ f,
      decodeFrame (payload .bayerRG8 width.toNat height.toNat tick) width height .bayerRG8
        sequence now = .ok f ∧
      f.data.size = width.toNat * height.toNat * 3 ∧
      ∀ x y, x < width.toNat → y < height.toNat →
        (f.pixel x y)[(sampled x y).index]? =
          some (sceneChannel x width.toNat tick (sampled x y).index) ∧
        (2 ≤ width.toNat → 2 ≤ height.toNat → EvenAt width.toNat tick x →
          f.pixel x y = scene x width.toNat tick) := by
  have hsize : (payload .bayerRG8 width.toNat height.toNat tick).size =
      width.toNat * height.toNat := (size_payload .bayerRG8 _ _ tick).trans (Nat.mul_one _)
  have hdata : decodePixels (payload .bayerRG8 width.toNat height.toNat tick) width height
      .bayerRG8 = .ok (demosaic (payload .bayerRG8 width.toNat height.toNat tick) width.toNat
        height.toNat) := by
    rw [decodePixels, leading_whole (hsize.trans (toNat_pixels width height).symm),
      Except.map_ok]
  refine ⟨_, decodeFrame_of_pixels hdata sequence now, ?_, fun x y hx hy =>
    ⟨?_, fun hw hh heven => Frame.pixel_eq (size_scene _ _ tick) fun k hk => ?_⟩⟩
  · exact size_demosaic _ _ _
  · have hbyte := interpolates hsize hx hy (sampled x y)
    rw [Frame.pixel_getElem? _ _ _ (index_lt _), hbyte.stored, ← hbyte.own rfl]
    exact bayer_getElem? hx hy
  · rw [scene_getElem? _ _ _ hk, ← index_ofIndex hk]
    exact demosaic_even hw hh hx hy heven _

/-- The camera and the decoder agree, for every width and height, at every tick.

A region of as many bytes as the payload is drawn upon pixel by pixel: if the word of
its size has not wrapped, nothing is left of what was there, and a good frame depends on
the identity of its buffer and on nothing else in it. If it has wrapped the picture does
not fit, and the camera breaks down.

The two orders of triples are decoded to one frame, which shows the scene; the ramp to
three times its level; the mosaic to what was sampled, and to all of the scene where
the columns on either side show the same of it. The scene has eight bars and comes
around after as many ticks as it has columns. -/
theorem decoded_as_drawn (width height : UInt32) (tick sequence : Nat) (now : Instant) :
    (∀ (c : Camera) (r : Registers), r.width = width → r.height = height →
      (∀ region : Bytes, region.size = r.payloadSize.toNat →
        paint? r.format width.toNat height.toNat tick region =
          if width.toNat * height.toNat * r.format.bytesPerPixel?.getD 1 < UInt64.size then
            some (payload r.format width.toNat height.toNat tick)
          else none) ∧
      (c.fails tick = false → ∀ b : Buffer, b.capacity = r.payloadSize.toNat →
        c.exposure? r tick b =
          if width.toNat * height.toNat * r.format.bytesPerPixel?.getD 1 < UInt64.size then
            some ⟨b.id, payload r.format width.toNat height.toNat tick, r.payloadSize.toNat,
              .success, some ⟨width, height, r.format⟩⟩
          else none)) ∧
    (width.toNat * height.toNat * 3 < UInt64.size → ∃ f,
      decodeFrame (payload .rgb8 width.toNat height.toNat tick) width height .rgb8 sequence
        now = .ok f ∧
      decodeFrame (payload .bgr8 width.toNat height.toNat tick) width height .bgr8 sequence
        now = .ok f ∧
      f.data.size = width.toNat * height.toNat * 3 ∧
      ∀ x y, x < width.toNat → y < height.toNat →
        f.pixel x y = scene x width.toNat tick) ∧
    (∃ f,
      decodeFrame (payload .mono8 width.toNat height.toNat tick) width height .mono8 sequence
        now = .ok f ∧
      f.data.size = width.toNat * height.toNat * 3 ∧
      ∀ x y, x < width.toNat → y < height.toNat →
        ∃ v : UInt8, f.pixel x y = #[v, v, v] ∧ v.toNat = (x + y + tick) % 256) ∧
    (∃ f,
      decodeFrame (payload .bayerRG8 width.toNat height.toNat tick) width height .bayerRG8
        sequence now = .ok f ∧
      f.data.size = width.toNat * height.toNat * 3 ∧
      ∀ x y, x < width.toNat → y < height.toNat →
        (f.pixel x y)[(sampled x y).index]? =
          some (sceneChannel x width.toNat tick (sampled x y).index) ∧
        (2 ≤ width.toNat → 2 ≤ height.toNat → EvenAt width.toNat tick x →
          f.pixel x y = scene x width.toNat tick)) ∧
    ∀ x, barIndex x width.toNat tick < 8 ∧
      scene x width.toNat (tick + width.toNat) = scene x width.toNat tick := by
  refine ⟨fun c r hwidth hheight => ⟨fun region hregion => ?_, fun hgood b hcapacity => ?_⟩,
    decode_triples tick sequence now, decode_ramp width height tick sequence now,
    decode_mosaic width height tick sequence now,
    fun x => ⟨barIndex_lt x _ tick, scene_add_width x _ tick⟩⟩
  · subst hwidth hheight
    exact paint?_granted r tick hregion
  · subst hwidth hheight
    exact Camera.exposure?_of_good hgood hcapacity

/-- A camera whose pictures are longer than the word of their payload says, which is
thirteen. -/
def wideCamera : Camera :=
  { sensorWidth := 2900561549, sensorHeight := 4239809835, formats := [.rgb8] }

/-- It breaks down over a buffer of the thirteen bytes that it asks for. In a small
picture the first column shows the second bar at the first tick, in either order. -/
theorem decoded_as_drawn_wide :
    (Registers.initial wideCamera).payloadSize.toNat = 13 ∧
      wideCamera.exposure? (Registers.initial wideCamera) 0 (Buffer.new ⟨0, 0⟩ 13) = none ∧
      4 * 2 * 3 < UInt64.size ∧
      ∃ f, decodeFrame (payload .bgr8 4 2 1) 4 2 .bgr8 0 0 = .ok f ∧
        f.pixel 0 1 = #[0, 255, 255] := by
  obtain ⟨hcamera, -⟩ := decoded_as_drawn wideCamera.sensorWidth wideCamera.sensorHeight 0 0 0
  obtain ⟨-, hexposed⟩ := hcamera wideCamera (Registers.initial wideCamera) rfl rfl
  obtain ⟨-, htriples, -⟩ := decoded_as_drawn 4 2 1 0 0
  obtain ⟨f, -, hf, -, hpixels⟩ := htriples (by decide)
  have hsize : (Registers.initial wideCamera).payloadSize.toNat = 13 := by decide +kernel
  have hbuffer : (Buffer.new ⟨0, 0⟩ 13).capacity =
      (Registers.initial wideCamera).payloadSize.toNat := by
    rw [hsize]
    rfl
  refine ⟨hsize, ?_, by decide, f, hf, hpixels 0 1 (by decide) (by decide)⟩
  rw [hexposed rfl _ hbuffer, if_neg (by decide +kernel)]

end Pattern
end FrameGrabber
