import FrameGrabber.Proofs.Picture
import FrameGrabber.Sink
import FrameGrabber.Sink.Publication
import Mathlib.Algebra.Group.Nat.Defs
import Mathlib.Data.List.Forall2

/-!
# Nothing is lost between a frame loop and its track

What the track was handed so far, followed by what still waits, is what the queue
took in, in the same order. One move of either side keeps this, so it holds after
any run, and when the publishing side has emptied the queue it says that the track
was handed every one of these frames once. The other books are kept on the way: a
frame that was offered is in the queue's intake or among those dropped, and the
number of frames published is that of the captures that the track took.

The publishing side goes over a list of frames as over one frame after the other.
This is why its single passes here add up to the loop that it really runs.

Of the tracks one has something to panic over: the counting track, where four bytes to a
pixel of some frame cannot be counted and the program was built to check that.
-/

namespace FrameGrabber

/-! ## Pictures with an alpha channel -/

theorem size_rgbToRgba (rgb : Bytes) : (rgbToRgba rgb).size = rgb.size / 3 * 4 :=
  Array.size_ofFn

theorem getElem?_rgbToRgba {rgb : Bytes} {i c : Nat} (hi : i < rgb.size / 3) (hc : c < 4) :
    (rgbToRgba rgb)[i * 4 + c]? = if c < 3 then rgb[i * 3 + c]? else some 255 := by
  have hplace : i * 4 + c < rgb.size / 3 * 4 := by omega
  have hchannel : (i * 4 + c) % 4 = c := by omega
  have hpixel : (i * 4 + c) / 4 = i := by omega
  rw [rgbToRgba, Array.getElem?_ofFn, dif_pos hplace]
  simp only [hchannel, hpixel]
  split
  · have hsource : i * 3 + c < rgb.size := by omega
    rw [Array.getElem?_eq_getElem hsource, Array.getD_eq_getD_getElem?,
      Array.getElem?_eq_getElem hsource, Option.getD_some]
  · rfl

/-- Does the one frame show what the other, brought to RGB, shows? The pixels of a
frame are its whole triples, whatever its geometry. -/
structure RgbaFrame.Shows (r : RgbaFrame) (f : Frame) : Prop where
  width : r.width = f.width
  height : r.height = f.height
  sequence : r.sequence = f.sequence
  timestamp : r.timestamp = f.timestamp
  size : r.data.size = f.normalize.data.size / 3 * 4
  colour : ∀ i < f.normalize.data.size / 3, ∀ c < 3,
    r.data[i * 4 + c]? = f.normalize.data[i * 3 + c]?
  alpha : ∀ i < f.normalize.data.size / 3, r.data[i * 4 + 3]? = some 255

theorem RgbaFrame.shows_ofFrame (f : Frame) : (RgbaFrame.ofFrame f).Shows f where
  width := rfl
  height := rfl
  sequence := rfl
  timestamp := rfl
  size := size_rgbToRgba _
  colour i hi c hc := by
    rw [ofFrame, getElem?_rgbToRgba hi (by omega), if_pos hc]
  alpha i hi := by
    rw [ofFrame, getElem?_rgbToRgba hi (by omega), if_neg (by omega)]

/-! ## The counting track -/

theorem RgbaFrame.isOk_check (r : RgbaFrame) :
    r.check.isOk = true ↔ r.data.size = r.width.toNat * r.height.toNat * 4 % 2 ^ 64 := by
  have hexpected : (r.width.toUInt64 * r.height.toUInt64 * 4).toNat =
      r.width.toNat * r.height.toNat * 4 % 2 ^ 64 := by
    rw [UInt64.toNat_mul, toNat_pixels]
    rfl
  rw [← hexpected, check]
  split <;> simp_all [Except.isOk, Except.toBool]

theorem Track.isOk_counting {S : Type} (name : String) (count : S → S) (r : RgbaFrame) (s : S) :
    ((Track.counting name count).capture r s).1.isOk = r.check.isOk := by
  simp only [counting]
  cases r.check <;> rfl

/-- The counting track takes a frame if its pixels fill the geometry. What the
geometry calls for is counted in bytes and may wrap, so that of the number of
pixels only the rest modulo `2 ^ 62` is left. -/
theorem Track.counting_takes {S : Type} (name : String) (count : S → S) (f : Frame) (s : S) :
    ((Track.counting name count).capture (.ofFrame f) s).1.isOk = true ↔
      f.normalize.data.size / 3 = f.width.toNat * f.height.toNat % 2 ^ 62 := by
  have hf := RgbaFrame.shows_ofFrame f
  rw [isOk_counting, RgbaFrame.isOk_check, hf.size, hf.width, hf.height]
  generalize f.width.toNat * f.height.toNat = pixels
  omega

theorem size_of_leading {payload data : Bytes} {needed : UInt64}
    (h : leading payload needed = .ok data) : data.size = needed.toNat := by
  unfold leading at h
  split at h
  · next hle =>
      cases h
      simp [hle]
  · cases h

theorem exists_of_map_leading {g : Bytes → Bytes} {payload data : Bytes} {needed : UInt64}
    (h : g <$> leading payload needed = .ok data) :
    ∃ bytes : Bytes, bytes.size = needed.toNat ∧ data = g bytes := by
  rcases hl : leading payload needed with e | bytes <;> rw [hl] at h
  · cases h
  · cases h
    exact ⟨bytes, size_of_leading hl, rfl⟩

/-- The pixels that come out of a payload. Where each takes three bytes of the
payload, the number of these bytes may have wrapped. -/
theorem pixels_decodePixels {payload data : Bytes} {width height : UInt32}
    {format : PixelFormat} (h : decodePixels payload width height format = .ok data) :
    data.size / 3 = width.toNat * height.toNat ∨
      data.size / 3 = width.toNat * height.toNat * 3 % 2 ^ 64 / 3 := by
  have hpixels := toNat_pixels width height
  have htriples : (width.toUInt64 * height.toUInt64 * 3).toNat =
      width.toNat * height.toNat * 3 % 2 ^ 64 := by
    rw [toNat_triples, Nat.mul_comm 3]
    rfl
  cases format with
  | mono8 =>
      obtain ⟨bytes, hbytes, rfl⟩ := exists_of_map_leading h
      have hsize := size_grayToRgb bytes
      exact .inl (by omega)
  | bayerRG8 =>
      obtain ⟨bytes, -, rfl⟩ := exists_of_map_leading h
      have hsize := size_demosaic bytes width.toNat height.toNat
      exact .inl (by omega)
  | rgb8 =>
      have hsize := size_of_leading h
      exact .inr (by rw [hsize, htriples])
  | bgr8 =>
      obtain ⟨bytes, hbytes, rfl⟩ := exists_of_map_leading h
      have hsize := size_swapRedBlue bytes
      exact .inr (by omega)
  | mono16 | bayerGR8 | bayerGB8 | bayerBG8 | yuv422 | other name => cases h

/-- Of the frames that were decoded the counting track takes those whose geometry
does not wrap. -/
theorem Track.counting_takes_decoded {S : Type} (name : String) (count : S → S) (s : S)
    {payload : Bytes} {width height : UInt32} {format : PixelFormat} {sequence : Nat}
    {now : Instant} {f : Frame} (h : decodeFrame payload width height format sequence now = .ok f) :
    ((Track.counting name count).capture (.ofFrame f) s).1.isOk = true ↔
      width.toNat * height.toNat < 2 ^ 62 := by
  obtain ⟨data, hdata, rfl⟩ := decodeFrame_eq_ok h
  have hpixels := pixels_decodePixels hdata
  have hlt := (width.toUInt64 * height.toUInt64).toNat_lt
  rw [toNat_pixels] at hlt
  rw [counting_takes]
  show data.size / 3 = width.toNat * height.toNat % 2 ^ 62 ↔ _
  generalize width.toNat * height.toNat = pixels at hpixels hlt ⊢
  constructor
  · omega
  · intro hsmall
    rw [Nat.mod_eq_of_lt hsmall]
    omega

/-- Four bytes to a pixel can be counted as long as the pixels leave the two highest bits
of a word free. -/
theorem RgbaFrame.check?_eq_none_iff {b : Build} {f : RgbaFrame} :
    f.check? b = none ↔ b = .checked ∧ 2 ^ 62 ≤ f.width.toNat * f.height.toNat := by
  rw [check?, Build.count?_eq_none_iff]
  refine and_congr_right fun _ => ?_
  generalize f.width.toNat * f.height.toNat = pixels
  simp only [UInt64.size]
  omega

/-- What a program answers to a frame is what the counting track makes of it. -/
theorem Track.counting_of_check? {S : Type} {b : Build} {image : RgbaFrame}
    {answer : Except SinkError Unit} (h : image.check? b = some answer) (name : String)
    (count : S → S) (s : S) : ((Track.counting name count).capture image s).1 = answer := by
  obtain ⟨-, rfl⟩ := Build.count?_eq_some_iff.1 h
  cases hcheck : image.check <;> simp only [Track.counting, hcheck]

section Counting

variable {S : Type} {b : Build} {name : String} {count : S → S} {clock : Clock S}
  {g : Option Governor} {frames : List Frame} {s : S}

theorem Track.publishCounting?_eq_none_iff :
    Track.publishCounting? b name count clock g frames s = none ↔
      b = .checked ∧ ∃ f ∈ frames, 2 ^ 62 ≤ f.width.toNat * f.height.toNat := by
  have hpanics : ∀ f : Frame, ((RgbaFrame.ofFrame f).check? b).isSome = false ↔
      b = .checked ∧ 2 ^ 62 ≤ f.width.toNat * f.height.toNat := fun f => by
    rw [Option.isSome_eq_false_iff, Option.isNone_iff_eq_none, RgbaFrame.check?_eq_none_iff]
    rfl
  unfold publishCounting?
  simp only [ite_eq_right_iff, reduceCtorEq, imp_false, List.all_eq_true, not_forall,
    Bool.not_eq_true, hpanics]
  exact ⟨fun ⟨f, hf, hb, hlarge⟩ => ⟨hb, f, hf, hlarge⟩,
    fun ⟨hb, f, hf, hlarge⟩ => ⟨f, hf, hb, hlarge⟩⟩

theorem Track.publish_of_publishCounting? {out : Nat × S}
    (h : Track.publishCounting? b name count clock g frames s = some out) :
    (Track.counting name count).publish clock g frames s = out := by
  unfold publishCounting? at h
  split at h
  · exact Option.some.inj h
  · cases h

end Counting

/-! ## The publishing side -/

section Publishing

variable {S : Type} (t : Track S) (clock : Clock S) (g : Option Governor)

theorem Governor.settle_noted (since : Instant) (s : Noted S) :
    Governor.settle clock.noted g since s =
      { s with world := Governor.settle clock g since s.world } := by
  cases g with
  | none => rfl
  | some g =>
      simp only [settle, Clock.noted]
      split <;> simp_all

/-- A list of frames is published one after the other. -/
theorem Track.publish_cons (f : Frame) (rest : List Frame) (s : S) :
    t.publish clock g (f :: rest) s =
      let (m, s) := t.publish clock g [f] s
      let (n, s) := t.publish clock g rest s
      (m + n, s) := by
  simp only [publish]
  split <;> simp [Nat.add_comm]

/-- What becomes of a frame is logged, and it is otherwise as without the log. -/
theorem Track.publish_noted_singleton (f : Frame) (s : Noted S) :
    ∃ accepted : Bool,
      t.noted.publish clock.noted g [f] s =
        ((t.publish clock g [f] s.world).1,
          ⟨(t.publish clock g [f] s.world).2, s.captures ++ [⟨.ofFrame f, accepted⟩]⟩) ∧
      (t.publish clock g [f] s.world).1 = if accepted then 1 else 0 := by
  simp only [publish, Governor.settle_noted]
  exact ⟨_, rfl, rfl⟩

/-- The log changes nothing. It has each frame once, and the frames that the track took
are those that were published. -/
theorem Track.publish_noted (fs : List Frame) (s : Noted S) :
    ∃ captures : List Capture,
      t.noted.publish clock.noted g fs s =
        ((t.publish clock g fs s.world).1,
          ⟨(t.publish clock g fs s.world).2, s.captures ++ captures⟩) ∧
      captures.map (·.frame) = fs.map .ofFrame ∧
      (t.publish clock g fs s.world).1 = captures.countP (·.accepted) := by
  induction fs generalizing s with
  | nil => exact ⟨[], by simp [publish], rfl, rfl⟩
  | cons f rest ih =>
      obtain ⟨accepted, hone, hcount⟩ := publish_noted_singleton t clock g f s
      obtain ⟨captures, hrest, hframes, hcounts⟩ :=
        ih ⟨(t.publish clock g [f] s.world).2, s.captures ++ [⟨.ofFrame f, accepted⟩]⟩
      refine ⟨⟨.ofFrame f, accepted⟩ :: captures, ?_, ?_, ?_⟩
      · rw [publish_cons, publish_cons t clock, hone]
        simp only [hrest, List.append_assoc, List.singleton_append]
      · rw [List.map_cons, List.map_cons, hframes]
      · rw [publish_cons]
        simp only [hcount, hcounts, List.countP_cons]
        exact Nat.add_comm _ _

end Publishing

/-! ## Both sides -/

namespace Publication

variable {S : Type} {t : Track S} {clock : Clock S} {g : Option Governor} {depth : Nat}
  {p : Publication S}

theorem offer_of_lt (ha : p.queue.attended = true) (h : p.queue.waiting.length < p.queue.depth)
    (f : Frame) :
    p.offer f = { p with
      queue := { p.queue with waiting := p.queue.waiting ++ [f] }
      offered := p.offered ++ [f]
      answers := p.answers ++ [.ok ()]
      accepted := p.accepted ++ [f] } := by
  simp [offer, PublisherQueue.offer, ha, h, Except.isOk, Except.toBool]

theorem offer_of_not_lt (ha : p.queue.attended = true)
    (h : ¬p.queue.waiting.length < p.queue.depth) (f : Frame) :
    p.offer f = { p with
      queue := { p.queue with dropped := p.queue.dropped + 1 }
      offered := p.offered ++ [f]
      answers := p.answers ++ [.ok ()] } := by
  simp [offer, PublisherQueue.offer, ha, h, Except.isOk, Except.toBool]

theorem take_of_nil (h : p.queue.waiting = []) : p.take t clock g = p := by
  simp [take, PublisherQueue.receive, h]

theorem take_of_cons {f : Frame} {rest : List Frame} (h : p.queue.waiting = f :: rest) :
    p.take t clock g = { p with
      queue := { p.queue with waiting := rest }
      side := (t.noted.publish clock.noted g [f] p.side).2
      published := p.published + (t.noted.publish clock.noted g [f] p.side).1
      taken := p.taken ++ [clock.time p.side.world] } := by
  simp [take, PublisherQueue.receive, h]

/-- The books of a publication agree. -/
structure Balanced (depth : Nat) (p : Publication S) : Prop where
  depth_eq : p.queue.depth = max depth 1
  attended : p.queue.attended = true
  waiting_le : p.queue.waiting.length ≤ max depth 1
  answers : p.answers = List.replicate p.offered.length (.ok ())
  sublist : p.accepted.Sublist p.offered
  conserved : p.accepted.length + p.queue.dropped = p.offered.length
  order : p.side.captures.map (·.frame) ++ p.queue.waiting.map .ofFrame =
    p.accepted.map .ofFrame
  published : p.published = p.side.captures.countP (·.accepted)

theorem balanced_new (depth : Nat) (world : S) : Balanced depth (new depth world) where
  depth_eq := rfl
  attended := rfl
  waiting_le := Nat.zero_le _
  answers := rfl
  sublist := List.Sublist.slnil
  conserved := rfl
  order := rfl
  published := rfl

theorem Balanced.offer (h : Balanced depth p) (f : Frame) : Balanced depth (p.offer f) := by
  have hdepth := h.depth_eq
  have hle := h.waiting_le
  have hconserved := h.conserved
  have hanswers : p.answers ++ [.ok ()] = List.replicate (p.offered ++ [f]).length (.ok ()) := by
    rw [h.answers, List.length_append, List.length_singleton, List.replicate_succ']
  by_cases hroom : p.queue.waiting.length < p.queue.depth
  · rw [offer_of_lt h.attended hroom]
    refine ⟨hdepth, h.attended, ?_, hanswers, h.sublist.append (List.Sublist.refl [f]), ?_, ?_,
      h.published⟩
    · simp only [List.length_append, List.length_singleton]
      omega
    · simp only [List.length_append, List.length_singleton]
      omega
    · rw [List.map_append, List.map_append, ← List.append_assoc, h.order]
  · rw [offer_of_not_lt h.attended hroom]
    refine ⟨hdepth, h.attended, hle, hanswers, h.sublist.trans (List.sublist_append_left _ _), ?_,
      h.order, h.published⟩
    simp only [List.length_append, List.length_singleton]
    omega

theorem Balanced.take (h : Balanced depth p) : Balanced depth (p.take t clock g) := by
  rcases hwaiting : p.queue.waiting with _ | ⟨f, rest⟩
  · rwa [take_of_nil hwaiting]
  · obtain ⟨captures, hpublish, hframes, hcount⟩ := t.publish_noted clock g [f] p.side
    have horder := h.order
    have hle := h.waiting_le
    rw [hwaiting] at horder hle
    rw [take_of_cons hwaiting, hpublish]
    refine ⟨h.depth_eq, h.attended, Nat.le_of_succ_le hle, h.answers, h.sublist, h.conserved,
      ?_, ?_⟩
    · -- The frame goes from the head of what waits to the end of what was captured.
      rw [List.map_append, hframes, List.append_assoc, ← List.map_append]
      exact horder
    · rw [List.countP_append, h.published, hcount]

theorem Balanced.move (h : Balanced depth p) (m : PublisherMove) :
    Balanced depth (p.move t clock g m) := by
  cases m with
  | offer f => exact h.offer f
  | take => exact h.take
  | wait span =>
      exact ⟨h.depth_eq, h.attended, h.waiting_le, h.answers, h.sublist, h.conserved, h.order,
        h.published⟩

theorem Balanced.run (h : Balanced depth p) (moves : List PublisherMove) :
    Balanced depth (p.run t clock g moves) := by
  induction moves generalizing p with
  | nil => exact h
  | cons m rest ih => exact ih (h.move m)

theorem offered_move (m : PublisherMove) :
    (p.move t clock g m).offered = p.offered ++ m.frame?.toList := by
  cases m with
  | offer f => rfl
  | take =>
      simp only [Publication.move, take]
      split <;> simp [PublisherMove.frame?]
  | wait span => simp [Publication.move, PublisherMove.frame?]

theorem offered_run (moves : List PublisherMove) :
    (p.run t clock g moves).offered = p.offered ++ moves.filterMap (·.frame?) := by
  induction moves generalizing p with
  | nil => simp [Publication.run]
  | cons m rest ih =>
      show (Publication.run t clock g rest (p.move t clock g m)).offered = _
      rw [ih, offered_move, List.append_assoc]
      cases h : m.frame? <;> simp [h]

/-- What becomes of the next frame. The answer is a good one in any case and comes at
once: the publishing side has no part in it. -/
structure Answers (depth : Nat) (p : Publication S) (f : Frame) : Prop where
  answers : (p.offer f).answers = p.answers ++ [.ok ()]
  delivered : (Sink.publisher p.queue).deliver f = (.ok (), .publisher (p.offer f).queue)
  side : (p.offer f).side = p.side
  room : p.queue.waiting.length < max depth 1 → (p.offer f).accepted = p.accepted ++ [f] ∧
    (p.offer f).queue = { p.queue with waiting := p.queue.waiting ++ [f] }
  full : ¬p.queue.waiting.length < max depth 1 → p.queue.waiting.length = max depth 1 ∧
    (p.offer f).accepted = p.accepted ∧
    (p.offer f).queue = { p.queue with dropped := p.queue.dropped + 1 }

theorem Balanced.next (h : Balanced depth p) (f : Frame) : Answers depth p f := by
  have hle := h.waiting_le
  have hok : (p.queue.offer f).1 = .ok () := by
    rw [PublisherQueue.offer, if_neg (by simp [h.attended])]
    split <;> rfl
  have hdelivered : (Sink.publisher p.queue).deliver f = (.ok (), .publisher (p.offer f).queue) := by
    rw [← hok]
    rfl
  by_cases hroom : p.queue.waiting.length < p.queue.depth
  · have hoffer := offer_of_lt h.attended hroom f
    rw [h.depth_eq] at hroom
    refine ⟨by rw [hoffer], hdelivered, by rw [hoffer], ?_, fun hfull => absurd hroom hfull⟩
    intro _
    rw [hoffer]
    exact ⟨rfl, rfl⟩
  · have hoffer := offer_of_not_lt h.attended hroom f
    rw [h.depth_eq] at hroom
    refine ⟨by rw [hoffer], hdelivered, by rw [hoffer], fun hlt => absurd hlt hroom, ?_⟩
    intro _
    rw [hoffer]
    exact ⟨by omega, rfl, rfl⟩

theorem finish_of_nil (h : p.queue.waiting = []) : p.finish t clock g = p := by
  rw [finish, h]
  rfl

theorem finish_of_cons {f : Frame} {rest : List Frame} (h : p.queue.waiting = f :: rest) :
    p.finish t clock g = (p.take t clock g).finish t clock g := by
  have hrest : (p.take t clock g).queue.waiting = rest := by rw [take_of_cons h]
  rw [finish, finish, h, hrest]
  rfl

variable (t clock g) in
/-- When no more frames are offered, what still waits is published as one list. -/
theorem finish_eq (p : Publication S) :
    (p.finish t clock g).queue = { p.queue with waiting := [] } ∧
      (p.finish t clock g).accepted = p.accepted ∧
      (p.finish t clock g).side = (t.noted.publish clock.noted g p.queue.waiting p.side).2 ∧
      (p.finish t clock g).published =
        p.published + (t.noted.publish clock.noted g p.queue.waiting p.side).1 := by
  generalize hwaiting : p.queue.waiting = waiting
  induction waiting generalizing p with
  | nil =>
      rw [finish_of_nil hwaiting]
      refine ⟨?_, rfl, rfl, rfl⟩
      rw [← hwaiting]
  | cons f rest ih =>
      have hstep : p.take t clock g = _ := take_of_cons hwaiting
      obtain ⟨hqueue, haccepted, hside, hpublished⟩ := ih (p.take t clock g) (by rw [hstep])
      rw [finish_of_cons hwaiting, hqueue, haccepted, hside, hpublished, Track.publish_cons, hstep]
      exact ⟨rfl, rfl, rfl, Nat.add_assoc _ _ _⟩

/-- A frame that was captured shows the frame that the queue took in. -/
theorem Balanced.shows (h : Balanced depth p) (hdone : p.queue.waiting = []) :
    List.Forall₂ (fun c f => c.frame.Shows f) p.side.captures p.accepted := by
  have horder := h.order
  rw [hdone, List.map_nil, List.append_nil] at horder
  have hpairs : List.Forall₂ Eq (p.side.captures.map (·.frame)) (p.accepted.map .ofFrame) := by
    rw [List.forall₂_eq_eq_eq]
    exact horder
  rw [List.forall₂_map_left_iff, List.forall₂_map_right_iff] at hpairs
  refine hpairs.imp fun c f hc => ?_
  rw [hc]
  exact RgbaFrame.shows_ofFrame f

/-- Frames are offered and taken in any order, to a queue of any depth and a track that
may refuse what it likes. Every offer is answered well and at once, and a frame is
dropped only from a full queue. When no more are offered, the publishing side comes to
an end with an empty queue; the track was then handed, once and in order, all frames
that the queue took in, each with the pixels of the frame in RGB; and what it took was
counted.

The counting track takes a frame if the pixels that it has are as many as those of its
geometry, modulo `2 ^ 62`. Where the geometry has `2 ^ 62` pixels or more, a program that
was built to check its arithmetic panics over the frame, and publishing ends without a
number. -/
theorem run_hands_over (t : Track S) (clock : Clock S) (g : Option Governor) (depth : Nat)
    (world : S) (moves : List PublisherMove) :
    let p := (new depth world).run t clock g moves
    let q := p.finish t clock g
    (p.offered = moves.filterMap (·.frame?) ∧
      p.answers = List.replicate p.offered.length (.ok ()) ∧
      p.accepted.Sublist p.offered ∧ p.accepted.length + p.queue.dropped = p.offered.length ∧
      ∀ f, Answers depth p f) ∧
    (q.queue.waiting = [] ∧ q.accepted = p.accepted ∧
      List.Forall₂ (fun c f => c.frame.Shows f) q.side.captures q.accepted ∧
      q.published = q.side.captures.countP (·.accepted) ∧
      q.published = p.published + (t.publish clock g p.queue.waiting p.side.world).1 ∧
      q.side.world = (t.publish clock g p.queue.waiting p.side.world).2) ∧
    (∀ b (f : Frame),
      ((RgbaFrame.ofFrame f).check? b = none ↔
        b = .checked ∧ 2 ^ 62 ≤ f.width.toNat * f.height.toNat) ∧
      ∀ answer, (RgbaFrame.ofFrame f).check? b = some answer →
        (∀ name count (s : S),
          ((Track.counting name count).capture (.ofFrame f) s).1 = answer) ∧
        (answer.isOk = true ↔
          f.normalize.data.size / 3 = f.width.toNat * f.height.toNat % 2 ^ 62) ∧
        ∀ payload width height format sequence now,
          decodeFrame payload width height format sequence now = .ok f →
            (answer.isOk = true ↔ width.toNat * height.toNat < 2 ^ 62)) ∧
    ∀ b name count (clock : Clock S) g frames s,
      (Track.publishCounting? b name count clock g frames s = none ↔
        b = .checked ∧ ∃ f ∈ frames, 2 ^ 62 ≤ f.width.toNat * f.height.toNat) ∧
      ∀ out, Track.publishCounting? b name count clock g frames s = some out →
        (Track.counting name count).publish clock g frames s = out := by
  intro p q
  have hp : Balanced depth p := (balanced_new depth world).run moves
  have hq : Balanced depth q := hp.run _
  obtain ⟨hqueue, haccepted, hside, hpublished⟩ := finish_eq t clock g p
  obtain ⟨captures, hpublish, -, -⟩ := t.publish_noted clock g p.queue.waiting p.side
  have hdone : q.queue.waiting = [] := by rw [hqueue]
  rw [hpublish] at hside hpublished
  have hworld : q.side.world = (t.publish clock g p.queue.waiting p.side.world).2 := by rw [hside]
  refine ⟨⟨offered_run moves, hp.answers, hp.sublist, hp.conserved, hp.next⟩,
    ⟨hdone, haccepted, hq.shows hdone, hq.published, hpublished, hworld⟩, fun b f => ?_,
    fun b name count clock g frames s => ?_⟩
  · refine ⟨RgbaFrame.check?_eq_none_iff, fun answer hanswer => ?_⟩
    have hcapture := fun name count (s : S) =>
      Track.counting_of_check? hanswer name count s
    refine ⟨hcapture, ?_, fun payload width height format sequence now h => ?_⟩
    · rw [← hcapture "" id world]
      exact Track.counting_takes "" id f world
    · rw [← hcapture "" id world]
      exact Track.counting_takes_decoded "" id world h
  · exact ⟨Track.publishCounting?_eq_none_iff, fun out h => Track.publish_of_publishCounting? h⟩

/-- Two frames come in while nobody takes one: the second finds the queue full. The
counting track takes the first, which was decoded from a payload, and it also takes a
frame without data whose geometry wraps to nothing, unless the program checks that. -/
theorem run_hands_over_small :
    let t : Track Nat := .counting "counted" (· + 1)
    let clock : Clock Nat := ⟨fun s => (0, s), fun _ s => s, fun _ _ => 0⟩
    let f : Frame := ⟨1, 1, .rgb8, #[7, 8, 9], 0, 0⟩
    let vast : Frame := ⟨2147483648, 2147483648, .rgb8, #[], 1, 0⟩
    let p := (new 1 0).run t clock none [.offer f, .offer vast, .take, .offer vast]
    p.accepted = [f, vast] ∧ p.queue.dropped = 1 ∧
      (p.finish t clock none).published = 2 ∧ (p.finish t clock none).side.world = 2 ∧
      decodeFrame #[7, 8, 9] 1 1 .rgb8 0 0 = .ok f ∧
      (t.capture (.ofFrame f) 0).1.isOk = true ∧ (t.capture (.ofFrame vast) 0).1.isOk = true ∧
      Track.publishCounting? .checked "counted" (· + 1) clock none [f, vast] 0 = none := by
  intro t clock f vast p
  obtain ⟨-, ⟨-, -, -, -, hpublished, hworld⟩, htakes, hcounts⟩ :=
    run_hands_over t clock none 1 0 [.offer f, .offer vast, .take, .offer vast]
  have hf : decodeFrame #[7, 8, 9] 1 1 .rgb8 0 0 = .ok f := by rfl
  refine ⟨by decide, by decide, hpublished.trans (by decide), hworld.trans (by decide), hf,
    ?_, ?_, ?_⟩
  · obtain ⟨hcapture, -, hdecoded⟩ := (htakes .wrapping f).2 _ Build.count?_wrapping
    rw [hcapture]
    exact (hdecoded _ _ _ _ _ _ hf).2 (by decide)
  · obtain ⟨hcapture, hfills, -⟩ := (htakes .wrapping vast).2 _ Build.count?_wrapping
    rw [hcapture]
    exact hfills.2 (by decide)
  · exact (hcounts .checked "counted" (· + 1) clock none [f, vast] 0).1.2
      ⟨rfl, vast, by decide, by decide⟩

end Publication
end FrameGrabber
