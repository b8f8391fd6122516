import FrameGrabber.Proofs.FullRing
import FrameGrabber.Session.Chronicle

/-!
# What a grab counts

The engine counts at five exits of a grab; whether a failure is transient is
decided elsewhere, by looking at the failure. The two agree as long as a stream
does not itself report what only an engine reports: a frame that was damaged or
could not be decoded. That is the one thing assumed of a stream.
-/

namespace FrameGrabber

/-- Of the failures that concern one frame, the stream reports timeouts only. -/
def Channel.Plain {W : Type} (ch : Channel W) : Prop :=
  ∀ timeout w e, (ch.dequeue timeout w).1 = .error e → e.isTransient = true →
    ∃ waited, e = .timeout waited

/-! ## Decoding -/

theorem leading_error {payload : Bytes} {needed : UInt64} {e : CameraError}
    (h : leading payload needed = .error e) :
    e = .payloadTooShort needed.toNat payload.size := by
  unfold leading at h
  split at h
  · cases h
  · cases h
    rfl

/-- A payload is not decoded because there is no rule for it or too little of it,
and both concern this one frame. -/
theorem decodePixels_error {payload : Bytes} {width height : UInt32} {format : PixelFormat}
    {e : CameraError} (h : decodePixels payload width height format = .error e) :
    (∃ format, e = .unsupportedPixelFormat format) ∨
      ∃ expected actual, e = .payloadTooShort expected actual := by
  have hmapped : ∀ (f : Bytes → Bytes) (needed : UInt64),
      f <$> leading payload needed = .error e →
        ∃ expected actual, e = .payloadTooShort expected actual := by
    intro f needed hshort
    rcases hl : leading payload needed with err | bytes <;> rw [hl] at hshort
    · cases hshort
      exact ⟨_, _, leading_error hl⟩
    · cases hshort
  unfold decodePixels at h
  cases format with
  | mono8 => exact .inr (hmapped _ _ h)
  | bayerRG8 => exact .inr (hmapped _ _ h)
  | rgb8 => exact .inr ⟨_, _, leading_error h⟩
  | bgr8 => exact .inr (hmapped _ _ h)
  | mono16 | bayerGR8 | bayerGB8 | bayerBG8 | yuv422 | other name =>
      cases h
      exact .inl ⟨_, rfl⟩

theorem decodeFrame_ok {payload : Bytes} {width height : UInt32} {format : PixelFormat}
    {sequence : Nat} {now : Instant} {f : Frame}
    (h : decodeFrame payload width height format sequence now = .ok f) :
    f.sequence = sequence := by
  unfold decodeFrame at h
  rcases hp : decodePixels payload width height format with e | data <;> rw [hp] at h
  · cases h
  · cases h
    rfl

theorem decodeFrame_error {payload : Bytes} {width height : UInt32} {format : PixelFormat}
    {sequence : Nat} {now : Instant} {e : CameraError}
    (h : decodeFrame payload width height format sequence now = .error e) :
    (∃ format, e = .unsupportedPixelFormat format) ∨
      ∃ expected actual, e = .payloadTooShort expected actual := by
  unfold decodeFrame at h
  rcases hp : decodePixels payload width height format with err | data <;> rw [hp] at h
  · cases h
    exact decodePixels_error hp
  · cases h

/-- A timeout concerns one frame only. -/
theorem Answer.isTransient_of_isTimeout {a : Answer} (h : a.isTimeout = true) :
    a.isTransient = true := by
  rcases a with ⟨n, err | f⟩
  · cases err with
    | timeout waited => rfl
    | _ => cases h
  · cases h

theorem Answer.isTimeout_of_fatal {a : Answer} (h : a.isTransient = false) :
    a.isTimeout = false :=
  Bool.eq_false_iff.2 fun htimeout =>
    absurd (h.symm.trans (isTransient_of_isTimeout htimeout)) (by decide)

namespace Engine

variable {W : Type} {e : Engine}

theorem decode_ok {b : Buffer} {now : Instant} {f : Frame} (h : e.decode b now = .ok f) :
    f.sequence = e.sequence := by
  unfold decode at h
  split at h
  · exact decodeFrame_ok h
  · exact decodeFrame_ok h

theorem decode_error {b : Buffer} {now : Instant} {err : CameraError}
    (h : e.decode b now = .error err) :
    (∃ format, err = .unsupportedPixelFormat format) ∨
      ∃ expected actual, err = .payloadTooShort expected actual := by
  unfold decode at h
  split at h
  · exact decodeFrame_error h
  · exact decodeFrame_error h

/-! ## One grab of an engine -/

/-- What an answer does to an engine: it is counted for what it is, a frame has
the number that was next, and a failure for good is not counted. -/
structure Counted (a : Answer) (e e' : Engine) : Prop where
  delivered : e'.counters.delivered = e.counters.delivered + a.isFrame.toNat
  dropped : e'.counters.dropped = e.counters.dropped + a.isTransient.toNat
  timeouts : e'.counters.timeouts = e.counters.timeouts + a.isTimeout.toNat
  sequence : e'.sequence = e.sequence + a.isFrame.toNat
  numbered : ∀ f, a.result = .ok f → f.sequence = e.sequence
  fatal : a.isFrame = false → a.isTransient = false → e'.counters = e.counters

theorem counted_drop {n : Nat} {err : CameraError} (htransient : err.isTransient = true)
    (hlate : ∀ waited, err ≠ .timeout waited) : Counted ⟨n, .error err⟩ e e.dropFrame := by
  have htimeout : (⟨n, .error err⟩ : Answer).isTimeout = false := by
    cases err with
    | timeout waited => exact absurd rfl (hlate waited)
    | _ => rfl
  refine ⟨rfl, ?_, ?_, rfl, fun _ h => (nomatch h), fun _ h => ?_⟩
  · show _ = _ + err.isTransient.toNat
    rw [htransient]
    rfl
  · rw [htimeout]
    rfl
  · exact absurd (htransient.symm.trans h) (by decide)

theorem counted_miss {n : Nat} {waited : Span} :
    Counted ⟨n, .error (.timeout waited)⟩ e e.missFrame :=
  ⟨rfl, rfl, rfl, rfl, fun _ h => (nomatch h), fun _ h => (nomatch h)⟩

theorem counted_fatal {n : Nat} {err : CameraError} (hfatal : err.isTransient = false) :
    Counted ⟨n, .error err⟩ e e := by
  have htimeout : (⟨n, .error err⟩ : Answer).isTimeout = false :=
    Answer.isTimeout_of_fatal hfatal
  refine ⟨rfl, ?_, ?_, rfl, fun _ h => (nomatch h), fun _ _ => rfl⟩
  · show _ = _ + err.isTransient.toNat
    rw [hfatal]
    rfl
  · rw [htimeout]
    rfl

theorem counted_deliver {n : Nat} {f : Frame} (hf : f.sequence = e.sequence) :
    Counted ⟨n, .ok f⟩ e (e.deliverFrame f) := by
  refine ⟨rfl, rfl, rfl, rfl, fun f' h => ?_, fun h => (nomatch h)⟩
  cases h
  exact hf

theorem grab_counted {ch : Channel W} (clock : Clock W) (hplain : ch.Plain) (e : Engine)
    (timeout : Span) (w : W) (n : Nat) :
    Counted ⟨n, (e.grab ch clock timeout w).1⟩ e (e.grab ch clock timeout w).2.1 := by
  have hfailed := hplain timeout w
  rw [grab_eq]
  rcases hd : ch.dequeue timeout w with ⟨err | b, w₁⟩
  · rw [hd] at hfailed
    cases htransient : err.isTransient with
    | true =>
        obtain ⟨waited, rfl⟩ := hfailed err rfl htransient
        exact counted_miss
    | false =>
        cases err with
        | timeout waited => cases htransient
        | _ => exact counted_fatal htransient
  · simp only
    split
    · split
      · exact counted_drop rfl fun _ => CameraError.noConfusion
      · rcases hdecode : e.decode b (clock.now w₁).1 with err | f
        · rcases decode_error hdecode with ⟨_, rfl⟩ | ⟨_, _, rfl⟩
          · exact counted_drop rfl fun _ => CameraError.noConfusion
          · exact counted_drop rfl fun _ => CameraError.noConfusion
        · exact counted_deliver (decode_ok hdecode)
    · exact counted_drop rfl fun _ => CameraError.noConfusion

end Engine
end FrameGrabber
