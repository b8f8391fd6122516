import FrameGrabber.Proofs.Configuring
import FrameGrabber.Proofs.Counting
import FrameGrabber.Proofs.Picture

/-!
# One geometry in four places

A width, a height and a format are kept in four places: the settings of a session,
the registers of its camera, the size of the buffers in the ring, and the image
information that travels with each buffer. They are changed at different times, by
writes, roll-backs and restarts, and yet between two operations they agree. The
registers are locked while the camera acquires, so the buffers that were allocated
at the start fit every picture until the stop; and what is on a stream is dropped
with the stream, so no picture of an earlier geometry outlives its acquisition.

The settings are those in the registers by the invariants of a session on a bench.
What is left to do here is to follow a picture from the registers through a buffer
to the frame.
-/

namespace FrameGrabber

/-! ## From the camera to the frame -/

/-- Into a buffer with room for a payload an exposure is never cut off. -/
theorem Camera.expose_status (c : Camera) (r : Registers) (tick : Nat) {b : Buffer}
    (h : r.payloadSize.toNat ≤ b.capacity) : (c.expose r tick b).status ≠ .aborted := by
  unfold expose
  split
  · simp [Buffer.setStatus]
  · simp [Buffer.grant?, if_pos h, Buffer.setInfo, Buffer.setStatus]

theorem Camera.Developed.status_ne {c : Camera} {r : Registers} {tick : Nat} {b : Buffer}
    (h : c.Developed r tick b) : b.status ≠ .aborted := by
  cases h with
  | incomplete hfails hstatus => rw [hstatus]; decide
  | complete hfails hstatus hinfo hpayload hwhole => rw [hstatus]; decide

/-- What is on the stream has room for the pictures of the camera, and nothing
that comes back was cut off. -/
structure SimStream.Roomy (l : Link) (s : SimStream) : Prop where
  empty : ∀ b ∈ s.input, ∀ tick, (l.camera.expose l.registers tick b).status ≠ .aborted
  filled : ∀ b ∈ s.output, b.status ≠ .aborted

theorem SimStream.Loaded.roomy {l : Link} {ring : List BufferId} {served pending : List Nat}
    {s : SimStream} (h : s.Loaded l.camera l.registers ring served pending) : s.Roomy l where
  empty b hb tick := by
    apply l.camera.expose_status l.registers tick
    exact Nat.le_of_eq (h.empty b hb).capacity.symm
  filled b hb := by
    obtain ⟨i, hi, rfl⟩ := List.getElem_of_mem hb
    have hi' : i < pending.length := h.developed.length_eq ▸ hi
    obtain ⟨-, hdeveloped⟩ := h.developed.get hi' hi
    exact hdeveloped.status_ne

/-- The frame shows one picture of a camera with these settings. -/
structure Frame.Depicts (x : Settings) (f : Frame) : Prop where
  width : f.width = x.width
  height : f.height = x.height
  layout : f.layout = .rgb8
  length : f.data.size = 3 * (x.width.toNat * x.height.toNat)
  picture : ∃ tick, decodeFrame (Pattern.payload x.format x.width.toNat x.height.toNat tick)
    x.width x.height x.format f.sequence f.timestamp = .ok f

/-- The frame of a shot is a picture by the settings in the registers. -/
theorem Camera.depicts_of_shot {c : Camera} {r : Registers} {tick sequence : Nat}
    {now : Instant} {f : Frame} (hshot : c.shot r tick sequence now = .ok f)
    (hwhole : c.fails tick = false → r.pictureSize = r.payloadSize.toNat) :
    f.Depicts r.settings := by
  unfold shot at hshot
  split at hshot
  · cases hshot
  · next hfails =>
    obtain ⟨data, hpixels, rfl⟩ := decodeFrame_eq_ok hshot
    obtain ⟨whole, hpixels', hlength⟩ := Registers.decodePixels_pattern
      (isDecoded_of_decodePixels hpixels) (hwhole (by simpa using hfails)) tick
    rw [hpixels] at hpixels'
    cases hpixels'
    exact ⟨rfl, rfl, rfl, hlength, tick, hshot⟩

/-- What an engine hands out, or why it does not. -/
theorem Engine.Grabbed.depicts {c : ConnectionId} {l : Link} {served : List Nat} {e e' : Engine}
    {f : Frame} {n : Network} (h : e.Grabbed c l served (.ok f) e' n) :
    f.Depicts l.registers.settings := by
  cases h with
  | shot tick rest now hr hwhole hsequence h => exact Camera.depicts_of_shot hr.symm hwhole

theorem Engine.Grabbed.ne_aborted {c : ConnectionId} {l : Link} {served : List Nat}
    {e e' : Engine} {r : Except CameraError Frame} {n : Network}
    (h : e.Grabbed c l served r e' n) : r ≠ .error (.acquisition (.buffer .aborted)) := by
  rintro rfl
  cases h with
  | silent pending he hsequence h => cases he
  | shot tick rest now hr hwhole hsequence h =>
      unfold Camera.shot at hr
      split at hr
      · cases hr
      · rcases decodeFrame_error hr.symm with ⟨format, he⟩ | ⟨expected, actual, he⟩ <;> cases he

/-! ## The session -/

namespace Session

variable {o : SessionOptions} {c : ConnectionId} {l : Link}
  {schedule : Nat → Option CameraError} {log : List (String × Bool)} {s : Session Bench}

/-- The device reports these settings. -/
structure Reports (c : ConnectionId) (x : Settings) (s : Session Bench) : Prop where
  width : reads c .width s = .ok (.int x.width.toUInt64.toInt64)
  height : reads c .height s = .ok (.int x.height.toUInt64.toInt64)
  format : ∃ name, reads c .pixelFormat s = .ok (.enum name) ∧
    PixelFormat.parse name = x.format
  rate : reads c .frameRate s = .ok (.float x.rate)

theorem Attached.reports (h : Attached o c l schedule log s) :
    s.Reports c l.registers.settings where
  width := h.reads .width
  height := h.reads .height
  format := ⟨l.registers.format.name, h.reads .pixelFormat, h.fit.restorable.canonical⟩
  rate := h.reads .frameRate

/-- The ring is made for the payloads that the device announces, and nothing on its
stream is too small for one. -/
def RingFits (c : ConnectionId) (s : Session Bench) : Prop :=
  ∃ e l stream, s.engine = some e ∧
    (bench.payloadSize c s.world).1 = .ok e.pool.bufferSize ∧
    s.world.world.links[c]? = some l ∧ s.world.world.streams[e.stream]? = some stream ∧
    stream.Roomy l

theorem Live.ringFits (h : Live o c l schedule log s) : s.RingFits c := by
  obtain ⟨e, he, hsize, served, pending, hsupplied⟩ := h.engine
  obtain ⟨stream, hstream, -, hloaded⟩ := hsupplied.feeds.stream
  refine ⟨e, l, stream, he, ?_, h.world.at', hstream, hloaded.roomy⟩
  rw [Bench.payloadSize_at h.world.at', hsize]

theorem Live.grabbed (h : Live o c l schedule log s) (timeout : Span) :
    ∃ served e e' n, Engine.Grabbed c l served e (Session.grab bench timeout s).1 e' n := by
  obtain ⟨e, he, -, served, pending, hsupplied⟩ := h.engine
  rw [grab_eq timeout h.closed h.acquisition he]
  exact ⟨served, e, _, _, Bench.grab_supplied hsupplied timeout⟩

/-- What a session with a camera keeps in step: the settings with what the device
reports, the ring with its payloads, and the frames with both. -/
structure InStep (c : ConnectionId) (x : Settings) (s : Session Bench) : Prop where
  connection : s.connection = some c
  settings : s.settings = some x
  reports : s.Reports c x
  ring : s.state = .streaming → s.RingFits c
  frame : ∀ timeout f, (grab bench timeout s).1 = .ok f → f.Depicts x
  room : ∀ timeout, (grab bench timeout s).1 ≠ .error (.acquisition (.buffer .aborted))

theorem Ready.inStep (h : Ready o c l schedule log s) : s.InStep c l.registers.settings := by
  have hgrab : ∀ timeout, grab bench timeout s = (.error (.acquisition .notStreaming), s) :=
    fun timeout => grab_of_rest timeout h.closed (ne_streaming_of_idle h.acquisition)
  refine ⟨h.connection, h.settings, h.reports, ?_, ?_, ?_⟩
  · intro hstream
    rw [h.state_eq] at hstream
    cases hstream
  · intro timeout f hf
    rw [hgrab] at hf
    cases hf
  · intro timeout he
    rw [hgrab] at he
    cases he

theorem Live.inStep (h : Live o c l schedule log s) : s.InStep c l.registers.settings := by
  refine ⟨h.connection, h.settings, h.reports, fun _ => h.ringFits, ?_, ?_⟩
  · intro timeout f hf
    obtain ⟨served, e, e', n, hgrabbed⟩ := h.grabbed timeout
    rw [hf] at hgrabbed
    exact hgrabbed.depicts
  · intro timeout
    obtain ⟨served, e, e', n, hgrabbed⟩ := h.grabbed timeout
    exact hgrabbed.ne_aborted

/-- Whatever was asked of a session with a camera, configurations while streaming
included, and whichever commands were refused: its settings are those that the
device reports, its ring fits the payloads of the device, and the next frame, if
one comes, is a picture by these settings. -/
theorem reachable_inStep {cameras : List Camera}
    (hcameras : ∀ camera ∈ cameras, camera.Canonical)
    (hs : Reachable bench (new ⟨{ cameras }, schedule, []⟩ o) s)
    (hstate : s.state = .connected ∨ s.state = .streaming) : ∃ c x, s.InStep c x := by
  obtain ⟨c, l, log, h | h⟩ := (onBench_of_reachable hcameras hs).engaged hstate
  · exact ⟨c, _, h.inStep⟩
  · exact ⟨c, _, h.inStep⟩

/-- The pocket session with the smaller picture that it was told to take while it
streamed. -/
def trimmedSession : Session Bench :=
  ((Operation.configure 1 1 .mono8 30.0).perform bench (pocketSession fun _ => none)).2

theorem trimmedSession_inStep :
    trimmedSession.state = .streaming ∧
      (grab bench 0 trimmedSession).1 = .ok ⟨1, 1, .rgb8, #[0, 0, 0], 0, 0⟩ ∧
      ∃ c x, trimmedSession.InStep c x :=
  ⟨rfl, by decide +kernel, reachable_inStep pocketCamera_canonical
    (.perform (.configure 1 1 .mono8 30.0) (.perform .start (.perform _ .start))) (.inr rfl)⟩

end Session
end FrameGrabber
