import FrameGrabber.Proofs.Supply
import FrameGrabber.Session.Operation

/-!
# A session with a simulated camera

The settings that a session keeps are those in the registers of its camera, at
every moment between two operations. That is the invariant of this file, and it
is what makes it possible to say what `configure` does: which of the settings
are kept and which are new can be read off the link alone. Besides the link the
invariant names the schedule of the bench and its log, so that each lemma says
which commands were issued and what the schedule said about them.

A session that streams has buffers, and its payload is not empty. So the only
thing that can keep it from streaming again is a refused start. And its engine gets
the exposures of its own camera.

That there was memory for its ring holds only of a program that has not panicked, so
this part of the invariant depends on the marks that the session bears. What an
operation does to the marks is said along with what it does to the session, where it
can panic at all: over the ring when it starts, and over the wait when it stops.
-/

namespace FrameGrabber
namespace Session

/-- The session has a camera, and its settings are those of the camera. -/
structure Attached (o : SessionOptions) (c : ConnectionId) (l : Link)
    (schedule : Nat → Option CameraError) (log : List (String × Bool))
    (s : Session Bench) : Prop where
  options : s.options = o
  closed : s.closed = false
  descriptor : s.descriptor.isSome
  connection : s.connection = some c
  settings : s.settings = some l.registers.settings
  world : s.world.Shows c l schedule log
  fit : Bench.Fit l

/-- The session does not stream. -/
structure Ready (o : SessionOptions) (c : ConnectionId) (l : Link)
    (schedule : Nat → Option CameraError) (log : List (String × Bool))
    (s : Session Bench) : Prop extends Attached o c l schedule log s where
  engine : s.engine = none
  acquisition : s.acquisition = .idle

/-- The session streams into buffers of the size of a payload. -/
structure Live (o : SessionOptions) (c : ConnectionId) (l : Link)
    (schedule : Nat → Option CameraError) (log : List (String × Bool))
    (s : Session Bench) : Prop extends Attached o c l schedule log s where
  acquisition : s.acquisition = .streaming
  acquiring : l.acquiring = true
  buffers : o.bufferCount ≠ 0
  payload : l.registers.payloadSize.toNat ≠ 0
  affordable : ∀ b, s.panickedIn b = false → l.registers.Affordable b
  engine : ∃ e, s.engine = some e ∧
    e.pool.bufferSize = l.registers.payloadSize.toNat ∧
    ∃ served pending, e.Supplied c l served pending s.world.world

variable {o : SessionOptions} {c : ConnectionId} {l : Link}
  {schedule : Nat → Option CameraError} {log log' : List (String × Bool)}
  {s : Session Bench}

/-- The commands that start and stop an acquisition, as the log has them. -/
def started (done : Bool) : String × Bool := (Command.acquisitionStart.name, done)

@[inherit_doc started]
def stopped (done : Bool) : String × Bool := (Command.acquisitionStop.name, done)

/-- The session after a start was issued: it streams, or the start was refused. -/
def Restarted (o : SessionOptions) (c : ConnectionId) (l : Link)
    (schedule : Nat → Option CameraError) (log : List (String × Bool))
    (s : Session Bench) : Prop :=
  schedule log.length = none ∧
      Live o c { l with acquiring := true } schedule (started true :: log) s ∨
    (∃ e, schedule log.length = some e) ∧
      Ready o c l schedule (started false :: log) s

/-! ## Starting and stopping -/

/-- A ring is queued whenever there are buffers and a payload to size them. -/
theorem Ready.startEngine (h : Ready o c l schedule log s) (g : Geometry) :
    if o.bufferCount = 0 ∨ l.registers.payloadSize.toNat = 0 then
      ∃ e s', startEngine bench c g s = (.error e, s') ∧ Ready o c l schedule log s'
    else
      ∃ e s', startEngine bench c g s = (.ok e, s') ∧ Ready o c l schedule log s' ∧
        e.pool.bufferSize = l.registers.payloadSize.toNat ∧
        ∀ b, s'.panickedIn b = false ↔ s.panickedIn b = false ∧ l.registers.Affordable b := by
  obtain rfl := h.options
  obtain ⟨stream, b, hcreate, hcore⟩ := Bench.createStream_core c s.world
  rw [startEngine_eq, Bench.payloadSize_at h.world.at', Bench.overflows_at h.world.at']
  simp only [hcreate, Engine.start_eq]
  split
  · exact ⟨_, _, rfl, { h with
      options := rfl
      world := h.world.of_core hcore }⟩
  · next hable =>
      have hbuffers : s.options.bufferCount ≠ 0 := fun hz => hable (.inl hz)
      refine ⟨_, _, rfl, { h with
        options := rfl
        world := h.world.of_core ((Bench.core_enqueueAll stream _ b).trans hcore) }, rfl,
        fun build => ?_⟩
      simp only [panickedIn_eq_false_iff, Registers.affordable_iff, Pool.overdraws,
        Bool.or_eq_false_iff, Bool.and_eq_false_iff, decide_eq_false_iff_not, not_not, hbuffers,
        false_or, Nat.not_lt, Option.isNone_eq_false_iff]
      grind

/-- A ready session that has buffers and a payload issues a start. -/
theorem Ready.start (h : Ready o c l schedule log s) (hbuffers : o.bufferCount ≠ 0)
    (hpayload : l.registers.payloadSize.toNat ≠ 0) :
    ∃ s', startAcquisition bench s =
        (match schedule log.length with | none => .ok () | some e => .error e, s') ∧
      Restarted o c l schedule log s' ∧
      (schedule log.length = none → ∀ b,
        s'.panickedIn b = false ↔ s.panickedIn b = false ∧ l.registers.Affordable b) := by
  have hidle : s.acquisition ≠ .streaming := ne_streaming_of_idle h.acquisition
  have hengine := h.startEngine
    ⟨l.registers.settings.width, l.registers.settings.height, l.registers.settings.format⟩
  rw [if_neg (by rintro (h | h) <;> [exact hbuffers h; exact hpayload h])] at hengine
  obtain ⟨e, s₁, hstart, hready, hsize, hmarks⟩ := hengine
  rw [startAcquisition_eq hidle h.closed h.connection h.settings, hstart]
  have hexecute := hready.world.execute .acquisitionStart
  simp only
  cases hverdict : schedule log.length with
  | none =>
      rw [hverdict] at hexecute
      obtain ⟨b, hb, hshows⟩ := hexecute
      have hsupplied := (Bench.startEngine_supplied h.world.at' hstart).setAcquiring true
      have hworld : b.world = s₁.world.world.setAcquiring c true := Bench.execute_world hb
      rw [hb]
      exact ⟨_, rfl, .inl ⟨hverdict, { hready with
        world := hshows
        fit := ⟨hready.fit.canonical, hready.fit.restorable⟩
        acquisition := rfl
        acquiring := rfl
        buffers := hbuffers
        payload := hpayload
        affordable := fun build hmarked => ((hmarks build).1 hmarked).2
        engine := ⟨e, rfl, hsize, [], [], hworld ▸ hsupplied⟩ }⟩, fun _ => hmarks⟩
  | some err =>
      rw [hverdict] at hexecute
      obtain ⟨b, hb, hshows⟩ := hexecute
      rw [hb]
      exact ⟨_, rfl, .inr ⟨⟨err, hverdict⟩, { hready with
        world := hshows.of_core (Bench.core_drained e _ b) }⟩, fun hnone => (nomatch hnone)⟩

/-- Without buffers, or without a payload, no command is issued. -/
theorem Ready.start_unable (h : Ready o c l schedule log s)
    (hbad : o.bufferCount = 0 ∨ l.registers.payloadSize.toNat = 0) :
    Ready o c l schedule log (startAcquisition bench s).2 := by
  have hidle : s.acquisition ≠ .streaming := ne_streaming_of_idle h.acquisition
  have hengine := h.startEngine
    ⟨l.registers.settings.width, l.registers.settings.height, l.registers.settings.format⟩
  rw [if_pos hbad] at hengine
  obtain ⟨e, s₁, hstart, hready⟩ := hengine
  rw [startAcquisition_eq hidle h.closed h.connection h.settings, hstart]
  exact hready

/-- Stopping takes the ring back whether the device stops or not. -/
theorem Live.stop (h : Live o c l schedule log s) :
    match schedule log.length with
    | none => ∃ s', stopAcquisition bench s = (.ok (), s') ∧
        Ready o c { l with acquiring := false } schedule (stopped true :: log) s' ∧
        ∀ b, s'.panickedIn b = false ↔ s.panickedIn b = false ∧
          s.world.world.now + o.drainTimeout ≤ Instant.latest
    | some e => ∃ s', stopAcquisition bench s = (.error e, s') ∧
        Ready o c l schedule (stopped false :: log) s' := by
  obtain ⟨e, he, -⟩ := h.engine
  rw [stopAcquisition_eq h.closed h.acquisition h.connection he]
  have hexecute := h.world.execute .acquisitionStop
  cases hverdict : schedule log.length with
  | none =>
      rw [hverdict] at hexecute
      obtain ⟨b, hb, hshows⟩ := hexecute
      have hnow : b.world.now = s.world.world.now := by rw [Bench.execute_world hb]; rfl
      rw [hb]
      refine ⟨_, rfl, { h with
        world := hshows.of_core (Bench.core_drained e _ b)
        fit := ⟨h.fit.canonical, h.fit.restorable⟩
        engine := rfl
        acquisition := rfl }, fun build => ?_⟩
      have hlasts : Engine.outlasts bench.clock s.options.drainTimeout b = false ↔
          s.world.world.now + o.drainTimeout ≤ Instant.latest := by
        rw [← hnow, ← h.options, ← Nat.not_lt]
        exact decide_eq_false_iff_not
      simp only [panickedIn_eq_false_iff, Bool.or_eq_false_iff, hlasts]
      grind
  | some err =>
      rw [hverdict] at hexecute
      obtain ⟨b, hb, hshows⟩ := hexecute
      rw [hb]
      exact ⟨_, rfl, { h with
        world := hshows.of_core (Bench.core_drained e _ b)
        engine := rfl
        acquisition := rfl }⟩

/-! ## Writing a configuration -/

/-- The registers were written, and the settings read again. -/
theorem Ready.written (h : Ready o c l schedule log s) {r : Registers}
    (hr : Bench.Fit { l with registers := r }) :
    Ready o c { l with registers := r } schedule log
      { s with
        world := s.world.putLink c { l with registers := r }
        settings := some r.settings
        acquisition := .idle } :=
  { h with
    settings := rfl
    world := h.world.putLink _
    fit := hr
    acquisition := rfl }

theorem Ready.reconfigure (h : Ready o c l schedule log s) (x : Settings) :
    match Registers.writeAll l.camera l.acquiring x.writes l.registers with
    | .ok r => ∃ s', Session.reconfigure bench x s = (.ok (.ok ()), s') ∧
        Ready o c { l with registers := r } schedule log s' ∧
          ∀ b, s'.panickedIn b = s.panickedIn b
    | .error e => ∃ s', Session.reconfigure bench x s = (.ok (.error e), s') ∧
        Ready o c l schedule log s' ∧
          ∀ b, s'.panickedIn b = s.panickedIn b := by
  rw [reconfigure_eq x h.closed h.connection, Bench.applySettings_at h.world.at' h.fit]
  cases hall : Registers.writeAll l.camera l.acquiring x.writes l.registers with
  | error e =>
      have hready : Ready o c l schedule log { s with acquisition := .idle } := by
        rw [← h.acquisition]
        exact h
      exact ⟨_, rfl, hready, fun _ => rfl⟩
  | ok r =>
      have hfit : Bench.Fit { l with registers := r } := h.fit.writeAll _ hall
      simp only
      rw [Bench.readSettings_at (h.world.at'.putLink _) hfit.restorable.canonical]
      exact ⟨_, rfl, h.written hfit, fun _ => rfl⟩

theorem Ready.fallBack (h : Ready o c l schedule log s) (x : Settings) {r : Registers}
    (hall : Registers.writeAll l.camera l.acquiring x.writes l.registers = .ok r) :
    Ready o c { l with registers := r } schedule log
      (Session.fallBack bench (some x) s).2 := by
  have hfit : Bench.Fit { l with registers := r } := h.fit.writeAll _ hall
  rw [fallBack_eq x h.closed h.connection, Bench.applySettings_at h.world.at' h.fit, hall]
  simp only
  rw [Bench.readSettings_at (h.world.at'.putLink _) hfit.restorable.canonical]
  have hready := h.written hfit
  rwa [← h.acquisition] at hready

/-! ## The exits of `configure` -/

/-- The camera offers its formats, each as it is. -/
theorem Attached.advertisedFormats (h : Attached o c l schedule log s) :
    Session.advertisedFormats bench s = (.ok l.camera.formats, s) := by
  have hparse : (l.camera.formats.map PixelFormat.name).map PixelFormat.parse =
      l.camera.formats := by
    have hcanonical : ∀ f ∈ l.camera.formats, (PixelFormat.parse ∘ PixelFormat.name) f = id f :=
      h.fit.canonical
    rw [List.map_map, List.map_congr_left hcanonical, List.map_id]
  rw [advertisedFormats_eq h.closed h.connection, Bench.featureOptions_at h.world.at']
  show (Except.ok (List.map PixelFormat.parse _), _) = _
  rw [hparse]

theorem Ready.configure (h : Ready o c l schedule log s) (x : Settings) :
    (l.acquiring = false ∧ l.camera.Takes x ∧ ∃ s',
        Session.configure bench x.width x.height x.format x.rate s = (.ok (), s') ∧
        Ready o c { l with registers := l.registers.configured x } schedule log s') ∨
      ¬(l.acquiring = false ∧ l.camera.Takes x) ∧ ∃ e s',
        Session.configure bench x.width x.height x.format x.rate s = (.error e, s') ∧
        Ready o c l schedule log s' := by
  have hidle : s.acquisition ≠ .streaming := ne_streaming_of_idle h.acquisition
  have hformats := h.advertisedFormats
  by_cases hf : x.format ∈ l.camera.formats
  · rw [configure_of_rest x.width x.height x.rate hformats hf hidle]
    have hwrite := h.reconfigure x
    by_cases hx : l.acquiring = false ∧ l.camera.Takes x
    · rw [h.fit.writeAll_of_takes hx.1 hx.2] at hwrite
      obtain ⟨s', hs', hready, -⟩ := hwrite
      rw [hs']
      exact .inl ⟨hx.1, hx.2, s', rfl, hready⟩
    · have hrefused : ∃ e, Registers.writeAll l.camera l.acquiring x.writes l.registers =
          .error e := by
        cases hacq : l.acquiring with
        | true => exact ⟨_, Registers.writeAll_of_acquiring l.registers x⟩
        | false =>
            rw [← hacq]
            exact h.fit.writeAll_of_not_takes hf fun ht => hx ⟨hacq, ht⟩
      obtain ⟨e, he⟩ := hrefused
      rw [he] at hwrite
      obtain ⟨s', hs', hready, -⟩ := hwrite
      rw [hs']
      exact .inr ⟨hx, e, s', rfl, hready⟩
  · rw [configure_of_unlisted x.width x.height x.rate hformats hf]
    exact .inr ⟨fun hx => hf hx.2.format, _, s, rfl, h⟩

/-- How a call of `configure` ends that was made while streaming: what it
answers, and what becomes of the session. -/
inductive ConfigureExit (o : SessionOptions) (c : ConnectionId) (l : Link)
    (schedule : Nat → Option CameraError) (log : List (String × Bool)) (x : Settings) :
    Except CameraError Unit → Session Bench → Prop
  /-- The format is not one of the camera's; nothing is touched. -/
  | unlisted {e s'} (hx : ¬l.camera.Takes x) (h : Live o c l schedule log s') :
      ConfigureExit o c l schedule log x (.error e) s'
  /-- The device would not stop. -/
  | unstopped {e s'} (hstop : schedule log.length = some e)
      (h : Restarted o c l schedule (stopped false :: log) s') :
      ConfigureExit o c l schedule log x (.error e) s'
  /-- The camera does not take the configuration. -/
  | rejected {e s'} (hstop : schedule log.length = none) (hx : ¬l.camera.Takes x)
      (h : Restarted o c { l with acquiring := false } schedule
        (stopped true :: log) s') :
      ConfigureExit o c l schedule log x (.error e) s'
  /-- All went well. -/
  | done {s'} (hstop : schedule log.length = none) (hx : l.camera.Takes x)
      (hstart : schedule (log.length + 1) = none)
      (h : Live o c ⟨l.camera, l.registers.configured x, true⟩ schedule
        (started true :: stopped true :: log) s') :
      ConfigureExit o c l schedule log x (.ok ()) s'
  /-- The device would not start again, and the settings of before were put
  back. -/
  | reverted {e s'} (hstop : schedule log.length = none) (hx : l.camera.Takes x)
      (hstart : schedule (log.length + 1) = some e)
      (h : Restarted o c
        ⟨l.camera, { l.registers with rateEnabled := true }, false⟩ schedule
        (started false :: stopped true :: log) s') :
      ConfigureExit o c l schedule log x (.error e) s'

/-- Streaming again after a configuration that was rejected. -/
theorem Ready.restart_rejected (h : Ready o c l schedule log s)
    (hbuffers : o.bufferCount ≠ 0) (hpayload : l.registers.payloadSize.toNat ≠ 0)
    (previous : Option Settings) (e : CameraError) :
    ∃ s', restart bench previous (.error e) s = (.error e, s') ∧
      Restarted o c l schedule log s' := by
  obtain ⟨s', hs', hrestarted, -⟩ := h.start hbuffers hpayload
  refine ⟨s', ?_, hrestarted⟩
  rw [restart_eq, hs']
  cases schedule log.length <;> rfl

/-- Streaming again after a configuration that was taken: with it, or after the
settings of before were put back. -/
theorem Ready.restart_taken (h : Ready o c l schedule log s)
    (hbuffers : o.bufferCount ≠ 0) (hpayload : l.registers.payloadSize.toNat ≠ 0)
    {previous : Settings} {r : Registers}
    (hback : Registers.writeAll l.camera l.acquiring previous.writes l.registers = .ok r)
    (hpayload' : r.payloadSize.toNat ≠ 0) :
    match schedule log.length with
    | none => ∃ s', restart bench (some previous) (.ok ()) s = (.ok (), s') ∧
        Live o c { l with acquiring := true } schedule (started true :: log) s'
    | some e => ∃ s', restart bench (some previous) (.ok ()) s = (.error e, s') ∧
        Restarted o c { l with registers := r } schedule (started false :: log) s' := by
  obtain ⟨s₁, hs₁, hrestarted, -⟩ := h.start hbuffers hpayload
  rw [restart_eq, hs₁]
  rcases hrestarted with ⟨hverdict, hlive⟩ | ⟨⟨e, hverdict⟩, hready⟩
  · rw [hverdict]
    exact ⟨s₁, rfl, hlive⟩
  · rw [hverdict]
    obtain ⟨s₂, hs₂, hagain, -⟩ := (hready.fallBack previous hback).start hbuffers hpayload'
    refine ⟨s₂, ?_, hagain⟩
    simp only
    rw [hs₂]

theorem Live.configure (h : Live o c l schedule log s) (x : Settings) :
    ConfigureExit o c l schedule log x
      (Session.configure bench x.width x.height x.format x.rate s).1
      (Session.configure bench x.width x.height x.format x.rate s).2 := by
  have hformats := h.advertisedFormats
  by_cases hf : x.format ∈ l.camera.formats
  · rw [configure_of_streaming x.width x.height x.rate hformats hf h.acquisition,
      h.settings]
    have hstop := h.stop
    cases hverdict : schedule log.length with
    | some e =>
        rw [hverdict] at hstop
        obtain ⟨s₁, hs₁, hready⟩ := hstop
        obtain ⟨s₂, hs₂, hrestarted, -⟩ := hready.start h.buffers h.payload
        rw [hs₁]
        simp only
        rw [hs₂]
        exact .unstopped hverdict hrestarted
    | none =>
        rw [hverdict] at hstop
        obtain ⟨s₁, hs₁, hready, -⟩ := hstop
        have hwrite := hready.reconfigure x
        rw [hs₁]
        simp only
        by_cases hx : l.camera.Takes x
        · rw [hready.fit.writeAll_of_takes rfl hx] at hwrite
          obtain ⟨s₂, hs₂, htaken, -⟩ := hwrite
          have hpayload : (l.registers.configured x).payloadSize.toNat ≠ 0 :=
            Registers.payloadSize_ne_zero hx.width.1 hx.height.1
          have hprevious : l.camera.Takes l.registers.settings :=
            h.fit.restorable.takes hx
          have hback := htaken.fit.writeAll_of_takes rfl hprevious
          have hpayload' : (Registers.configured (l.registers.configured x)
              l.registers.settings).payloadSize.toNat ≠ 0 := h.payload
          have hrestart := htaken.restart_taken h.buffers hpayload hback hpayload'
          rw [hs₂]
          simp only
          cases hstart : schedule (log.length + 1) with
          | none =>
              rw [List.length_cons, hstart] at hrestart
              obtain ⟨s₃, hs₃, hlive⟩ := hrestart
              rw [hs₃]
              exact .done hverdict hx hstart hlive
          | some e =>
              rw [List.length_cons, hstart] at hrestart
              obtain ⟨s₃, hs₃, hrestarted⟩ := hrestart
              rw [hs₃]
              exact .reverted hverdict hx hstart hrestarted
        · obtain ⟨e, he⟩ := hready.fit.writeAll_of_not_takes hf hx
          rw [he] at hwrite
          obtain ⟨s₂, hs₂, hkept, -⟩ := hwrite
          obtain ⟨s₃, hs₃, hrestarted⟩ :=
            hkept.restart_rejected h.buffers h.payload (some l.registers.settings) e
          rw [hs₂]
          simp only
          rw [hs₃]
          exact .rejected hverdict hx hrestarted
  · rw [configure_of_unlisted x.width x.height x.rate hformats hf]
    exact .unlisted (fun hx => hf hx.format) h

/-! ## Every session on a bench -/

/-- The session has not connected to a camera. -/
structure Detached (o : SessionOptions) (schedule : Nat → Option CameraError)
    (s : Session Bench) : Prop where
  options : s.options = o
  closed : s.closed = false
  descriptor : s.descriptor = none
  connection : s.connection = none
  engine : s.engine = none
  acquisition : s.acquisition = .idle
  schedule : s.world.schedule = schedule
  cameras : ∀ camera ∈ s.world.world.cameras, camera.Canonical

/-- The session is closed. -/
structure Departed (s : Session Bench) : Prop where
  closed : s.closed = true
  acquisition : s.acquisition = .idle

/-- Where a session on a bench stands between two operations. Its camera is one of
those on the bench, and rests when the session does, unless commands are refused. -/
inductive OnBench (cameras : List Camera) (o : SessionOptions)
    (schedule : Nat → Option CameraError) (s : Session Bench) : Prop
  | detached (h : Detached o schedule s) (hcameras : s.world.world.cameras = cameras)
  | ready (c : ConnectionId) (l : Link) (log : List (String × Bool))
      (h : Ready o c l schedule log s) (hcamera : l.camera ∈ cameras)
      (hrest : l.acquiring = true → ∃ n, schedule n ≠ none)
  | live (c : ConnectionId) (l : Link) (log : List (String × Bool))
      (h : Live o c l schedule log s) (hcamera : l.camera ∈ cameras)
  | departed (h : Departed s)

variable {cameras : List Camera}

theorem Restarted.onBench (h : Restarted o c l schedule log s) (hcamera : l.camera ∈ cameras) :
    OnBench cameras o schedule s := by
  rcases h with ⟨-, h⟩ | ⟨⟨e, he⟩, h⟩
  · exact .live c _ _ h hcamera
  · refine .ready c l _ h hcamera fun _ => ⟨log.length, ?_⟩
    rw [he]
    exact Option.some_ne_none e

theorem ConfigureExit.onBench {x : Settings} {r : Except CameraError Unit}
    (h : ConfigureExit o c l schedule log x r s) (hcamera : l.camera ∈ cameras) :
    OnBench cameras o schedule s := by
  cases h with
  | unlisted hx h => exact .live c l log h hcamera
  | unstopped hstop h => exact h.onBench hcamera
  | rejected hstop hx h => exact h.onBench hcamera
  | done hstop hx hstart h => exact .live c _ _ h hcamera
  | reverted hstop hx hstart h => exact h.onBench hcamera

theorem Detached.connect (h : Detached o schedule s)
    (hcameras : s.world.world.cameras = cameras) (d : Descriptor) :
    OnBench cameras o schedule (Session.connect bench d s).2 := by
  rw [connect_eq d h.closed h.descriptor]
  have hconnect := Bench.connect_cases d s.world
  rcases hr : bench.connect d s.world with ⟨e | c, b⟩ <;> rw [hr] at hconnect
  · have hb : b = s.world := hconnect
    rw [hb]
    exact .detached h hcameras
  · obtain ⟨camera, hcamera, hshows⟩ := hconnect
    have hcanonical : camera.Canonical := h.cameras camera hcamera
    have hmem : camera ∈ cameras := hcameras ▸ hcamera
    have hfit : Bench.Fit ⟨camera, Registers.initial camera, false⟩ :=
      ⟨hcanonical, Registers.initial_restorable hcanonical⟩
    rw [h.schedule] at hshows
    simp only
    rw [Bench.setFeature_at hshows.at']
    cases hw : (Registers.initial camera).write camera false .acquisitionMode
        (.enum "Continuous") with
    | error e =>
        simp only
        rw [Bench.readSettings_at hshows.at' hfit.restorable.canonical]
        refine .ready c ⟨camera, Registers.initial camera, false⟩ s.world.commands ?_ hmem
          fun hacquiring => (nomatch hacquiring)
        exact { h with
          descriptor := rfl
          connection := rfl
          settings := rfl
          world := hshows
          fit := hfit
          acquisition := rfl }
    | ok r =>
        have hfit' : Bench.Fit ⟨camera, r, false⟩ := hfit.write hw
        simp only
        rw [Bench.readSettings_at (hshows.at'.putLink _) hfit'.restorable.canonical]
        refine .ready c ⟨camera, r, false⟩ s.world.commands ?_ hmem
          fun hacquiring => (nomatch hacquiring)
        exact { h with
          descriptor := rfl
          connection := rfl
          settings := rfl
          world := hshows.putLink _
          fit := hfit'
          acquisition := rfl }

theorem Live.grab (h : Live o c l schedule log s) (timeout : Span) :
    Live o c l schedule log (Session.grab bench timeout s).2 := by
  obtain ⟨e, he, hsize, served, pending, hsupplied⟩ := h.engine
  obtain ⟨-, hpool⟩ := Engine.grab_ring (bench.channel e.stream) bench.clock e timeout s.world
  have hlater := (Bench.grab_supplied hsupplied timeout).supplied
  rw [grab_eq timeout h.closed h.acquisition he]
  exact { h with
    world := h.world.of_core (Bench.core_grab e timeout s.world)
    affordable := fun build hmarked => h.affordable build (by
      rw [panickedIn_eq_false_iff] at hmarked ⊢
      exact ⟨(Bool.or_eq_false_iff.1 hmarked.1).1,
        fun hbuild => (Bool.or_eq_false_iff.1 (hmarked.2 hbuild)).1⟩)
    engine := ⟨_, rfl, by rw [hpool]; exact hsize, hlater⟩ }

theorem Detached.perform (h : Detached o schedule s)
    (hcameras : s.world.world.cameras = cameras) (x : Operation) :
    OnBench cameras o schedule (x.perform bench s).2 := by
  have hidle : s.acquisition ≠ .streaming := ne_streaming_of_idle h.acquisition
  rcases Operation.perform_of_apart (t := bench) h.closed h.connection hidle x with
    ⟨d, rfl⟩ | rfl | hsame
  · rw [Operation.perform, SessionM.run_map]
    exact h.connect hcameras d
  · rw [Operation.perform, SessionM.run_map, disconnect_eq h.closed,
      stopAcquisition_of_rest h.closed hidle]
    exact .departed ⟨rfl, h.acquisition⟩
  · rw [hsame]
    exact .detached h hcameras

theorem Ready.perform (h : Ready o c l schedule log s) (hcamera : l.camera ∈ cameras)
    (hrest : l.acquiring = true → ∃ n, schedule n ≠ none) (x : Operation) :
    OnBench cameras o schedule (x.perform bench s).2 := by
  have hidle : s.acquisition ≠ .streaming := ne_streaming_of_idle h.acquisition
  have hsame : OnBench cameras o schedule s := .ready c l log h hcamera hrest
  cases x with
  | connect d =>
      obtain ⟨current, hd⟩ := Option.isSome_iff_exists.1 h.descriptor
      rw [Operation.perform, SessionM.run_map, connect_of_descriptor d h.closed hd]
      exact hsame
  | formats =>
      rw [Operation.perform, SessionM.run_map, h.advertisedFormats]
      exact hsame
  | configure width height format rate =>
      rw [Operation.perform, SessionM.run_map]
      rcases h.configure ⟨width, height, format, rate⟩ with
        ⟨-, -, s', hs', hready⟩ | ⟨-, e, s', hs', hready⟩
      · rw [hs']
        exact .ready c _ log hready hcamera hrest
      · rw [hs']
        exact .ready c l log hready hcamera hrest
  | start =>
      rw [Operation.perform, SessionM.run_map]
      by_cases hbad : o.bufferCount = 0 ∨ l.registers.payloadSize.toNat = 0
      · exact .ready c l log (h.start_unable hbad) hcamera hrest
      · obtain ⟨s', hs', hrestarted, -⟩ := h.start (fun h => hbad (.inl h)) fun h => hbad (.inr h)
        rw [hs']
        exact hrestarted.onBench hcamera
  | stop =>
      rw [Operation.perform, SessionM.run_map, stopAcquisition_of_rest h.closed hidle]
      exact hsame
  | grab timeout =>
      rw [Operation.perform, SessionM.run_map, grab_of_rest timeout h.closed hidle]
      exact hsame
  | disconnect =>
      rw [Operation.perform, SessionM.run_map, disconnect_eq h.closed,
        stopAcquisition_of_rest h.closed hidle]
      exact .departed ⟨rfl, h.acquisition⟩

/-- A session that was stopped has its camera at rest, unless it would not stop. -/
theorem Live.stop_ready (h : Live o c l schedule log s) :
    ∃ l' log', Ready o c l' schedule log' (stopAcquisition bench s).2 ∧ l'.camera = l.camera ∧
      (l'.acquiring = true → ∃ n, schedule n ≠ none) := by
  have hstop := h.stop
  cases hverdict : schedule log.length with
  | none =>
      rw [hverdict] at hstop
      obtain ⟨s', hs', hready, -⟩ := hstop
      rw [hs']
      exact ⟨_, _, hready, rfl, fun hacquiring => (nomatch hacquiring)⟩
  | some e =>
      rw [hverdict] at hstop
      obtain ⟨s', hs', hready⟩ := hstop
      rw [hs']
      refine ⟨_, _, hready, rfl, fun _ => ⟨log.length, ?_⟩⟩
      rw [hverdict]
      exact Option.some_ne_none e

theorem Live.perform (h : Live o c l schedule log s) (hcamera : l.camera ∈ cameras)
    (x : Operation) : OnBench cameras o schedule (x.perform bench s).2 := by
  obtain ⟨l', log', hstop, hsame, hrest⟩ := h.stop_ready
  cases x with
  | connect d =>
      obtain ⟨current, hd⟩ := Option.isSome_iff_exists.1 h.descriptor
      rw [Operation.perform, SessionM.run_map, connect_of_descriptor d h.closed hd]
      exact .live c l log h hcamera
  | formats =>
      rw [Operation.perform, SessionM.run_map, h.advertisedFormats]
      exact .live c l log h hcamera
  | configure width height format rate =>
      rw [Operation.perform, SessionM.run_map]
      exact (h.configure ⟨width, height, format, rate⟩).onBench hcamera
  | start =>
      rw [Operation.perform, SessionM.run_map, startAcquisition_of_streaming h.acquisition]
      exact .live c l log h hcamera
  | stop =>
      rw [Operation.perform, SessionM.run_map]
      exact .ready c l' log' hstop (hsame ▸ hcamera) hrest
  | grab timeout =>
      rw [Operation.perform, SessionM.run_map]
      exact .live c l log (h.grab timeout) hcamera
  | disconnect =>
      rw [Operation.perform, SessionM.run_map, disconnect_eq h.closed]
      exact .departed ⟨rfl, hstop.acquisition⟩

theorem OnBench.perform (h : OnBench cameras o schedule s) (x : Operation) :
    OnBench cameras o schedule (x.perform bench s).2 := by
  cases h with
  | detached h hcameras => exact h.perform hcameras x
  | ready c l log h hcamera hrest => exact h.perform hcamera hrest x
  | live c l log h hcamera => exact h.perform hcamera x
  | departed h =>
      rw [Operation.perform_of_closed h.closed (ne_streaming_of_idle h.acquisition)]
      exact .departed h

theorem OnBench.wait (h : OnBench cameras o schedule s) (span : Span) :
    OnBench cameras o schedule ((clock bench).sleep span s) := by
  have hcore := Bench.core_sleep span s.world
  cases h with
  | detached h hcameras =>
      exact .detached ⟨h.options, h.closed, h.descriptor, h.connection, h.engine,
        h.acquisition, h.schedule, h.cameras⟩ hcameras
  | ready c l log h hcamera hrest =>
      refine .ready c l log ?_ hcamera hrest
      exact { h with
        world := h.world.of_core hcore }
  | live c l log h hcamera =>
      obtain ⟨e, he, hsize, served, pending, hsupplied⟩ := h.engine
      obtain ⟨more, hlater⟩ := hsupplied.sleep span
      refine .live c l log ?_ hcamera
      exact { h with
        world := h.world.of_core hcore
        engine := ⟨e, he, hsize, served, _, hlater⟩ }
  | departed h => exact .departed ⟨h.closed, h.acquisition⟩

/-- Whatever is asked of a session on a bench of cameras with canonical formats,
and however long it is left alone. -/
theorem onBench_of_reachable
    (hcameras : ∀ camera ∈ cameras, camera.Canonical)
    (h : Reachable bench (new ⟨{ cameras }, schedule, []⟩ o) s) :
    OnBench cameras o schedule s := by
  induction h with
  | start => exact .detached ⟨rfl, rfl, rfl, rfl, rfl, rfl, rfl, hcameras⟩ rfl
  | perform x _ ih => exact ih.perform x
  | wait span _ ih => exact ih.wait span

end Session
end FrameGrabber
