import FrameGrabber.Session.Operation

/-!
# Running the operations of a session

An operation is written as a program; what it does is a function of the answers
that it gets. The first section says how the parts of such a program run, and
the second reads every operation of a session as that function, for a session
that stands where the operation applies. The proofs about sessions start from
these equations and never open a program again.

An operation that does not apply (the session is closed, not connected, or
already streaming) is told apart by the same fields that the program looks at,
and leaves the session as it is.
-/

namespace FrameGrabber

namespace SessionM

variable {W α β : Type}

@[simp] theorem run_pure (a : α) (s : Session W) :
    (pure a : SessionM W α) s = (.ok a, s) := rfl

@[simp] theorem run_throw (e : CameraError) (s : Session W) :
    (throw e : SessionM W α) s = (.error e, s) := rfl

@[simp] theorem run_get (s : Session W) :
    (get : SessionM W (Session W)) s = (.ok s, s) := rfl

@[simp] theorem run_set (x s : Session W) :
    (set x : SessionM W PUnit) s = (.ok ⟨⟩, x) := rfl

@[simp] theorem run_modify (f : Session W → Session W) (s : Session W) :
    (modify f : SessionM W PUnit) s = (.ok ⟨⟩, f s) := rfl

@[simp] theorem run_bind (x : SessionM W α) (k : α → SessionM W β)
    (s : Session W) :
    (x >>= k) s = match x s with
      | (.ok a, s) => k a s
      | (.error e, s) => (.error e, s) := by
  show ExceptT.bind x k s = _
  simp only [ExceptT.bind, ExceptT.mk, bind, StateT.bind, ExceptT.bindCont]
  rcases x s with ⟨_ | _, _⟩ <;> rfl

@[simp] theorem run_map (f : α → β) (x : SessionM W α) (s : Session W) :
    (f <$> x) s = ((x s).1.map f, (x s).2) := by
  show ExceptT.map f x s = _
  simp only [ExceptT.map, ExceptT.mk, bind, StateT.bind]
  rcases x s with ⟨_ | _, _⟩ <;> rfl

@[simp] theorem run_call (f : Call W α) (s : Session W) :
    call f s = ((f s.world).1, { s with world := (f s.world).2 }) := rfl

@[simp] theorem run_act (f : W → α × W) (s : Session W) :
    act f s = (.ok (f s.world).1, { s with world := (f s.world).2 }) := rfl

@[simp] theorem run_attempt (x : SessionM W α) (s : Session W) :
    attempt x s = (.ok (x s).1, (x s).2) := rfl

theorem linked_of_closed {s : Session W} (hc : s.closed = true) :
    linked s = (.error .sessionClosed, s) := by
  simp [linked, hc]

theorem linked_of_apart {s : Session W} (hc : s.closed = false)
    (hl : s.connection = none) : linked s = (.error .notConnected, s) := by
  simp [linked, hc, hl]

theorem linked_of_connection {s : Session W} {c : ConnectionId}
    (hc : s.closed = false) (hl : s.connection = some c) :
    linked s = (.ok c, s) := by
  simp [linked, hc, hl]

end SessionM

namespace Session

open SessionM

variable {W : Type} {t : Transport W} {s : Session W} {c : ConnectionId}

theorem panickedIn_eq_false_iff {b : Build} :
    s.panickedIn b = false ↔ s.panicked = false ∧ (b = .checked → s.overflowed = false) := by
  unfold panickedIn
  cases b <;> simp

theorem ne_streaming_of_idle (h : s.acquisition = .idle) :
    s.acquisition ≠ .streaming := by
  rw [h]
  decide

/-! ## Connecting, asking and configuring -/

theorem connect_of_closed (d : Descriptor) (hc : s.closed = true) :
    connect t d s = (.error .sessionClosed, s) := by
  simp [connect, hc]

theorem connect_of_descriptor {current : Descriptor} (d : Descriptor)
    (hc : s.closed = false) (hd : s.descriptor = some current) :
    connect t d s = (.error (.alreadyConnected current.text), s) := by
  simp [connect, hc, hd]

theorem connect_eq (d : Descriptor) (hc : s.closed = false)
    (hd : s.descriptor = none) :
    connect t d s = match t.connect d s.world with
      | (.error e, w) => (.error e, { s with world := w })
      | (.ok c, w) =>
        let w := (t.setFeature c Feature.acquisitionMode.name (.enum "Continuous") w).2
        let (settings, w) := t.readSettings c w
        (.ok (),
          { s with
            world := w, counters := {}, connection := some c
            descriptor := some d, settings := some settings
            acquisition := .idle }) := by
  simp only [connect, run_bind, run_get, hc, hd, Bool.false_eq_true, if_false,
    run_call, run_attempt, run_act, run_modify]
  rcases t.connect d s.world with ⟨_ | _, _⟩ <;> rfl

theorem advertisedFormats_eq (hc : s.closed = false)
    (hl : s.connection = some c) :
    advertisedFormats t s =
      (((t.featureOptions c Feature.pixelFormat.name s.world).1).map
          (List.map PixelFormat.parse),
        { s with world := (t.featureOptions c Feature.pixelFormat.name s.world).2 }) := by
  simp only [advertisedFormats, run_bind, linked_of_connection hc hl, run_call]
  rcases t.featureOptions c Feature.pixelFormat.name s.world with ⟨_ | _, _⟩ <;> rfl

theorem refreshSettings_eq (hl : s.connection = some c) :
    refreshSettings t s =
      (.ok (),
        { s with
          world := (t.readSettings c s.world).2
          settings := some (t.readSettings c s.world).1 }) := by
  simp [refreshSettings, hl]

theorem apply_eq (x : Settings) (hc : s.closed = false)
    (hl : s.connection = some c) :
    apply t x s =
      ((t.applySettings c x s.world).1,
        { s with world := (t.applySettings c x s.world).2 }) := by
  simp [apply, linked_of_connection hc hl]

/-- Writing a configuration is writing it to the device, and then reading the
settings back if the device took it. -/
theorem reconfigure_eq (x : Settings) (hc : s.closed = false)
    (hl : s.connection = some c) :
    reconfigure t x s = match t.applySettings c x s.world with
      | (.ok (), w) =>
        (.ok (.ok ()),
          { s with
            world := (t.readSettings c w).2
            settings := some (t.readSettings c w).1
            acquisition := .idle })
      | (.error e, w) => (.ok (.error e), { s with world := w, acquisition := .idle }) := by
  simp only [reconfigure, run_bind, run_modify, run_attempt]
  rw [apply_eq x (by exact hc) (by exact hl)]
  rcases t.applySettings c x s.world with ⟨_ | _, _⟩
  · rfl
  · simp only [run_bind]
    rw [refreshSettings_eq (c := c) (by exact hl)]
    rfl

theorem fallBack_eq (x : Settings) (hc : s.closed = false)
    (hl : s.connection = some c) :
    fallBack t (some x) s = match t.applySettings c x s.world with
      | (.ok (), w) =>
        (.ok (),
          { s with
            world := (t.readSettings c w).2
            settings := some (t.readSettings c w).1 })
      | (.error _, w) => (.ok (), { s with world := w }) := by
  simp only [fallBack, run_bind, run_attempt]
  rw [apply_eq x hc hl]
  rcases t.applySettings c x s.world with ⟨_ | _, _⟩
  · rfl
  · exact refreshSettings_eq (by exact hl)

/-! ## Starting and stopping -/

/-- The world after the ring of an engine has been taken back and its stream let
go of. -/
def drained (t : Transport W) (e : Engine) (wait : Span) (w : W) : W :=
  t.releaseStream e.stream (e.stop (t.channel e.stream) t.clock wait w).2

theorem drainEngine_eq (e : Engine) :
    drainEngine t e s =
      (.ok (e.stop (t.channel e.stream) t.clock s.options.drainTimeout s.world).1,
        { s with
          world := drained t e s.options.drainTimeout s.world
          panicked := s.panicked || Engine.outlasts t.clock s.options.drainTimeout s.world }) := by
  simp [drainEngine, drained, Except.map]

theorem startEngine_eq (g : Geometry) :
    startEngine t c g s =
      let overflowed := s.overflowed || t.overflows c s.world
      match t.payloadSize c s.world with
      | (.error e, w) => (.error e, { s with world := w, overflowed })
      | (.ok size, w) =>
        let panicked := s.panicked || Pool.overdraws s.options.bufferCount size
        match t.createStream c w with
        | (.error e, w) => (.error e, { s with world := w, overflowed })
        | (.ok stream, w) =>
          match Engine.start (t.channel stream) stream s.options.bufferCount size g
              s.counters s.generations w with
          | (.ok e, generations, world) =>
            (.ok e, { s with generations, world, panicked, overflowed })
          | (.error e, generations, world) =>
            (.error e,
              { s with
                generations, panicked, overflowed
                world := t.releaseStream stream world }) := by
  simp only [startEngine, run_bind, run_modify, run_call]
  rcases t.payloadSize c s.world with ⟨_ | size, w⟩
  · rfl
  · rcases hstream : t.createStream c w with ⟨_ | stream, w⟩
    · simp [hstream]
    · simp only [hstream, run_get, run_set]
      rcases Engine.start (t.channel stream) stream s.options.bufferCount size g
        s.counters s.generations w with ⟨_ | e, generations, world⟩
      · simp
      · rfl

theorem startAcquisition_of_streaming (ha : s.acquisition = .streaming) :
    startAcquisition t s = (.error (.acquisition .alreadyStreaming), s) := by
  simp [startAcquisition, ha]

theorem startAcquisition_of_closed (ha : s.acquisition ≠ .streaming)
    (hc : s.closed = true) :
    startAcquisition t s = (.error .sessionClosed, s) := by
  simp [startAcquisition, ha, linked_of_closed hc]

theorem startAcquisition_of_apart (ha : s.acquisition ≠ .streaming)
    (hc : s.closed = false) (hl : s.connection = none) :
    startAcquisition t s = (.error .notConnected, s) := by
  simp [startAcquisition, ha, linked_of_apart hc hl]

theorem startAcquisition_eq {x : Settings} (ha : s.acquisition ≠ .streaming)
    (hc : s.closed = false) (hl : s.connection = some c)
    (hx : s.settings = some x) :
    startAcquisition t s =
      match startEngine t c ⟨x.width, x.height, x.format⟩ s with
      | (.error e, s) => (.error e, s)
      | (.ok e, s) => match t.execute c Command.acquisitionStart.name s.world with
        | (.ok (), world) =>
          (.ok (), { s with world, engine := some e, acquisition := .streaming })
        | (.error err, w) =>
          (.error err,
            { s with
              world := drained t e s.options.drainTimeout w
              panicked := s.panicked || Engine.outlasts t.clock s.options.drainTimeout w }) := by
  simp only [startAcquisition, run_bind, run_get, ha, if_false,
    linked_of_connection hc hl, hx]
  rcases startEngine t c ⟨x.width, x.height, x.format⟩ s with ⟨_ | e, s₁⟩
  · rfl
  · rcases hstart : t.execute c Command.acquisitionStart.name s₁.world
      with ⟨_ | _, w⟩ <;>
      simp [hstart, drainEngine_eq]

theorem stopAcquisition_of_closed (hc : s.closed = true) :
    stopAcquisition t s = (.error .sessionClosed, s) := by
  simp [stopAcquisition, hc]

theorem stopAcquisition_of_rest (hc : s.closed = false)
    (ha : s.acquisition ≠ .streaming) : stopAcquisition t s = (.ok (), s) := by
  simp [stopAcquisition, hc, ha]

/-- The device is told to stop, and whatever it answers the ring is taken back. -/
theorem stopAcquisition_eq {e : Engine} (hc : s.closed = false)
    (ha : s.acquisition = .streaming) (hl : s.connection = some c)
    (he : s.engine = some e) :
    stopAcquisition t s =
      ((t.execute c Command.acquisitionStop.name s.world).1,
        { s with
          world := drained t e s.options.drainTimeout
            (t.execute c Command.acquisitionStop.name s.world).2
          engine := none, counters := e.counters, acquisition := .idle
          panicked := s.panicked || Engine.outlasts t.clock s.options.drainTimeout
            (t.execute c Command.acquisitionStop.name s.world).2 }) := by
  simp only [stopAcquisition, commandStop, dismissEngine, run_bind, run_get, hc, ha,
    hl, he, run_modify, run_attempt, run_call, drainEngine_eq, Bool.false_eq_true,
    if_false, if_true]
  rcases t.execute c Command.acquisitionStop.name s.world with ⟨_ | _, _⟩ <;> rfl

theorem resume_eq : resume t s = (.ok (), (startAcquisition t s).2) := by
  simp [resume]

/-! ## Configuring as a whole -/

theorem fallBack_fst (previous : Option Settings) :
    (fallBack t previous s).1 = .ok () := by
  cases previous with
  | none => rfl
  | some x =>
      simp only [fallBack, run_bind, run_attempt]
      rcases apply t x s with ⟨_ | _, s₁⟩
      · rfl
      · simp only [refreshSettings, run_bind, run_get]
        cases s₁.connection <;> rfl

theorem restart_eq (previous : Option Settings) (applied : Except CameraError Unit) :
    restart t previous applied s = match startAcquisition t s, applied with
      | (.ok (), s), .ok () => (.ok (), s)
      | (_, s), .error e => (.error e, s)
      | (.error e, s), .ok () =>
        (.error e, (startAcquisition t (fallBack t previous s).2).2) := by
  simp only [restart, run_bind, run_attempt]
  rcases startAcquisition t s with ⟨e | _, s₁⟩ <;> rcases applied with _ | _
  · rfl
  · have hfall : (fallBack t previous s₁).1 = .ok () := fallBack_fst previous
    simp only [run_bind]
    rcases hprev : fallBack t previous s₁ with ⟨r, s₂⟩
    rw [hprev] at hfall
    subst hfall
    simp [resume_eq]
  · rfl
  · rfl

theorem configure_of_refused {e : CameraError} {s₁ : Session W} (width height : UInt32)
    (format : PixelFormat) (rate : Float)
    (hf : advertisedFormats t s = (.error e, s₁)) :
    configure t width height format rate s = (.error e, s₁) := by
  simp [configure, hf]

theorem configure_of_unlisted {offered : List PixelFormat} {s₁ : Session W}
    {format : PixelFormat} (width height : UInt32) (rate : Float)
    (hf : advertisedFormats t s = (.ok offered, s₁)) (hm : format ∉ offered) :
    configure t width height format rate s =
      (.error (.unsupportedFormat format), s₁) := by
  simp [configure, hf, hm]

theorem configure_of_rest {offered : List PixelFormat} {s₁ : Session W}
    {format : PixelFormat} (width height : UInt32) (rate : Float)
    (hf : advertisedFormats t s = (.ok offered, s₁)) (hm : format ∈ offered)
    (ha : s₁.acquisition ≠ .streaming) :
    configure t width height format rate s =
      match reconfigure t ⟨width, height, format, rate⟩ s₁ with
      | (.ok applied, s) => (applied, s)
      | (.error e, s) => (.error e, s) := by
  simp only [configure, run_bind, hf]
  rw [if_pos (by simpa using hm)]
  simp only [run_bind, run_get, ha, if_false]
  rcases reconfigure t ⟨width, height, format, rate⟩ s₁ with ⟨_ | _ | _, _⟩ <;> rfl

theorem configure_of_streaming {offered : List PixelFormat} {s₁ : Session W}
    {format : PixelFormat} (width height : UInt32) (rate : Float)
    (hf : advertisedFormats t s = (.ok offered, s₁)) (hm : format ∈ offered)
    (ha : s₁.acquisition = .streaming) :
    configure t width height format rate s =
      match stopAcquisition t s₁ with
      | (.error e, s) => (.error e, (startAcquisition t s).2)
      | (.ok (), s) => match reconfigure t ⟨width, height, format, rate⟩ s with
        | (.ok applied, s) => restart t s₁.settings applied s
        | (.error e, s) => (.error e, s) := by
  simp only [configure, run_bind, hf]
  rw [if_pos (by simpa using hm)]
  simp only [run_bind, run_get, ha, if_true, run_attempt]
  rcases stopAcquisition t s₁ with ⟨_ | _, s₂⟩
  · simp [resume_eq]
  · simp only [run_bind]
    rcases reconfigure t ⟨width, height, format, rate⟩ s₂ with ⟨_ | _, _⟩ <;> rfl

/-! ## Leaving -/

theorem disconnect_of_closed (hc : s.closed = true) :
    disconnect t s = (.error .sessionClosed, s) := by
  simp [disconnect, hc]

/-- A session that has stopped lets go of its connection, if it has one. -/
theorem disconnect_eq (hc : s.closed = false) :
    disconnect t s =
      let s := (stopAcquisition t s).2
      (.ok (),
        { s with
          world := letGo t s.engine s.connection s.world
          engine := none, connection := none, closed := true }) := by
  simp [disconnect, hc]

theorem grab_of_closed (timeout : Span) (hc : s.closed = true) :
    grab t timeout s = (.error .sessionClosed, s) := by
  simp [grab, hc]

theorem grab_of_rest (timeout : Span) (hc : s.closed = false)
    (ha : s.acquisition ≠ .streaming) :
    grab t timeout s = (.error (.acquisition .notStreaming), s) := by
  simp only [grab, hc]
  cases hacq : s.acquisition <;> simp_all

theorem grab_eq {e : Engine} (timeout : Span) (hc : s.closed = false)
    (ha : s.acquisition = .streaming) (he : s.engine = some e) :
    grab t timeout s =
      let out := e.grab (t.channel e.stream) t.clock timeout s.world
      (out.1,
        { s with
          engine := some out.2.1, world := out.2.2
          panicked := s.panicked || e.stumbles .wrapping (t.channel e.stream) timeout s.world
          overflowed :=
            s.overflowed || e.stumbles .checked (t.channel e.stream) timeout s.world }) := by
  simp [grab, hc, ha, he]

end Session

/-! ## Operations that change nothing -/

variable {W : Type} {t : Transport W} {s : Session W}

/-- A closed session refuses everything and is not touched, nor is its world. -/
theorem Operation.perform_of_closed (hc : s.closed = true)
    (ha : s.acquisition ≠ .streaming) (x : Operation) :
    x.perform t s = (.error .sessionClosed, s) := by
  cases x with
  | connect d =>
      simp [perform, Session.connect_of_closed d hc, Except.map]
  | formats =>
      simp [perform, Session.advertisedFormats, SessionM.linked_of_closed hc, Except.map]
  | configure width height format rate =>
      have hf : Session.advertisedFormats t s = (.error .sessionClosed, s) := by
        simp [Session.advertisedFormats, SessionM.linked_of_closed hc]
      simp [perform, Session.configure_of_refused width height format rate hf, Except.map]
  | start =>
      simp [perform, Session.startAcquisition_of_closed ha hc, Except.map]
  | stop =>
      simp [perform, Session.stopAcquisition_of_closed hc, Except.map]
  | grab timeout =>
      simp [perform, Session.grab_of_closed timeout hc, Except.map]
  | disconnect =>
      simp [perform, Session.disconnect_of_closed hc, Except.map]

/-- Without a device there is nothing to do but to connect or to leave. -/
theorem Operation.perform_of_apart (hc : s.closed = false)
    (hl : s.connection = none) (ha : s.acquisition ≠ .streaming) (x : Operation) :
    (∃ d, x = .connect d) ∨ x = .disconnect ∨ (x.perform t s).2 = s := by
  have hf : Session.advertisedFormats t s = (.error .notConnected, s) := by
    simp [Session.advertisedFormats, SessionM.linked_of_apart hc hl]
  cases x with
  | connect d =>
      exact .inl ⟨d, rfl⟩
  | formats =>
      rw [perform, SessionM.run_map, hf]
      exact .inr (.inr rfl)
  | configure width height format rate =>
      rw [perform, SessionM.run_map,
        Session.configure_of_refused width height format rate hf]
      exact .inr (.inr rfl)
  | start =>
      rw [perform, SessionM.run_map, Session.startAcquisition_of_apart ha hc hl]
      exact .inr (.inr rfl)
  | stop =>
      rw [perform, SessionM.run_map, Session.stopAcquisition_of_rest hc ha]
      exact .inr (.inr rfl)
  | grab timeout =>
      rw [perform, SessionM.run_map, Session.grab_of_rest timeout hc ha]
      exact .inr (.inr rfl)
  | disconnect =>
      exact .inr (.inl rfl)

end FrameGrabber
