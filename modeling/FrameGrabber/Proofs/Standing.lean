import FrameGrabber.Proofs.Passages
import FrameGrabber.Session.Operation

/-!
# Where a session stands

Between two operations a session stands in one of four ways, whatever its
transport answered: it is apart from any device, at rest with one, running an
engine on one, or gone. Each of the four fixes the fields of the session and the
shape of its trace; a ring that is queued while the device has not been told to
start is a fifth, and only the inside of `startAcquisition` sees it.

The lemmas follow the way the operations are built. What starts from rest ends
at rest or running; stopping leads from running to rest, and so does every step
that only writes. `configure` is a chain of these, so it needs no look at its
exits one by one: each of them is at the end of a chain.
-/

namespace FrameGrabber

namespace Session

variable {W : Type}

/-- The session has a device. -/
structure Linked (o : SessionOptions) (c : ConnectionId) (s : Session (Traced W)) :
    Prop where
  options : s.options = o
  closed : s.closed = false
  descriptor : s.descriptor.isSome
  connection : s.connection = some c
  settings : s.settings.isSome

/-- No device yet. -/
structure Apart (o : SessionOptions) (s : Session (Traced W)) : Prop where
  options : s.options = o
  closed : s.closed = false
  descriptor : s.descriptor = none
  connection : s.connection = none
  settings : s.settings = none
  engine : s.engine = none
  acquisition : s.acquisition = .idle
  trace : Missed s.world.trace

/-- A device, and no acquisition. -/
structure Resting (o : SessionOptions) (c : ConnectionId)
    (s : Session (Traced W)) : Prop extends Linked o c s where
  engine : s.engine = none
  acquisition : s.acquisition = .idle
  trace : Rested o.bufferCount c s.world.trace

/-- The ring of `e` is queued, but the device has not been told to start. -/
structure Queued (o : SessionOptions) (c : ConnectionId) (e : Engine)
    (s : Session (Traced W)) : Prop extends Linked o c s where
  engine : s.engine = none
  acquisition : s.acquisition = .idle
  ring : e.pool.Full o.bufferCount
  trace : ∃ before ids, Rested o.bufferCount c before ∧ IsRing o.bufferCount ids ∧
    s.world.trace = before ++ opening c e.pool.bufferSize e.stream ids

/-- A device that streams to `e`. -/
structure Running (o : SessionOptions) (c : ConnectionId) (e : Engine)
    (s : Session (Traced W)) : Prop extends Linked o c s where
  engine : s.engine = some e
  acquisition : s.acquisition = .streaming
  ring : e.pool.Full o.bufferCount
  trace : ∃ before ids requeued,
    Rested o.bufferCount c before ∧ IsRing o.bufferCount ids ∧
      s.world.trace = before ++ opened c e.pool.bufferSize e.stream ids requeued

/-- Closed, and nothing is held any more. -/
structure Gone (o : SessionOptions) (s : Session (Traced W)) : Prop where
  options : s.options = o
  closed : s.closed = true
  connection : s.connection = none
  settings : s.settings.isSome = s.descriptor.isSome
  engine : s.engine = none
  acquisition : s.acquisition = .idle
  trace : Missed s.world.trace ∨ ∃ c before, Rested o.bufferCount c before ∧
    s.world.trace = before ++ [.releaseConnection c]

/-- The four ways in which a session stands between two operations. -/
inductive Standing (o : SessionOptions) (s : Session (Traced W)) : Prop
  | apart (h : Apart o s)
  | resting (c : ConnectionId) (h : Resting o c s)
  | running (c : ConnectionId) (e : Engine) (h : Running o c e s)
  | gone (h : Gone o s)

/-- At rest or running, with one device. -/
def Engaged (o : SessionOptions) (c : ConnectionId) (s : Session (Traced W)) :
    Prop :=
  Resting o c s ∨ ∃ e, Running o c e s

theorem Engaged.standing {o : SessionOptions} {c : ConnectionId}
    {s : Session (Traced W)} (h : Engaged o c s) : Standing o s := by
  rcases h with h | ⟨e, h⟩
  · exact .resting c h
  · exact .running c e h

theorem standing_new (w : W) (o : SessionOptions) :
    Standing o (new { world := w } o) :=
  .apart ⟨rfl, rfl, rfl, rfl, rfl, rfl, rfl, by simp [Missed, new]⟩

variable {t : Transport W} {o : SessionOptions} {c : ConnectionId} {e : Engine}
  {s : Session (Traced W)}

/-- Only the world and the marks change, and the trace grows by one whole passage. -/
theorem Resting.pass {w : Traced W} {p : List DeviceEvent} {panicked overflowed : Bool}
    (h : Resting o c s) (hp : Passage o.bufferCount c p)
    (hw : w.trace = s.world.trace ++ p) :
    Resting o c { s with world := w, panicked, overflowed } :=
  { h with
    trace := by
      show Rested o.bufferCount c w.trace
      rw [hw]
      exact h.trace.append hp }

/-! ## Starting and stopping -/

/-- An engine is started with its ring queued, or the attempt is over. -/
theorem startEngine_of_resting (h : Resting o c s) (g : Geometry) :
    match startEngine t.traced c g s with
    | (.ok e, s) => Queued o c e s
    | (.error _, s) => Resting o c s := by
  obtain rfl := h.options
  rw [startEngine_eq]
  have hsize : (t.traced.payloadSize c s.world).2.trace =
      s.world.trace ++ [.measure c (t.traced.payloadSize c s.world).1.toOption] := by rfl
  rcases hm : t.traced.payloadSize c s.world with ⟨_ | size, w₁⟩
  · rw [hm] at hsize
    exact h.pass (w := w₁) .unmeasured hsize
  · rw [hm] at hsize
    have hstream : (t.traced.createStream c w₁).2.trace =
        w₁.trace ++ [.openStream c (t.traced.createStream c w₁).1.toOption] := by rfl
    rcases hs : t.traced.createStream c w₁ with ⟨_ | stream, w₂⟩
    · rw [hs, hsize, List.append_assoc] at hstream
      simp only [hs]
      exact h.pass (w := w₂) (.unopened size) hstream
    · rw [hs, hsize, List.append_assoc] at hstream
      simp only [hs, Engine.start_eq]
      by_cases hbad : s.options.bufferCount = 0 ∨ size = 0
      · simp only [if_pos hbad]
        refine (h.pass (w := t.traced.releaseStream stream w₂) (.unqueued size stream) ?_)
        show w₂.trace ++ _ = _
        rw [hstream, List.append_assoc]
        rfl
      · simp only [if_neg hbad]
        exact { h with
          ring := rfl
          trace := by
            refine ⟨s.world.trace, Pool.ids s.generations.next s.options.bufferCount, h.trace,
              isRing_ids .., ?_⟩
            rw [enqueueAll_trace, hstream, Pool.allocate_ids, List.append_assoc]
            rfl }

/-- The device streams, or the session is at rest again. -/
theorem startAcquisition_of_resting (h : Resting o c s) :
    match startAcquisition t.traced s with
    | (.ok _, s) => ∃ e, Running o c e s
    | (.error _, s) => Resting o c s := by
  obtain ⟨x, hx⟩ := Option.isSome_iff_exists.1 h.settings
  rw [startAcquisition_eq (ne_streaming_of_idle h.acquisition) h.closed h.connection hx]
  have hstart := startEngine_of_resting (t := t) h ⟨x.width, x.height, x.format⟩
  rcases hs : startEngine t.traced c ⟨x.width, x.height, x.format⟩ s with ⟨_ | e, s₁⟩
  · rw [hs] at hstart
    exact hstart
  · rw [hs] at hstart
    have hqueued : Queued o c e s₁ := hstart
    obtain ⟨before, ids, hbefore, hids, htrace⟩ := hqueued.trace
    have hexec : (t.traced.execute c Command.acquisitionStart.name s₁.world).2.trace =
        s₁.world.trace ++ [.execute c Command.acquisitionStart.name
          (t.traced.execute c Command.acquisitionStart.name s₁.world).1.isOk] := by rfl
    simp only
    rcases hr : t.traced.execute c Command.acquisitionStart.name s₁.world
      with ⟨_ | _, w⟩
    -- The device would not start: the ring is taken back.
    · rw [hr, htrace] at hexec
      exact { hqueued with
        trace := by
          show Rested o.bufferCount c (drained t.traced e s₁.options.drainTimeout w).trace
          rw [drained_trace, hexec, List.append_assoc, List.append_assoc]
          exact hbefore.append (.refused e.pool.bufferSize e.stream hids) }
    · rw [hr, htrace] at hexec
      exact ⟨e, { hqueued with
        engine := rfl
        acquisition := rfl
        trace := ⟨before, ids, [], hbefore, hids, by
          rw [hexec, List.append_assoc]
          rfl⟩ }⟩

theorem startAcquisition_engaged (h : Resting o c s) :
    Engaged o c (startAcquisition t.traced s).2 := by
  have hstart := startAcquisition_of_resting (t := t) h
  rcases hs : startAcquisition t.traced s with ⟨_ | _, s₁⟩ <;> rw [hs] at hstart
  · exact .inl hstart
  · exact .inr hstart

/-- Whatever the device answers, the session is at rest afterwards. -/
theorem stopAcquisition_of_running (h : Running o c e s) :
    Resting o c (stopAcquisition t.traced s).2 := by
  rw [stopAcquisition_eq h.closed h.acquisition h.connection h.engine]
  obtain ⟨before, ids, requeued, hbefore, hids, htrace⟩ := h.trace
  exact { h with
    engine := rfl
    acquisition := rfl
    trace := by
      have hexec : (t.traced.execute c Command.acquisitionStop.name s.world).2.trace =
          s.world.trace ++ [.execute c Command.acquisitionStop.name
            (t.traced.execute c Command.acquisitionStop.name s.world).1.isOk] := by rfl
      rw [drained_trace, hexec, htrace, List.append_assoc, List.append_assoc]
      exact hbefore.append (.streamed e.pool.bufferSize e.stream hids requeued _) }

/-! ## Configuring -/

/-- Settings were written and perhaps read again. -/
theorem Resting.written {w : Traced W} (h : Resting o c s) {x : Option Settings}
    (hx : x.isSome) (hw : Wrote c s.world.trace w.trace) :
    Resting o c { s with world := w, settings := x, acquisition := .idle } :=
  { h with
    settings := hx
    acquisition := rfl
    trace := h.trace.wrote hw }

theorem applySettings_wrote (x : Settings) (w : Traced W) :
    Wrote c w.trace (t.traced.applySettings c x w).2.trace :=
  applyWrites_wrote x.writes []

theorem reconfigure_of_resting (h : Resting o c s) (x : Settings) :
    Resting o c (reconfigure t.traced x s).2 := by
  rw [reconfigure_eq x h.closed h.connection]
  have hwrote := applySettings_wrote (t := t) (c := c) x s.world
  rcases ha : t.traced.applySettings c x s.world with ⟨_ | _, w⟩
  · rw [ha] at hwrote
    exact h.written h.settings hwrote
  · rw [ha] at hwrote
    refine h.written rfl ?_
    rw [readSettings_trace]
    exact hwrote

theorem fallBack_of_resting (h : Resting o c s) (previous : Option Settings) :
    Resting o c (fallBack t.traced previous s).2 := by
  cases previous with
  | none => exact h
  | some x =>
      rw [fallBack_eq x h.closed h.connection]
      have hwrote := applySettings_wrote (t := t) (c := c) x s.world
      rcases ha : t.traced.applySettings c x s.world with ⟨_ | _, w⟩
      · rw [ha] at hwrote
        have hrest := h.written h.settings hwrote
        rwa [← h.acquisition] at hrest
      · rw [ha] at hwrote
        rw [← readSettings_trace (t := t) (c := c) (w := w)] at hwrote
        have hrest := h.written (x := some (t.traced.readSettings c w).1) rfl hwrote
        rwa [← h.acquisition] at hrest

theorem restart_of_resting (h : Resting o c s) (previous : Option Settings)
    (applied : Except CameraError Unit) :
    Engaged o c (restart t.traced previous applied s).2 := by
  rw [restart_eq]
  have hstart := startAcquisition_of_resting (t := t) h
  rcases hs : startAcquisition t.traced s with ⟨e | _, s₁⟩ <;> rw [hs] at hstart
  · cases applied with
    | error => exact .inl hstart
    | ok =>
        have hfall : Resting o c (fallBack t.traced previous s₁).2 :=
          fallBack_of_resting hstart previous
        exact startAcquisition_engaged hfall
  · cases applied <;> exact .inr hstart

/-- A call that leaves no event leaves the session where it stands. -/
theorem Engaged.asked {w : Traced W} (h : Engaged o c s)
    (hw : w.trace = s.world.trace) : Engaged o c { s with world := w } := by
  rcases h with h | ⟨e, h⟩
  · exact .inl { h with
      trace := by
        show Rested o.bufferCount c w.trace
        rw [hw]
        exact h.trace }
  · exact .inr ⟨e, { h with
      trace := by
        obtain ⟨before, ids, requeued, hbefore, hids, htrace⟩ := h.trace
        exact ⟨before, ids, requeued, hbefore, hids, hw.trans htrace⟩ }⟩

theorem Engaged.closed (h : Engaged o c s) : s.closed = false := by
  rcases h with h | ⟨e, h⟩ <;> exact h.closed

theorem Engaged.connection (h : Engaged o c s) : s.connection = some c := by
  rcases h with h | ⟨e, h⟩ <;> exact h.connection

theorem advertisedFormats_of_engaged (h : Engaged o c s) :
    Engaged o c (advertisedFormats t.traced s).2 := by
  rw [advertisedFormats_eq h.closed h.connection]
  exact h.asked rfl

theorem configure_of_engaged (h : Engaged o c s) (width height : UInt32)
    (format : PixelFormat) (rate : Float) :
    Engaged o c (configure t.traced width height format rate s).2 := by
  have hasked : Engaged o c (advertisedFormats t.traced s).2 :=
    advertisedFormats_of_engaged h
  rcases hf : advertisedFormats t.traced s with ⟨e | offered, s₁⟩ <;> rw [hf] at hasked
  · rw [configure_of_refused width height format rate hf]
    exact hasked
  · by_cases hm : format ∈ offered
    · rcases hasked with hrest | ⟨e, hrun⟩
      · have ha : s₁.acquisition ≠ .streaming := ne_streaming_of_idle hrest.acquisition
        rw [configure_of_rest width height rate hf hm ha]
        have hnext : Resting o c (reconfigure t.traced ⟨width, height, format, rate⟩ s₁).2 :=
          reconfigure_of_resting hrest _
        rcases hr : reconfigure t.traced ⟨width, height, format, rate⟩ s₁
          with ⟨_ | _, s₂⟩ <;> rw [hr] at hnext <;> exact .inl hnext
      · rw [configure_of_streaming width height rate hf hm hrun.acquisition]
        have hstop : Resting o c (stopAcquisition t.traced s₁).2 :=
          stopAcquisition_of_running hrun
        rcases hs : stopAcquisition t.traced s₁ with ⟨_ | _, s₂⟩ <;> rw [hs] at hstop
        · exact startAcquisition_engaged hstop
        · have hnext : Resting o c
              (reconfigure t.traced ⟨width, height, format, rate⟩ s₂).2 :=
            reconfigure_of_resting hstop _
          simp only
          rcases hr : reconfigure t.traced ⟨width, height, format, rate⟩ s₂
            with ⟨_ | applied, s₃⟩ <;> rw [hr] at hnext
          · exact .inl hnext
          · exact restart_of_resting hnext _ applied
    · rw [configure_of_unlisted width height rate hf hm]
      exact hasked

/-! ## Coming and going -/

/-- The session connects, or it is still apart. -/
theorem connect_of_apart (h : Apart o s) (d : Descriptor) :
    Standing o (connect t.traced d s).2 := by
  rw [connect_eq d h.closed h.descriptor]
  have htry : (t.traced.connect d s.world).2.trace =
      s.world.trace ++ [.connect d (t.traced.connect d s.world).1.toOption] := by rfl
  rcases hr : t.traced.connect d s.world with ⟨_ | c, w⟩ <;> rw [hr] at htry
  · exact .apart { h with
      trace := by
        show Missed w.trace
        rw [htry]
        exact h.trace.append }
  · exact .resting c { h with
      descriptor := rfl
      connection := rfl
      settings := rfl
      acquisition := rfl
      trace := by
        have hlinked : Rested o.bufferCount c w.trace := by
          rw [htry]
          exact h.trace.rested
        show Rested o.bufferCount c (t.traced.readSettings c _).2.trace
        rw [readSettings_trace]
        exact hlinked.wrote (setFeature_wrote ..) }

/-- A grab leaves the engine running on the ring that it had. -/
theorem grab_of_running (h : Running o c e s) (timeout : Span) :
    ∃ e', Running o c e' (grab t.traced timeout s).2 := by
  rw [grab_eq timeout h.closed h.acquisition h.engine]
  obtain ⟨hstream, hpool⟩ :=
    Engine.grab_ring (t.traced.channel e.stream) t.traced.clock e timeout s.world
  obtain ⟨more, hmore⟩ := grab_trace (t := t) (w := s.world) e timeout
  obtain ⟨before, ids, requeued, hbefore, hids, htrace⟩ := h.trace
  refine ⟨_, { h with
    engine := rfl
    ring := by
      rw [hpool]
      exact h.ring
    trace := ⟨before, ids, requeued ++ more, hbefore, hids, ?_⟩ }⟩
  rw [hstream, hpool, hmore, htrace]
  simp [opened]

theorem disconnect_of_apart (h : Apart o s) : Gone o (disconnect t.traced s).2 := by
  have hrest : s.acquisition ≠ .streaming := ne_streaming_of_idle h.acquisition
  rw [disconnect_eq h.closed, stopAcquisition_of_rest h.closed hrest]
  exact { h with
    closed := rfl
    connection := rfl
    settings := by rw [h.settings, h.descriptor]; rfl
    engine := rfl
    trace := .inl (by
      show Missed (letGo t.traced s.engine s.connection s.world).trace
      rw [h.engine, h.connection]
      exact h.trace) }

theorem disconnect_of_resting (h : Resting o c (stopAcquisition t.traced s).2)
    (hc : s.closed = false) : Gone o (disconnect t.traced s).2 := by
  rw [disconnect_eq hc]
  exact { h with
    closed := rfl
    connection := rfl
    settings := by rw [h.settings, h.descriptor]
    engine := rfl
    trace := .inr ⟨c, _, h.trace, by
      show (letGo t.traced _ _ _).trace = _
      rw [h.engine, h.connection]
      rfl⟩ }

theorem disconnect_of_engaged (h : Engaged o c s) :
    Gone o (disconnect t.traced s).2 := by
  refine disconnect_of_resting (c := c) ?_ h.closed
  rcases h with h | ⟨e, h⟩
  · have hrest : s.acquisition ≠ .streaming := ne_streaming_of_idle h.acquisition
    rw [stopAcquisition_of_rest h.closed hrest]
    exact h
  · exact stopAcquisition_of_running h

theorem Apart.perform (h : Apart o s) (x : Operation) :
    Standing o (x.perform t.traced s).2 := by
  have hrest : s.acquisition ≠ .streaming := ne_streaming_of_idle h.acquisition
  rcases Operation.perform_of_apart (t := t.traced) h.closed h.connection hrest x with
    ⟨d, rfl⟩ | rfl | hsame
  · rw [Operation.perform, SessionM.run_map]
    exact connect_of_apart h d
  · rw [Operation.perform, SessionM.run_map]
    exact .gone (disconnect_of_apart h)
  · rw [hsame]
    exact .apart h

theorem Engaged.perform (h : Engaged o c s) (x : Operation) :
    Standing o (x.perform t.traced s).2 := by
  cases x with
  | connect d =>
      obtain ⟨current, hd⟩ : ∃ current, s.descriptor = some current := by
        rcases h with h | ⟨e, h⟩ <;> exact Option.isSome_iff_exists.1 h.descriptor
      rw [Operation.perform, SessionM.run_map,
        connect_of_descriptor d h.closed hd]
      exact h.standing
  | formats =>
      rw [Operation.perform, SessionM.run_map]
      exact (advertisedFormats_of_engaged h).standing
  | configure width height format rate =>
      rw [Operation.perform, SessionM.run_map]
      exact (configure_of_engaged h width height format rate).standing
  | start =>
      rw [Operation.perform, SessionM.run_map]
      rcases h with hrest | ⟨e, hrun⟩
      · exact (startAcquisition_engaged hrest).standing
      · rw [startAcquisition_of_streaming hrun.acquisition]
        exact .running c e hrun
  | stop =>
      rw [Operation.perform, SessionM.run_map]
      rcases h with hrest | ⟨e, hrun⟩
      · have hidle : s.acquisition ≠ .streaming := ne_streaming_of_idle hrest.acquisition
        rw [stopAcquisition_of_rest hrest.closed hidle]
        exact .resting c hrest
      · exact .resting c (stopAcquisition_of_running hrun)
  | grab timeout =>
      rw [Operation.perform, SessionM.run_map]
      rcases h with hrest | ⟨e, hrun⟩
      · have hidle : s.acquisition ≠ .streaming := ne_streaming_of_idle hrest.acquisition
        rw [grab_of_rest timeout hrest.closed hidle]
        exact .resting c hrest
      · obtain ⟨e', hrun'⟩ := grab_of_running (t := t) hrun timeout
        exact .running c e' hrun'
  | disconnect =>
      rw [Operation.perform, SessionM.run_map]
      exact .gone (disconnect_of_engaged h)

/-- One operation, whatever the transport answers. -/
theorem Standing.perform (h : Standing o s) (x : Operation) :
    Standing o (x.perform t.traced s).2 := by
  rcases h with h | ⟨c, h⟩ | ⟨c, e, h⟩ | h
  · exact h.perform x
  · exact Engaged.perform (.inl h) x
  · exact Engaged.perform (.inr ⟨e, h⟩) x
  · rw [Operation.perform_of_closed h.closed (ne_streaming_of_idle h.acquisition)]
    exact .gone h

/-- A whole life. -/
theorem Standing.after (h : Standing o s) (ops : List Operation) :
    Standing o (Session.after t.traced s ops) := by
  induction ops generalizing s with
  | nil => exact h
  | cons x rest ih => exact ih (h.perform x)

/-- Letting go of a session closes it. -/
theorem Standing.release (h : Standing o s) : Gone o (Session.release t.traced s) := by
  rcases h with h | ⟨c, h⟩ | ⟨c, e, h⟩ | h
  · rw [Session.release, if_neg (by rw [h.closed]; decide)]
    exact disconnect_of_apart h
  · rw [Session.release, if_neg (by rw [h.closed]; decide)]
    exact disconnect_of_engaged (.inl h)
  · rw [Session.release, if_neg (by rw [h.closed]; decide)]
    exact disconnect_of_engaged (.inr ⟨e, h⟩)
  · rw [Session.release, if_pos h.closed]
    exact h

end Session
end FrameGrabber
