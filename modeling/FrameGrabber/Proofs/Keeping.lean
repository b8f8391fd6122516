import FrameGrabber.Proofs.Standing

/-!
# What an operation hands on

Nothing but a grab counts. Every other operation hands the counters on, from the
session to an engine that it starts and back from one that it stops. An engine
that was started new has delivered nothing, has a ring with buffers, and stands
for one more start of the device in the trace.

That is a relation between the session before and after, so it goes through the
chains that operations are made of, as the standing of the session does.
-/

namespace FrameGrabber

section

variable {W : Type} {t : Transport W} {c : ConnectionId} {w w' : Traced W}

/-! ## Starts in a trace -/

theorem Traced.starts_of_append {more : List DeviceEvent} (htrace : w'.trace = w.trace ++ more)
    (hmore : ∀ x ∈ more, x.isStarted = false) : w'.starts = w.starts := by
  have hnone : more.countP (·.isStarted) = 0 := by
    rw [List.countP_eq_zero]
    intro x hx
    rw [hmore x hx]
    decide
  rw [starts, starts, htrace, List.countP_append, hnone, Nat.add_zero]

theorem Traced.starts_of_event {x : DeviceEvent} (htrace : w'.trace = w.trace ++ [x])
    (hx : x.isStarted = false) : w'.starts = w.starts := by
  refine starts_of_append htrace fun y hy => ?_
  rw [List.mem_singleton.1 hy, hx]

theorem Traced.starts_of_started {x : DeviceEvent} (htrace : w'.trace = w.trace ++ [x])
    (hx : x.isStarted = true) : w'.starts = w.starts + 1 := by
  rw [starts, starts, htrace, List.countP_append, List.countP_singleton, if_pos hx]

theorem Wrote.starts (h : Wrote c w.trace w'.trace) : w'.starts = w.starts := by
  obtain ⟨writes, htrace, hwrites⟩ := h
  refine Traced.starts_of_append htrace fun x hx => ?_
  obtain ⟨feature, value, accepted, rfl⟩ := hwrites x hx
  rfl

theorem readSettings_starts : (t.traced.readSettings c w).2.starts = w.starts := by
  rw [Traced.starts, readSettings_trace, Traced.starts]

theorem drained_starts (e : Engine) (wait : Span) :
    (Session.drained t.traced e wait w).starts = w.starts :=
  Traced.starts_of_event (drained_trace e wait) rfl

theorem enqueues_notStarted (id : StreamId) (ids : List BufferId) :
    ∀ x ∈ ids.map (DeviceEvent.enqueue id), x.isStarted = false := by
  intro x hx
  obtain ⟨b, -, rfl⟩ := List.mem_map.1 hx
  rfl

end

namespace Session

variable {W : Type} {t : Transport W} {o : SessionOptions} {c : ConnectionId} {e : Engine}
  {s s' s'' : Session (Traced W)}

/-! ## What is no grab does not count -/

/-- The counters are handed on, and an engine either goes on or is a new one with
a ring of its own, for which a device has started. -/
structure Keeps (s s' : Session (Traced W)) : Prop where
  options : s'.options = s.options
  stats : s'.stats = s.stats
  descriptor : s'.descriptor = none → s.descriptor = none
  starts_le : s.world.starts ≤ s'.world.starts
  engine : ∀ e', s'.engine = some e' →
    (s'.world.starts = s.world.starts ∧
        ∃ e, s.engine = some e ∧ e'.sequence = e.sequence) ∨
      (s.world.starts < s'.world.starts ∧ e'.sequence = 0 ∧ s.options.bufferCount ≠ 0)

theorem Keeps.rfl : Keeps s s :=
  ⟨Eq.refl _, Eq.refl _, id, Nat.le_refl _,
    fun e' he => .inl ⟨Eq.refl _, e', he, Eq.refl _⟩⟩

theorem Keeps.trans (h : Keeps s s') (h' : Keeps s' s'') : Keeps s s'' where
  options := h'.options.trans h.options
  stats := h'.stats.trans h.stats
  descriptor hd := h.descriptor (h'.descriptor hd)
  starts_le := Nat.le_trans h.starts_le h'.starts_le
  engine e'' he := by
    rcases h'.engine e'' he with ⟨hsame, e', he', hseq⟩ | ⟨hmore, hzero, hring⟩
    · rcases h.engine e' he' with ⟨hsame', e, he, hseq'⟩ | ⟨hmore, hzero, hring⟩
      · exact .inl ⟨hsame.trans hsame', e, he, hseq.trans hseq'⟩
      · exact .inr ⟨hsame ▸ hmore, hseq.trans hzero, hring⟩
    · exact .inr ⟨Nat.lt_of_le_of_lt h.starts_le hmore, hzero, h.options ▸ hring⟩

/-- Nothing that counts is touched. -/
structure Idles (s s' : Session (Traced W)) : Prop where
  options : s'.options = s.options
  engine : s'.engine = s.engine
  counters : s'.counters = s.counters
  descriptor : s'.descriptor = s.descriptor
  starts : s'.world.starts = s.world.starts

theorem Idles.keeps (h : Idles s s') : Keeps s s' where
  options := h.options
  stats := by rw [stats, stats, h.engine, h.counters]
  descriptor hd := h.descriptor ▸ hd
  starts_le := Nat.le_of_eq h.starts.symm
  engine e' he := .inl ⟨h.starts, e', h.engine ▸ he, rfl⟩

theorem stats_of_rest (he : s.engine = none) : s.stats = s.counters := by
  rw [stats, he]

theorem stats_of_engine (he : s.engine = some e) : s.stats = e.counters := by
  rw [stats, he]

/-- An engine that is started has the counters of the session, and has delivered
nothing; it is not the session's yet, nor has the device been told. -/
theorem startEngine_idles (c : ConnectionId) (g : Geometry) :
    Idles s (startEngine t.traced c g s).2 ∧
      ∀ e, (startEngine t.traced c g s).1 = .ok e →
        e.counters = s.counters ∧ e.sequence = 0 ∧ s.options.bufferCount ≠ 0 := by
  rw [startEngine_eq]
  have hsize : (t.traced.payloadSize c s.world).2.starts = s.world.starts :=
    Traced.starts_of_event rfl rfl
  rcases hm : t.traced.payloadSize c s.world with ⟨_ | size, w₁⟩ <;> rw [hm] at hsize
  · exact ⟨⟨rfl, rfl, rfl, rfl, hsize⟩, fun e he => (nomatch he)⟩
  · have hstream : (t.traced.createStream c w₁).2.starts = s.world.starts :=
      (Traced.starts_of_event rfl rfl).trans hsize
    simp only
    rcases hs : t.traced.createStream c w₁ with ⟨_ | stream, w₂⟩ <;> rw [hs] at hstream
    · exact ⟨⟨rfl, rfl, rfl, rfl, hstream⟩, fun e he => (nomatch he)⟩
    · simp only [Engine.start_eq]
      by_cases hbad : s.options.bufferCount = 0 ∨ size = 0
      · simp only [if_pos hbad]
        have hreleased : (t.traced.releaseStream stream w₂).starts = s.world.starts :=
          (Traced.starts_of_event rfl rfl).trans hstream
        exact ⟨⟨rfl, rfl, rfl, rfl, hreleased⟩, fun e he => (nomatch he)⟩
      · simp only [if_neg hbad]
        refine ⟨⟨rfl, rfl, rfl, rfl, ?_⟩, fun e he => ?_⟩
        · exact (Traced.starts_of_append (enqueueAll_trace stream _)
            (enqueues_notStarted stream _)).trans hstream
        · cases he
          exact ⟨rfl, rfl, fun hnone => hbad (.inl hnone)⟩

theorem startAcquisition_keeps (h : Resting o c s) :
    Keeps s (startAcquisition t.traced s).2 := by
  obtain ⟨x, hx⟩ := Option.isSome_iff_exists.1 h.settings
  rw [startAcquisition_eq (ne_streaming_of_idle h.acquisition) h.closed h.connection hx]
  obtain ⟨hidle, hnew⟩ :=
    startEngine_idles (t := t) (s := s) c ⟨x.width, x.height, x.format⟩
  rcases hs : startEngine t.traced c ⟨x.width, x.height, x.format⟩ s with ⟨_ | e, s₁⟩ <;>
    rw [hs] at hidle hnew
  · exact hidle.keeps
  · obtain ⟨hcounters, hsequence, hring⟩ := hnew e rfl
    simp only
    have hexec : (t.traced.execute c Command.acquisitionStart.name s₁.world).2.trace =
        s₁.world.trace ++ [.execute c Command.acquisitionStart.name
          (t.traced.execute c Command.acquisitionStart.name s₁.world).1.isOk] := by rfl
    rcases hr : t.traced.execute c Command.acquisitionStart.name s₁.world with ⟨_ | _, w⟩ <;>
      rw [hr] at hexec
    · have hsame : (drained t.traced e s₁.options.drainTimeout w).starts =
          s.world.starts := by
        rw [drained_starts, Traced.starts_of_event hexec rfl, hidle.starts]
      exact Idles.keeps
        ⟨hidle.options, hidle.engine, hidle.counters, hidle.descriptor, hsame⟩
    · have hmore : w.starts = s.world.starts + 1 := by
        rw [Traced.starts_of_started hexec rfl, hidle.starts]
      have hstats : s.stats = e.counters := by
        rw [stats_of_rest h.engine, hcounters]
      have hlt : s.world.starts < w.starts := hmore ▸ Nat.lt_succ_self _
      refine ⟨hidle.options, hstats.symm, fun hd => hidle.descriptor ▸ hd, Nat.le_of_lt hlt,
        fun e' he => .inr ⟨hlt, ?_, hring⟩⟩
      cases he
      exact hsequence

theorem stopAcquisition_keeps (h : Running o c e s) :
    Keeps s (stopAcquisition t.traced s).2 := by
  rw [stopAcquisition_eq h.closed h.acquisition h.connection h.engine]
  have hsame : (drained t.traced e s.options.drainTimeout
      (t.traced.execute c Command.acquisitionStop.name s.world).2).starts =
        s.world.starts := by
    rw [drained_starts]
    exact Traced.starts_of_event rfl rfl
  exact ⟨rfl, (stats_of_engine h.engine).symm, id, Nat.le_of_eq hsame.symm,
    fun e' he => (nomatch he)⟩

theorem reconfigure_idles (h : Resting o c s) (x : Settings) :
    Idles s (reconfigure t.traced x s).2 := by
  rw [reconfigure_eq x h.closed h.connection]
  have hwrote : (t.traced.applySettings c x s.world).2.starts = s.world.starts :=
    (applySettings_wrote x s.world).starts
  rcases ha : t.traced.applySettings c x s.world with ⟨_ | _, w⟩ <;> rw [ha] at hwrote
  · exact ⟨rfl, rfl, rfl, rfl, hwrote⟩
  · exact ⟨rfl, rfl, rfl, rfl, readSettings_starts.trans hwrote⟩

theorem fallBack_idles (h : Resting o c s) (previous : Option Settings) :
    Idles s (fallBack t.traced previous s).2 := by
  cases previous with
  | none => exact ⟨rfl, rfl, rfl, rfl, rfl⟩
  | some x =>
      rw [fallBack_eq x h.closed h.connection]
      have hwrote : (t.traced.applySettings c x s.world).2.starts = s.world.starts :=
        (applySettings_wrote x s.world).starts
      rcases ha : t.traced.applySettings c x s.world with ⟨_ | _, w⟩ <;> rw [ha] at hwrote
      · exact ⟨rfl, rfl, rfl, rfl, hwrote⟩
      · exact ⟨rfl, rfl, rfl, rfl, readSettings_starts.trans hwrote⟩

theorem restart_keeps (h : Resting o c s) (previous : Option Settings)
    (applied : Except CameraError Unit) :
    Keeps s (restart t.traced previous applied s).2 := by
  rw [restart_eq]
  have hfirst := startAcquisition_keeps (t := t) h
  have hrest := startAcquisition_of_resting (t := t) h
  rcases hs : startAcquisition t.traced s with ⟨e | _, s₁⟩ <;> rw [hs] at hfirst hrest
  · cases applied with
    | error => exact hfirst
    | ok =>
        have hfall := hfirst.trans (fallBack_idles (t := t) hrest previous).keeps
        exact hfall.trans (startAcquisition_keeps (fallBack_of_resting hrest previous))
  · cases applied <;> exact hfirst

theorem advertisedFormats_idles (hc : s.closed = false) (hl : s.connection = some c) :
    Idles s (advertisedFormats t.traced s).2 := by
  rw [advertisedFormats_eq hc hl]
  exact ⟨rfl, rfl, rfl, rfl, rfl⟩

theorem configure_keeps (h : Engaged o c s) (width height : UInt32)
    (format : PixelFormat) (rate : Float) :
    Keeps s (configure t.traced width height format rate s).2 := by
  have hasked : Engaged o c (advertisedFormats t.traced s).2 :=
    advertisedFormats_of_engaged h
  have hidle := (advertisedFormats_idles (t := t) h.closed h.connection).keeps
  rcases hf : advertisedFormats t.traced s with ⟨e | offered, s₁⟩ <;>
    rw [hf] at hasked hidle
  · rw [configure_of_refused width height format rate hf]
    exact hidle
  · by_cases hm : format ∈ offered
    · refine hidle.trans ?_
      rcases hasked with hrest | ⟨e, hrun⟩
      · have ha : s₁.acquisition ≠ .streaming := ne_streaming_of_idle hrest.acquisition
        rw [configure_of_rest width height rate hf hm ha]
        have hnext := reconfigure_idles (t := t) hrest ⟨width, height, format, rate⟩
        rcases hr : reconfigure t.traced ⟨width, height, format, rate⟩ s₁
          with ⟨_ | _, s₂⟩ <;> rw [hr] at hnext <;> exact hnext.keeps
      · rw [configure_of_streaming width height rate hf hm hrun.acquisition]
        have hkeeps := stopAcquisition_keeps (t := t) hrun
        have hstop : Resting o c (stopAcquisition t.traced s₁).2 :=
          stopAcquisition_of_running hrun
        rcases hs : stopAcquisition t.traced s₁ with ⟨_ | _, s₂⟩ <;>
          rw [hs] at hstop hkeeps
        · exact hkeeps.trans (startAcquisition_keeps hstop)
        · have hnext := reconfigure_idles (t := t) hstop ⟨width, height, format, rate⟩
          have hrest : Resting o c (reconfigure t.traced ⟨width, height, format, rate⟩ s₂).2 :=
            reconfigure_of_resting hstop _
          simp only
          rcases hr : reconfigure t.traced ⟨width, height, format, rate⟩ s₂
            with ⟨_ | applied, s₃⟩ <;> rw [hr] at hnext hrest
          · exact hkeeps.trans hnext.keeps
          · exact (hkeeps.trans hnext.keeps).trans (restart_keeps hrest _ applied)
    · rw [configure_of_unlisted width height rate hf hm]
      exact hidle

/-- The counters are reset when a session connects; there is nothing in them then. -/
theorem connect_keeps (h : Apart o s) (hnew : s.stats = {}) (d : Descriptor) :
    Keeps s (connect t.traced d s).2 := by
  rw [connect_eq d h.closed h.descriptor]
  have htry : (t.traced.connect d s.world).2.starts = s.world.starts :=
    Traced.starts_of_event rfl rfl
  rcases hr : t.traced.connect d s.world with ⟨_ | c, w⟩ <;> rw [hr] at htry
  · exact Idles.keeps ⟨rfl, rfl, rfl, rfl, htry⟩
  · have hset : (t.traced.setFeature c Feature.acquisitionMode.name (.enum "Continuous") w).2.starts =
        s.world.starts := (setFeature_wrote ..).starts.trans htry
    have hsame := (readSettings_starts (t := t) (c := c)).trans hset
    refine ⟨rfl, ?_, fun hd => (nomatch hd), Nat.le_of_eq hsame.symm, fun e' he => ?_⟩
    · rw [hnew, stats, show _ = none from h.engine]
    · rw [show _ = none from h.engine] at he
      cases he

theorem letGo_starts (e : Option Engine) (c : Option ConnectionId) (w : Traced W) :
    (letGo t.traced e c w).starts = w.starts := by
  cases e with
  | none =>
      cases c with
      | none => rfl
      | some c => exact Traced.starts_of_event rfl rfl
  | some e =>
      have hstream : (t.traced.releaseStream e.stream w).starts = w.starts :=
        Traced.starts_of_event rfl rfl
      cases c with
      | none => exact hstream
      | some c => exact (Traced.starts_of_event rfl rfl).trans hstream

theorem disconnect_keeps (h : Standing o s) : Keeps s (disconnect t.traced s).2 := by
  -- Letting go comes after stopping, so there is no engine then.
  have hleave : s.closed = false → Keeps s (stopAcquisition t.traced s).2 →
      (stopAcquisition t.traced s).2.engine = none →
        Keeps s (disconnect t.traced s).2 := by
    intro hc hstop he
    rw [disconnect_eq hc]
    refine hstop.trans ⟨rfl, ?_, id, Nat.le_of_eq (letGo_starts ..).symm,
      fun e' he' => (nomatch he')⟩
    rw [stats_of_rest he]
    rfl
  have hrest : s.closed = false → s.acquisition = .idle → s.engine = none →
      Keeps s (disconnect t.traced s).2 := by
    intro hc ha he
    have hstop : stopAcquisition t.traced s = (.ok (), s) :=
      stopAcquisition_of_rest hc (ne_streaming_of_idle ha)
    refine hleave hc ?_ ?_
    · rw [hstop]
      exact .rfl
    · rw [hstop]
      exact he
  rcases h with h | ⟨c, h⟩ | ⟨c, e, h⟩ | h
  · exact hrest h.closed h.acquisition h.engine
  · exact hrest h.closed h.acquisition h.engine
  · exact hleave h.closed (stopAcquisition_keeps h) (stopAcquisition_of_running h).engine
  · rw [disconnect_of_closed h.closed]
    exact .rfl

/-- Every operation but a grab. -/
theorem perform_keeps (h : Standing o s) (hnew : s.descriptor = none → s.stats = {})
    (x : Operation) (hx : ∀ timeout, x ≠ .grab timeout) :
    Keeps s (x.perform t.traced s).2 := by
  have hengaged : ∀ c, Engaged o c s → Keeps s (x.perform t.traced s).2 := by
    intro c hengaged
    cases x with
    | connect d =>
        obtain ⟨current, hd⟩ : ∃ current, s.descriptor = some current := by
          rcases hengaged with h | ⟨e, h⟩ <;> exact Option.isSome_iff_exists.1 h.descriptor
        rw [Operation.perform, SessionM.run_map,
          connect_of_descriptor d hengaged.closed hd]
        exact .rfl
    | formats =>
        rw [Operation.perform, SessionM.run_map]
        exact (advertisedFormats_idles hengaged.closed hengaged.connection).keeps
    | configure width height format rate =>
        rw [Operation.perform, SessionM.run_map]
        exact configure_keeps hengaged width height format rate
    | start =>
        rw [Operation.perform, SessionM.run_map]
        rcases hengaged with hrest | ⟨e, hrun⟩
        · exact startAcquisition_keeps hrest
        · rw [startAcquisition_of_streaming hrun.acquisition]
          exact .rfl
    | stop =>
        rw [Operation.perform, SessionM.run_map]
        rcases hengaged with hrest | ⟨e, hrun⟩
        · rw [stopAcquisition_of_rest hrest.closed (ne_streaming_of_idle hrest.acquisition)]
          exact .rfl
        · exact stopAcquisition_keeps hrun
    | grab timeout => exact absurd rfl (hx timeout)
    | disconnect =>
        rw [Operation.perform, SessionM.run_map]
        exact disconnect_keeps h
  rcases h with hapart | ⟨c, h⟩ | ⟨c, e, h⟩ | hgone
  · have hrest : s.acquisition ≠ .streaming := ne_streaming_of_idle hapart.acquisition
    rcases Operation.perform_of_apart (t := t.traced) hapart.closed hapart.connection hrest x
      with ⟨d, rfl⟩ | rfl | hsame
    · rw [Operation.perform, SessionM.run_map]
      exact connect_keeps hapart (hnew hapart.descriptor) d
    · rw [Operation.perform, SessionM.run_map]
      exact disconnect_keeps (.apart hapart)
    · rw [hsame]
      exact .rfl
  · exact hengaged c (.inl h)
  · exact hengaged c (.inr ⟨e, h⟩)
  · rw [Operation.perform_of_closed hgone.closed (ne_streaming_of_idle hgone.acquisition)]
    exact .rfl

/-! ## Sessions that a life leads to -/

/-- The session stands somewhere, has counted nothing before it connected, and
streams only with buffers. -/
structure Staffed (o : SessionOptions) (s : Session (Traced W)) : Prop where
  standing : Standing o s
  fresh : s.descriptor = none → s.stats = {}
  ring : s.engine.isSome → o.bufferCount ≠ 0

theorem staffed_new (w : W) (o : SessionOptions) : Staffed o (new { world := w } o) where
  standing := standing_new w o
  fresh _ := rfl
  ring he := (nomatch he)

theorem Standing.options (h : Standing o s) : s.options = o := by
  rcases h with h | ⟨c, h⟩ | ⟨c, e, h⟩ | h <;> exact h.options

theorem Staffed.keeps (h : Staffed o s) (hk : Keeps s s') (hs : Standing o s') :
    Staffed o s' where
  standing := hs
  fresh hd := hk.stats.trans (h.fresh (hk.descriptor hd))
  ring he := by
    obtain ⟨e', he'⟩ := Option.isSome_iff_exists.1 he
    rcases hk.engine e' he' with ⟨-, e, hsome, -⟩ | ⟨-, -, hring⟩
    · exact h.ring (by rw [hsome]; rfl)
    · rwa [h.standing.options] at hring

/-- A session that does not stream refuses a grab and is left as it is. -/
theorem grab_of_standing (h : Standing o s) (timeout : Span) :
    (∃ c e, Running o c e s) ∨
      ∃ err, err.isTransient = false ∧ grab t.traced timeout s = (.error err, s) := by
  rcases h with h | ⟨c, h⟩ | ⟨c, e, h⟩ | h
  · exact .inr ⟨_, rfl, grab_of_rest timeout h.closed (ne_streaming_of_idle h.acquisition)⟩
  · exact .inr ⟨_, rfl, grab_of_rest timeout h.closed (ne_streaming_of_idle h.acquisition)⟩
  · exact .inl ⟨c, e, h⟩
  · exact .inr ⟨_, rfl, grab_of_closed timeout h.closed⟩

theorem Staffed.grab (h : Staffed o s) (timeout : Span) :
    Staffed o (Session.grab t.traced timeout s).2 := by
  rcases grab_of_standing (t := t) h.standing timeout with ⟨c, e, hrun⟩ | ⟨err, -, hsame⟩
  · obtain ⟨e', hrun'⟩ := grab_of_running (t := t) hrun timeout
    refine ⟨.running c e' hrun', fun hd => ?_, fun _ => h.ring (by rw [hrun.engine]; rfl)⟩
    have hsome := hrun'.descriptor
    rw [hd] at hsome
    cases hsome
  · rw [hsame]
    exact h

theorem Staffed.perform (h : Staffed o s) (x : Operation) :
    Staffed o (x.perform t.traced s).2 := by
  by_cases hx : ∃ timeout, x = .grab timeout
  · obtain ⟨timeout, rfl⟩ := hx
    rw [Operation.perform, SessionM.run_map]
    exact h.grab timeout
  · exact h.keeps (perform_keeps h.standing h.fresh x fun timeout he => hx ⟨timeout, he⟩)
      (h.standing.perform x)

theorem Staffed.after (h : Staffed o s) (ops : List Operation) :
    Staffed o (Session.after t.traced s ops) := by
  induction ops generalizing s with
  | nil => exact h
  | cons x rest ih => exact ih (h.perform x)

end Session
end FrameGrabber
