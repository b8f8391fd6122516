import FrameGrabber.Proofs.EngineFrame
import FrameGrabber.Proofs.SessionRun
import FrameGrabber.Transport.Trace

/-!
# What a session writes on its trace

The trace of a connection is made of passages. A write is one. Every other
passage is an attempt to stream, and it ends where the attempt ended: the size of
a payload was not to be had, no stream was opened, the ring could not be queued,
the device would not start, or it started and was told to stop. A session at
rest has a whole number of them behind it. A session that streams has the last
one before it still unfinished: `opened` is how it begins.

The second half says what the calls that are made of several others add to the
trace. Reading settings and draining a ring add nothing, and writing settings
adds writes.
-/

namespace FrameGrabber

/-- The ids of one ring of `n` buffers, all of one generation. -/
structure IsRing (n : Nat) (ids : List BufferId) : Prop where
  length_eq : ids.length = n
  nodup : ids.Nodup
  generation : ∃ g, ∀ id ∈ ids, id.generation = g

theorem isRing_ids (g : UInt32) (n : Nat) : IsRing n (Pool.ids g n) where
  length_eq := Pool.ids_length g n
  nodup := Pool.ids_nodup g n
  generation := ⟨g, fun _ h => Pool.ids_generation h⟩

/-- A stream is opened for payloads of some size, and a ring is queued on it. -/
def opening (c : ConnectionId) (size : Nat) (stream : StreamId)
    (ids : List BufferId) : List DeviceEvent :=
  .measure c (some size) :: .openStream c (some stream) ::
    ids.map (.enqueue stream)

/-- The device then streams, and buffers that came back are queued again. -/
def opened (c : ConnectionId) (size : Nat) (stream : StreamId)
    (ids requeued : List BufferId) : List DeviceEvent :=
  opening c size stream ids ++
    .execute c Command.acquisitionStart.name true :: requeued.map (.enqueue stream)

/-- One passage of the trace of a connection, for rings of `n` buffers. -/
inductive Passage (n : Nat) (c : ConnectionId) : List DeviceEvent → Prop
  | write (feature : String) (value : FeatureValue) (accepted : Bool) :
      Passage n c [.write c feature value accepted]
  | unmeasured : Passage n c [.measure c none]
  | unopened (size : Nat) :
      Passage n c [.measure c (some size), .openStream c none]
  | unqueued (size : Nat) (stream : StreamId) :
      Passage n c (opening c size stream [] ++ [.releaseStream stream])
  | refused (size : Nat) (stream : StreamId) {ids : List BufferId}
      (ring : IsRing n ids) :
      Passage n c (opening c size stream ids ++
        [.execute c Command.acquisitionStart.name false, .releaseStream stream])
  | streamed (size : Nat) (stream : StreamId) {ids : List BufferId}
      (ring : IsRing n ids) (requeued : List BufferId) (accepted : Bool) :
      Passage n c (opened c size stream ids requeued ++
        [.execute c Command.acquisitionStop.name accepted, .releaseStream stream])

/-- Attempts to connect, none of which succeeded. -/
def Missed (tr : List DeviceEvent) : Prop := ∀ x ∈ tr, ∃ d, x = .connect d none

/-- A connection was made and whole passages followed. -/
def Rested (n : Nat) (c : ConnectionId) (tr : List DeviceEvent) : Prop :=
  ∃ (misses : List DeviceEvent) (d : Descriptor) (passages : List (List DeviceEvent)),
    Missed misses ∧ (∀ p ∈ passages, Passage n c p) ∧
      tr = misses ++ .connect d (some c) :: passages.flatten

variable {n : Nat} {c : ConnectionId} {tr : List DeviceEvent}

theorem Missed.append {d : Descriptor} (h : Missed tr) :
    Missed (tr ++ [.connect d none]) := by
  intro x hx
  rcases List.mem_append.1 hx with hx | hx
  · exact h x hx
  · exact ⟨d, List.mem_singleton.1 hx⟩

theorem Missed.rested {d : Descriptor} (h : Missed tr) :
    Rested n c (tr ++ [.connect d (some c)]) :=
  ⟨tr, d, [], h, by simp, rfl⟩

theorem Rested.append {p : List DeviceEvent} (h : Rested n c tr)
    (hp : Passage n c p) : Rested n c (tr ++ p) := by
  obtain ⟨misses, d, passages, hmisses, hpassages, rfl⟩ := h
  refine ⟨misses, d, passages ++ [p], hmisses, ?_, by simp⟩
  intro q hq
  rcases List.mem_append.1 hq with hq | hq
  · exact hpassages q hq
  · rw [List.mem_singleton.1 hq]
    exact hp

/-! ## Writes -/

/-- The trace has grown by writes on one connection. -/
def Wrote (c : ConnectionId) (before after : List DeviceEvent) : Prop :=
  ∃ writes, after = before ++ writes ∧
    ∀ x ∈ writes, ∃ feature value accepted, x = .write c feature value accepted

theorem Wrote.rfl : Wrote c tr tr := ⟨[], by simp, by simp⟩

theorem Wrote.trans {tr₁ tr₂ : List DeviceEvent} (h : Wrote c tr tr₁)
    (h' : Wrote c tr₁ tr₂) : Wrote c tr tr₂ := by
  obtain ⟨ws, rfl, hws⟩ := h
  obtain ⟨ws', rfl, hws'⟩ := h'
  refine ⟨ws ++ ws', List.append_assoc .., ?_⟩
  intro x hx
  rcases List.mem_append.1 hx with hx | hx
  · exact hws x hx
  · exact hws' x hx

theorem Rested.wrote {tr' : List DeviceEvent} (h : Rested n c tr)
    (hw : Wrote c tr tr') : Rested n c tr' := by
  obtain ⟨ws, rfl, hws⟩ := hw
  induction ws generalizing tr with
  | nil => rwa [List.append_nil]
  | cons x rest ih =>
      obtain ⟨feature, value, accepted, rfl⟩ := hws x (List.mem_cons_self ..)
      rw [List.append_cons]
      exact ih (h.append (.write feature value accepted))
        fun y hy => hws y (List.mem_cons_of_mem _ hy)

/-! ## Calls that are made of others -/

section

variable {W : Type} {t : Transport W} {w : Traced W}

theorem peek_trace (f : Feature) : (t.traced.peek c f w).2.trace = w.trace := by
  have hget : (t.traced.getFeature c f.name w).2.trace = w.trace := by rfl
  unfold Transport.peek
  rcases hr : t.traced.getFeature c f.name w with ⟨_ | _, w₁⟩ <;>
    simpa only [hr] using hget

theorem readSettings_trace : (t.traced.readSettings c w).2.trace = w.trace := by
  simp only [Transport.readSettings, peek_trace]

theorem setFeature_wrote (name : String) (v : FeatureValue) :
    Wrote c w.trace (t.traced.setFeature c name v w).2.trace :=
  ⟨_, rfl, fun _ hx => ⟨_, _, _, List.mem_singleton.1 hx⟩⟩

theorem replace_wrote (f : Feature) (v : FeatureValue) :
    Wrote c w.trace (t.traced.replace c f v w).2.trace := by
  have hget : (t.traced.getFeature c f.name w).2.trace = w.trace := by rfl
  unfold Transport.replace
  rcases hr : t.traced.getFeature c f.name w with ⟨_ | old, w₁⟩
  · rw [hr] at hget
    rw [← hget]
    exact .rfl
  · rw [hr] at hget
    rw [← hget]
    have hset : Wrote c w₁.trace (t.traced.setFeature c f.name v w₁).2.trace :=
      setFeature_wrote f.name v
    rcases hs : t.traced.setFeature c f.name v w₁ with ⟨_ | _, w₂⟩ <;>
      simpa only [hs] using hset

theorem putBack_wrote (replaced : List (Feature × FeatureValue)) :
    Wrote c w.trace (t.traced.putBack c replaced w).trace := by
  induction replaced generalizing w with
  | nil => exact .rfl
  | cons x rest ih =>
      exact (setFeature_wrote x.1.name x.2).trans ih

theorem applyWrites_wrote (writes : List FeatureWrite)
    (replaced : List (Feature × FeatureValue)) :
    Wrote c w.trace (t.traced.applyWrites c writes replaced w).2.trace := by
  induction writes generalizing replaced w with
  | nil => exact .rfl
  | cons x rest ih =>
      have hwrote : Wrote c w.trace (t.traced.replace c x.feature x.value w).2.trace :=
        replace_wrote x.feature x.value
      unfold Transport.applyWrites
      rcases hr : t.traced.replace c x.feature x.value w with ⟨e | old, w₁⟩
      · rw [hr] at hwrote
        simp only
        split
        · exact hwrote.trans (ih replaced)
        · exact hwrote.trans (putBack_wrote replaced)
      · rw [hr] at hwrote
        exact hwrote.trans (ih _)

theorem enqueueAll_trace (id : StreamId) (bs : List Buffer) :
    (bs.foldl (fun w b => (t.traced.channel id).enqueue b w) w).trace =
      w.trace ++ (bs.map (·.id)).map (.enqueue id) := by
  induction bs generalizing w with
  | nil => simp
  | cons b rest ih =>
      rw [List.foldl_cons, ih]
      simp [Transport.traced, Traced.marked]

/-- Taking a ring back leaves one event: the stream is let go of. -/
theorem drained_trace (e : Engine) (wait : Span) :
    (Session.drained t.traced e wait w).trace =
      w.trace ++ [.releaseStream e.stream] := by
  show (e.stop (t.traced.channel e.stream) t.traced.clock wait w).2.trace ++ _ = _
  rw [Engine.stop_frame (f := Traced.trace) (fun _ => rfl) (fun _ => rfl)
    (fun _ _ => rfl)]

/-- A grab puts buffers back on the stream of the engine. -/
theorem grab_trace (e : Engine) (timeout : Span) :
    ∃ ids : List BufferId,
      (e.grab (t.traced.channel e.stream) t.traced.clock timeout w).2.2.trace =
        w.trace ++ ids.map (.enqueue e.stream) := by
  rcases Engine.grab_frame (f := Traced.trace) (t.traced.channel e.stream) t.traced.clock
    (fun _ => rfl) (fun _ _ => rfl) e timeout w
    with h | ⟨b, w', hw', h⟩
  · exact ⟨[], by rw [h, List.map_nil, List.append_nil]⟩
  · refine ⟨[b.id], ?_⟩
    rw [h, ← hw']
    rfl

end

end FrameGrabber
