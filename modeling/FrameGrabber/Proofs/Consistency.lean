import FrameGrabber.Proofs.Projection
import FrameGrabber.Proofs.Standing

/-!
# The fields of a session agree

A session keeps its state in fields that must agree with each other: what the
acquisition does, whether there is an engine, a connection, a descriptor and
settings, and what the ledger of the ring says. They agree after every operation
of every life, whatever the transport answered on the way. Nothing is assumed of
the transport, so a world that is left as it was is one that was not called.

The size of a ring's buffers is the one fact here that is about the past. It is
read off the trace that the same life leaves over the traced transport.
-/

namespace FrameGrabber

/-- The last thing in the trace is the start of this engine, which goes back to
the device's answer about its payload, and what the engine has queued since. -/
def Engine.Measured (e : Engine) (tr : List DeviceEvent) : Prop :=
  ∃ before c ids requeued,
    tr = before ++ opened c e.pool.bufferSize e.stream ids requeued

namespace Session

variable {W : Type}

/-- The fields of a session agree. -/
structure Consistent (o : SessionOptions) (s : Session W) : Prop where
  options : s.options = o
  settled : s.acquisition = .idle ∨ s.acquisition = .streaming
  streaming_iff : s.acquisition = .streaming ↔ s.engine.isSome
  linked_iff : s.connection.isSome ↔ s.descriptor.isSome ∧ s.closed = false
  settings_iff : s.settings.isSome ↔ s.descriptor.isSome
  ring : ∀ e, s.engine = some e →
    e.pool.size = o.bufferCount ∧ e.pool.queued = o.bufferCount ∧ e.pool.held = 0

variable {o : SessionOptions} {c : ConnectionId} {e : Engine}
  {s : Session (Traced W)}

theorem Apart.consistent (h : Apart o s) : s.Consistent o where
  options := h.options
  settled := .inl h.acquisition
  streaming_iff := by rw [h.acquisition, h.engine]; decide
  linked_iff := by rw [h.connection, h.descriptor]; simp
  settings_iff := by rw [h.settings, h.descriptor]; simp
  ring := fun e he => by rw [h.engine] at he; cases he

theorem Resting.consistent (h : Resting o c s) : s.Consistent o where
  options := h.options
  settled := .inl h.acquisition
  streaming_iff := by rw [h.acquisition, h.engine]; decide
  linked_iff := by simp [h.connection, h.descriptor, h.closed]
  settings_iff := by simp [h.settings, h.descriptor]
  ring := fun e he => by rw [h.engine] at he; cases he

theorem Running.consistent (h : Running o c e s) : s.Consistent o where
  options := h.options
  settled := .inr h.acquisition
  streaming_iff := by simp [h.acquisition, h.engine]
  linked_iff := by simp [h.connection, h.descriptor, h.closed]
  settings_iff := by simp [h.settings, h.descriptor]
  ring := fun e' he => by
    rw [h.engine] at he
    injection he with he
    subst he
    exact ⟨h.ring.size_eq, h.ring.queued_eq, h.ring.held_eq⟩

theorem Gone.consistent (h : Gone o s) : s.Consistent o where
  options := h.options
  settled := .inl h.acquisition
  streaming_iff := by rw [h.acquisition, h.engine]; decide
  linked_iff := by simp [h.connection, h.closed]
  settings_iff := by rw [h.settings]
  ring := fun e he => by rw [h.engine] at he; cases he

theorem Standing.consistent (h : Standing o s) : s.Consistent o := by
  rcases h with h | ⟨c, h⟩ | ⟨c, e, h⟩ | h <;> exact h.consistent

theorem Standing.measured (h : Standing o s) (he : s.engine = some e) :
    e.Measured s.world.trace := by
  rcases h with h | ⟨c, h⟩ | ⟨c, e', h⟩ | h
  · rw [h.engine] at he
    cases he
  · rw [h.engine] at he
    cases he
  · rw [h.engine] at he
    injection he with he
    subst he
    obtain ⟨before, ids, requeued, -, -, htrace⟩ := h.trace
    exact ⟨before, c, ids, requeued, htrace⟩
  · rw [h.engine] at he
    cases he

/-- After any operations on a new session its fields agree, a running engine has
a ring made to the size that the device gave when the engine was started, and a
closed session refuses every operation and is left as it is. -/
theorem after_new_consistent (t : Transport W) (w : W) (o : SessionOptions)
    (ops : List Operation) :
    let s := after t (new w o) ops
    let witnessed := after t.traced (new { world := w } o) ops
    s.Consistent o ∧
      witnessed.map Traced.world = s ∧
      (∀ e, s.engine = some e → e.Measured witnessed.world.trace) ∧
      (s.closed = true → ∀ x : Operation,
        x.perform t s = (.error .sessionClosed, s)) := by
  intro s witnessed
  have hstanding : Standing o witnessed := (standing_new w o).after ops
  have hmap : witnessed.map Traced.world = s :=
    (after_map t.traced_projects ops (new { world := w } o)).symm
  have hconsistent : s.Consistent o := by
    have h := hstanding.consistent
    rw [← hmap]
    exact ⟨h.options, h.settled, h.streaming_iff, h.linked_iff, h.settings_iff, h.ring⟩
  refine ⟨hconsistent, hmap, ?_, ?_⟩
  · intro e he
    rw [← hmap] at he
    exact hstanding.measured he
  · intro hclosed x
    -- A closed session has no connection, so it has no engine and is not streaming.
    have hgone : Gone o witnessed := by
      have hc : witnessed.closed = true := by
        rw [← hmap] at hclosed
        exact hclosed
      rcases hstanding with h | ⟨c, h⟩ | ⟨c, e, h⟩ | h
      · exact absurd (h.closed.symm.trans hc) (by decide)
      · exact absurd (h.closed.symm.trans hc) (by decide)
      · exact absurd (h.closed.symm.trans hc) (by decide)
      · exact h
    have hidle : s.acquisition ≠ .streaming := by
      rw [← hmap]
      show witnessed.acquisition ≠ .streaming
      rw [hgone.acquisition]
      decide
    exact Operation.perform_of_closed hclosed hidle x

end Session
end FrameGrabber
