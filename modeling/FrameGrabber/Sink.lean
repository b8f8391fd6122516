import FrameGrabber.Ring
import FrameGrabber.Sink.Publisher
import FrameGrabber.Sink.Snapshot

/-!
# The consumers that come with the library

Three consumers take frames off the loop, each into a store of its own from
which somebody else reads: a viewer, a track, or the writer of snapshots. None
of them ever waits, and only a publisher without its other side refuses.
-/

namespace FrameGrabber

/-- A consumer with what it holds for its reader. -/
inductive Sink where
  | preview (ring : FrameRing)
  | publisher (queue : PublisherQueue)
  | snapshot (store : Snapshots)
  deriving Repr

namespace Sink

def name : Sink → String
  | preview _ => "preview"
  | publisher _ => "publisher"
  | snapshot _ => "snapshot"

/-- Take a frame. A full preview ring loses it without complaint. -/
def deliver (f : Frame) : Sink → Except SinkError Unit × Sink
  | preview ring => (.ok (), preview (ring.push f).2)
  | publisher queue =>
    let (r, queue) := queue.offer f
    (r, publisher queue)
  | snapshot store => (.ok (), snapshot (store.deliver f))

end Sink
end FrameGrabber
