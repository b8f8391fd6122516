import FrameGrabber.Descriptor
import FrameGrabber.Feature

/-!
# The world behind a camera

The acquisition core reaches devices only through the interface below. What lies
behind it is a state of some type `W`, and every call is a function that may
answer or refuse and in either case leaves a next state. Nothing is assumed
about it: a statement about the core that quantifies over a `Transport` holds
whatever the devices do.

Connections and streams are named by numbers that the transport hands out. A
transport owns them; the core asks for their release when it is done.
-/

namespace FrameGrabber

/-- A call on a world: an answer or a refusal, and the world afterwards. -/
abbrev Call (W α : Type) := W → Except CameraError α × W

/-- The clock of a world. -/
structure Clock (W : Type) where
  /-- Read the clock. -/
  now : W → Instant × W
  /-- Let a span of time pass. -/
  sleep : Span → W → W
  /-- How many readings a loop may make before a wait of that length is over:
  the patience of whoever waits, beyond which the wait counts as over. -/
  patience : Span → W → Nat

/-- One stream of buffers. Buffers go in empty and come back out filled, or
as they are when the stream is flushed. -/
structure Channel (W : Type) where
  enqueue : Buffer → W → W
  /-- The next filled buffer, or a timeout. -/
  dequeue : Span → Call W Buffer
  /-- Every buffer that the stream holds, filled or not. -/
  flush : W → List Buffer × W

abbrev ConnectionId := Nat

abbrev StreamId := Nat

/-- A way to devices. -/
structure Transport (W : Type) where
  name : String
  clock : Clock W
  enumerate : Call W (List Descriptor)
  connect : Descriptor → Call W ConnectionId
  getFeature : ConnectionId → String → Call W FeatureValue
  setFeature : ConnectionId → String → FeatureValue → Call W Unit
  /-- The entries that an enumeration feature offers at present. -/
  featureOptions : ConnectionId → String → Call W (List String)
  execute : ConnectionId → String → Call W Unit
  payloadSize : ConnectionId → Call W Nat
  /-- Is the size of a payload at present a product that does not fit into a word? -/
  overflows : ConnectionId → W → Bool := fun _ _ => false
  createStream : ConnectionId → Call W StreamId
  channel : StreamId → Channel W
  releaseStream : StreamId → W → W
  releaseConnection : ConnectionId → W → W

end FrameGrabber
