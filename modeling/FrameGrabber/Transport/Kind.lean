import FrameGrabber.Sim.Network

/-!
# Choosing a transport

There are two kinds of transport, each with several names. The network kind
needs a device layer that this library does not have, so opening it fails; the
simulated kind opens onto a list of cameras.
-/

namespace FrameGrabber

/-- A kind of transport. -/
inductive TransportKind where
  | sim
  | gst
  deriving DecidableEq, Repr, Inhabited

namespace TransportKind

def name : TransportKind → String
  | sim => "sim"
  | gst => "gst"

/-- All names under which a kind is read, in lower case. -/
def names : List (String × TransportKind) :=
  [("sim", sim), ("fake", sim), ("gst", gst), ("gstreamer", gst), ("aravis", gst)]

/-- The kind that goes by a name, whatever the case of its ASCII letters. -/
def ofName (s : String) : Except CameraError TransportKind :=
  let s := s.toLower
  match names.lookup s with
  | some k => .ok k
  | none => .error (.transport s!"unknown transport `{s}`")

def network (k : TransportKind) (cameras : List Camera) : Except CameraError Network :=
  match k with
  | sim => .ok { cameras }
  | gst => .error (.transport "built without the `gstreamer-transport` feature")

end TransportKind
end FrameGrabber
