import FrameGrabber.Main
import FrameGrabber.Rehearsal.Faults
import FrameGrabber.Rehearsal.Playlist
import FrameGrabber.Session.Operation
import FrameGrabber.Sim.Handover
import FrameGrabber.Storage.Machine
import FrameGrabber.Transport.Refusing
import FrameGrabber.Transport.Trace
import FrameGrabber.Proofs.SessionRun
import FrameGrabber.Proofs.FullRing
import FrameGrabber.Proofs.EngineFrame
import FrameGrabber.Proofs.Projection
import FrameGrabber.Proofs.Passages
import FrameGrabber.Proofs.Standing
import FrameGrabber.Proofs.Consistency
import FrameGrabber.Proofs.CallProtocol
import FrameGrabber.Proofs.Numbers
import FrameGrabber.Proofs.Registers
import FrameGrabber.Proofs.Rollback
import FrameGrabber.Proofs.LinkCalls
import FrameGrabber.Proofs.BenchSession
import FrameGrabber.Proofs.Configuring
import FrameGrabber.Proofs.Circulation
import FrameGrabber.Proofs.Reclaiming
import FrameGrabber.Proofs.HandingOver
import FrameGrabber.Session.Chronicle
import FrameGrabber.Proofs.Accounting
import FrameGrabber.Proofs.Spelling
import FrameGrabber.Proofs.Geometry
import FrameGrabber.Proofs.Ticks
import FrameGrabber.Proofs.Rounds
import FrameGrabber.Proofs.Opening
import FrameGrabber.Proofs.RingExchange
import FrameGrabber.Proofs.Interpolation
import FrameGrabber.Proofs.Pacing
import FrameGrabber.Proofs.Acceptance
import FrameGrabber.Proofs.Control
import FrameGrabber.Proofs.TestPattern
import FrameGrabber.Proofs.Decoding
import FrameGrabber.Proofs.Draining
import FrameGrabber.Proofs.Seconds
import FrameGrabber.Pool.Ledgers
import FrameGrabber.Proofs.RecentFrames
import FrameGrabber.Proofs.TakingTurns
import FrameGrabber.Proofs.Normalizing
import FrameGrabber.Proofs.SizeCheck
import FrameGrabber.Proofs.Serving
import FrameGrabber.Proofs.TickSpacing
import FrameGrabber.Proofs.Recalling
