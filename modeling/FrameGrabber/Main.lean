import FrameGrabber.Program
import FrameGrabber.Sink.Png

/-!
# The command line

`list` lists the cameras, `stream` streams from one of them for a number of
rounds and saves the snapshots that were asked for. The file with the
configuration is named by a variable of the environment.
-/

namespace FrameGrabber.CommandLine

def fileVariable : String := "GIGECAST_CONFIG"

/-- Rounds of the frame loop unless told otherwise. -/
def defaultRounds : Nat := 100

def surroundings : IO Program.Surroundings := do
  let file ← match ← IO.getEnv fileVariable with
    | none => pure none
    | some name =>
      try
        pure (some (ConfigFile.mk name (some (← IO.FS.readFile name))))
      catch _ => pure (some (ConfigFile.mk name none))
  let mut environment := []
  for name in Configuration.variableNames do
    if let some value ← IO.getEnv name then environment := (name, value) :: environment
  return { file, environment }

/-- Save what the writers of snapshots were handed. -/
def save (directory : String) (s : Snapshots) : IO Unit := do
  let place := if directory = "" then "" else directory ++ "/"
  for (frame, image) in s.written do
    match image with
    | .error e => IO.eprintln e.message
    | .ok image =>
      let name := s!"{place}snapshot_{frame.sequence}_{← IO.monoMsNow}.png"
      IO.FS.writeBinFile name (ByteArray.mk (Png.encode image))

def fail (e : Failure) : IO UInt32 := do
  IO.eprintln s!"Error: {e.message}"
  return 1

def list : IO UInt32 := do
  match Program.list (← surroundings) with
  | .error e => fail e
  | .ok lines =>
    lines.forM fun line => IO.println line
    return 0

/-- Make the directory for the snapshots, unless it is the working directory. -/
def ensureDirectory (directory : String) : IO Bool := do
  if directory = "" then return true
  try
    IO.FS.createDirAll directory
    return true
  catch e =>
    IO.eprintln s!"Error: {e}"
    return false

def stream (rounds : Nat) : IO UInt32 := do
  match Program.prepare (← surroundings) with
  | .error e => fail e
  | .ok (c, p) =>
    if !(← ensureDirectory c.snapshot.outputDir) then return 1
    match Program.run c p none rounds with
    | .error e => fail e
    | .ok w =>
      w.snapshots.forM fun s => save c.snapshot.outputDir s
      let stats := w.source.session.stats
      IO.eprintln
        s!"delivered {stats.delivered}, dropped {stats.dropped}, published {w.source.published}"
      return 0

end FrameGrabber.CommandLine

def main (args : List String) : IO UInt32 := do
  match args with
  | ["list"] => FrameGrabber.CommandLine.list
  | ["stream"] => FrameGrabber.CommandLine.stream FrameGrabber.CommandLine.defaultRounds
  | ["stream", rounds] =>
    match rounds.toNat? with
    | some n => FrameGrabber.CommandLine.stream n
    | none =>
      IO.eprintln "the number of rounds is no number"
      return 2
  | _ =>
    IO.eprintln "usage: list | stream [rounds]"
    return 2
