import FrameGrabber.Toml.Statement

/-!
# TOML documents

Reading a document runs its statements one after the other. A header opens a
table, and the keys that follow are defined in it; keys before the first header
are defined in the table of the whole document. The first statement that cannot
be read or run ends the reading, and its place is what is said of it.
-/

namespace FrameGrabber.Toml

/-- The document that a text stands for, or the place where it stands for none. A
mark of byte order in front does not count. -/
def parse (s : String) : Except Place Document :=
  let text := s.toList
  let body := match text with
    | '\ufeff' :: rest => rest
    | _ => text
  let r : Reading Document := do
    let nodes ← runAll (body.length + 1) [] [] body
    Nodes.document nodes
  r.mapError fun f => Place.of text f.left.length

end FrameGrabber.Toml
