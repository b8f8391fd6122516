/-!
# Where a TOML document cannot be read

A reader takes what it reads off the front of a text and hands on the rest. If
it fails it says where: by the text that was left there. A fault may be
tentative, so that what was tried can be taken back and something else be read
instead, or final, once the text cannot have meant anything else.

The place of a fault is counted in lines and in letters of a line, both from
one.
-/

namespace FrameGrabber.Toml

/-- A failure to read on. -/
structure Fault where
  /-- The text from the place of the fault on. -/
  left : List Char
  isFinal : Bool
  deriving Repr, Inhabited

/-- A fault that can be taken back. -/
def Fault.tentative (left : List Char) : Fault := ⟨left, false⟩

/-- A fault that ends the reading. -/
def Fault.final (left : List Char) : Fault := ⟨left, true⟩

/-- What a reader makes of a text, mostly something and the rest, or a fault. -/
abbrev Reading := Except Fault

namespace Reading

/-- The same, past the point of no return. -/
def commit {α : Type} (r : Reading α) : Reading α :=
  r.mapError fun f => { f with isFinal := true }

/-- What was read, if the fault, if there is one, can be taken back. -/
def attempt {α : Type} : Reading α → Reading (Option α)
  | .ok x => .ok (some x)
  | .error f => if f.isFinal then .error f else .ok none

/-- If the fault can be taken back, something else is read. -/
def orElse {α : Type} (r : Reading α) (other : Unit → Reading α) : Reading α :=
  match r with
  | .ok x => .ok x
  | .error f => if f.isFinal then .error f else other ()

end Reading

/-- A place in a text. -/
structure Place where
  line : Nat
  column : Nat
  deriving DecidableEq, Repr, Inhabited

def lastLine (s : List Char) : List Char := (s.reverse.takeWhile (· ≠ '\n')).reverse

/-- The place behind a text of which so many letters are left. A place at the end
of the text is one further than that of its last letter. Columns are letters; of
a place at a letter outside ASCII they are the bytes before it on its line. -/
def Place.of (text : List Char) (left : Nat) : Place :=
  let before := if left = 0 then text.dropLast else text.take (text.length - left)
  let line := lastLine before
  let column := match text.drop before.length with
    | [] => 0
    | c :: _ =>
      if left = 0 then line.length + 1
      else if c.toNat < 0x80 then line.length
      else line.foldl (fun n c => n + c.utf8Size) 0
  ⟨before.count '\n' + 1, column + 1⟩

end FrameGrabber.Toml
