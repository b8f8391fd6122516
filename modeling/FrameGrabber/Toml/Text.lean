import FrameGrabber.Toml.Fault

/-!
# Quoted texts and keys of a TOML document

A text stands between single or triple quotes, plain or double. Between double
quotes a backslash escapes; between plain ones every letter is itself. A reader
of such a text takes one letter at a time, and what it has to remember between
two of them is a `Mode`, so that it recurses on the letters alone.

Behind its opening quotes a text can mean nothing else, so every fault in it is
final. The fault lies at the first letter that does not belong, but that of an
escape behind the letter that cannot be escaped, or at the first digit of its
code point.
-/

namespace FrameGrabber.Toml

/-- May the letter stand in a comment or between quotes? -/
def isPrintable (c : Char) : Bool := c = '\t' || (0x20 ≤ c.toNat && c.toNat ≠ 0x7f)

/-- Does the letter separate words on a line? -/
def isBlank (c : Char) : Bool := c = ' ' || c = '\t'

def skipBlanks (s : List Char) : List Char := s.dropWhile isBlank

def lineEnd? : List Char → Option (List Char)
  | '\n' :: rest | '\r' :: '\n' :: rest => some rest
  | _ => none

def hexDigit? (c : Char) : Option Nat :=
  if c.isDigit then some (c.toNat - '0'.toNat)
  else if 'a' ≤ c && c ≤ 'f' then some (c.toNat - 'a'.toNat + 10)
  else if 'A' ≤ c && c ≤ 'F' then some (c.toNat - 'A'.toNat + 10)
  else none

/-- The letter with a code point, if there is one. -/
def letter? (n : Nat) : Option Char := if n.isValidChar then some (Char.ofNat n) else none

/-- How a text is quoted. -/
structure Quote where
  mark : Char
  /-- Three marks at either end, and line ends between them. -/
  triple : Bool

/-- Quoted by double marks, between which a backslash escapes. -/
def Quote.double (triple : Bool) : Quote where
  mark := '"'
  triple := triple

/-- Quoted by plain marks, between which every letter is itself. -/
def Quote.plain (triple : Bool) : Quote where
  mark := '\''
  triple := triple

/-- The fault of an escape that its first letter makes none; `s` is the text from
its backslash on. A first letter outside ASCII is not passed. -/
def unknownEscape (s : List Char) : Fault :=
  match s with
  | _ :: c :: rest => .final (if c.toNat < 0x80 then rest else c :: rest)
  | _ => .final s

/-- The fault of an escape whose code point is none. -/
def badCode (s : List Char) : Fault := .final (s.drop 2)

/-- What the reader of a text is in the middle of. An escape comes with the text
from its backslash on. -/
inductive Mode where
  /-- Between two letters. -/
  | plain
  /-- After a backslash. -/
  | escaped (start : List Char)
  /-- In a code point: the digits to come, and the value of those before. -/
  | code (start : List Char) (digits value : Nat)
  /-- After a backslash and blanks, before the line end that they escape. -/
  | hanging (start : List Char)
  /-- After an escaped line end; blanks and line ends do not count. -/
  | skipping

/-- The letter that a backslash makes of a letter. -/
def escapes : List (Char × Char) :=
  [('b', '\x08'), ('t', '\t'), ('n', '\n'), ('f', '\x0c'), ('r', '\r'), ('"', '"'), ('\\', '\\')]

/-- A letter that stands for itself; `s` is the text from it on. -/
def Quote.plainStep (q : Quote) (c : Char) (s : List Char) : Reading (Mode × List Char) :=
  if c = '\\' && q.mark = '"' then .ok (.escaped s, [])
  else if isPrintable c || (q.triple && c = '\n') then .ok (.plain, [c])
  else .error (.final s)

/-- A letter inside a text: the next mode, and what the letter adds. `s` is the
text from the letter on. -/
def Quote.step (q : Quote) (c : Char) (s : List Char) : Mode → Reading (Mode × List Char)
  | .plain => q.plainStep c s
  | .skipping => if isBlank c || c = '\n' then .ok (.skipping, []) else q.plainStep c s
  | .hanging start =>
    if isBlank c then .ok (.hanging start, [])
    else if c = '\n' then .ok (.skipping, [])
    else .error (unknownEscape start)
  | .escaped start =>
    match escapes.lookup c with
    | some x => .ok (.plain, [x])
    | none =>
      if c = 'u' then .ok (.code start 4 0, [])
      else if c = 'U' then .ok (.code start 8 0, [])
      else if q.triple && isBlank c then .ok (.hanging start, [])
      else if q.triple && c = '\n' then .ok (.skipping, [])
      else .error (unknownEscape start)
  | .code start digits value =>
    match hexDigit? c with
    | none => .error (badCode start)
    | some d =>
      let value := value * 16 + d
      if 1 < digits then .ok (.code start (digits - 1) value, [])
      else match letter? value with
        | some x => .ok (.plain, [x])
        | none => .error (badCode start)

/-- The fault of a text that ends in a mode, at the end of everything. -/
def Mode.cutOff : Mode → Fault
  | plain | skipping => .final []
  | escaped start => .final start
  | code start _ _ => badCode start
  | hanging start => unknownEscape start

/-- What marks inside a text mean. -/
inductive Marks where
  /-- The text ends. Up to two marks may belong to it before the three that close
  a text, so there is an ending to it, and a rest. -/
  | close (ending rest : List Char)
  /-- They belong to the text. -/
  | inside
  /-- They cannot stand here. -/
  | stray (f : Fault)

/-- What the marks at the front of a text mean. One or two of three belong to the
text if it goes on behind them; before a letter that cannot stand in it, double
marks still do. -/
def Quote.marks (q : Quote) (s : List Char) : Marks :=
  let run := (s.takeWhile (· = q.mark)).length
  let after := s.drop run
  if !q.triple then .close [] (s.drop 1)
  else if 3 ≤ run then
    let extra := min (run - 3) 2
    .close (List.replicate extra q.mark) (s.drop (3 + extra))
  else
    match after with
    | [] => .stray (.final s)
    | c :: _ =>
      if isPrintable c || (lineEnd? after).isSome then .inside
      else .stray (.final (if q.mark = '"' then after else s))

/-- May a mark count as one in this mode? -/
def Mode.marksCount : Mode → Bool
  | plain | skipping => true
  | _ => false

/-- The text up to its closing marks, and what follows them. `written` is what
has been read of it, backwards. -/
def Quote.body (q : Quote) : Mode → List Char → List Char → Reading (String × List Char)
  | mode, _, [] => .error mode.cutOff
  | mode, written, c :: rest =>
    let s := c :: rest
    if c = q.mark && mode.marksCount then
      match q.marks s with
      | .close ending rest => .ok (String.ofList (written.reverse ++ ending), rest)
      | .inside => q.body .plain (c :: written) rest
      | .stray f => .error f
    else if c = '\r' && q.triple && (lineEnd? s).isSome then q.body mode written rest
    else
      match q.step c s mode with
      | .ok (mode, added) => q.body mode (added.reverse ++ written) rest
      | .error f => .error f

/-- A line end right behind three opening marks does not count. -/
def skipLineEnd (s : List Char) : List Char := (lineEnd? s).getD s

def shortText? : List Char → Option (Reading (String × List Char))
  | '"' :: rest => some ((Quote.double false).body .plain [] rest)
  | '\'' :: rest => some ((Quote.plain false).body .plain [] rest)
  | _ => none

/-- A quoted text that may go over several lines. -/
def text? : List Char → Option (Reading (String × List Char))
  | '"' :: '"' :: '"' :: rest =>
    some ((Quote.double true).body .plain [] (skipLineEnd rest))
  | '\'' :: '\'' :: '\'' :: rest =>
    some ((Quote.plain true).body .plain [] (skipLineEnd rest))
  | s => shortText? s

/-- May the letter stand in a key without quotes? -/
def isKeyLetter (c : Char) : Bool := c.isAlphanum || c = '_' || c = '-'

/-- A part of a key. -/
structure KeyPart where
  name : String
  /-- The text from its first letter, or the mark before it, on. -/
  start : List Char
  deriving Repr, Inhabited

/-- A key: its parts are the names of tables, one in the other, and of a value or
table in the last. -/
abbrev Key := List KeyPart

/-- One part of a key, quoted on one line or bare, with the blanks around it. -/
def keyPart (s : List Char) : Reading (KeyPart × List Char) := do
  let s := skipBlanks s
  let (name, rest) ← match shortText? s with
    | some r => r
    | none =>
      let name := s.takeWhile isKeyLetter
      if name.isEmpty then .error (.tentative s)
      else .ok (String.ofList name, s.drop name.length)
  return (⟨name, s⟩, skipBlanks rest)

/-- How deep a document may be nested: fewer levels than this, of brackets or of
the parts of a key. -/
def depthLimit : Nat := 80

/-- The parts of a key behind its first. A point that no part follows is left
over. The first argument bounds their number. -/
def moreParts : Nat → List Char → Reading (Key × List Char)
  | bound + 1, '.' :: s => do
    match ← (keyPart s).attempt with
    | none => return ([], '.' :: s)
    | some (part, rest) =>
      let (parts, rest) ← moreParts bound rest
      return (part :: parts, rest)
  | _, s => .ok ([], s)

/-- A key: parts joined by points, and not too many of them. -/
def key (s : List Char) : Reading (Key × List Char) := do
  let (part, rest) ← keyPart s
  let (parts, rest) ← moreParts rest.length rest
  if parts.length + 1 < depthLimit then return (part :: parts, rest)
  else .error (.tentative s)

end FrameGrabber.Toml
