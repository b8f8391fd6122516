import FrameGrabber.Toml.Definition
import FrameGrabber.Toml.Number

/-!
# The statements of a TOML document

A document is a list of statements, each on a line of its own or on several if
its value takes them: a header, a header of a list of tables, or a key with its
value. Comments and empty lines stand between.

Values nest, so their readers call each other. Each call hands on one less than
it was given of a number that starts at twice the length of the text, and every
second call at least takes a letter, so the number never runs out first.
-/

namespace FrameGrabber.Toml

/-- One statement. -/
inductive Statement where
  | header (path : Key)
  | listHeader (path : Key)
  | assign (key : Key) (value : Node)
  deriving Repr, Inhabited

/-- Text behind a comment, if one begins here: the line end that closes it, or a
letter that cannot stand in it. -/
def skipComment : List Char → List Char
  | '#' :: rest => rest.dropWhile isPrintable
  | s => s

def lineEnd (s : List Char) : Reading (List Char) :=
  match lineEnd? s, s with
  | some rest, _ => .ok rest
  | none, '\r' :: rest => .error (.tentative rest)
  | none, _ => .error (.tentative s)

/-- Text behind blanks, line ends and comments. The first argument bounds their
number. -/
def skipGap : Nat → List Char → Reading (List Char)
  | 0, s => .ok s
  | bound + 1, s =>
    match skipBlanks s with
    | '#' :: rest => do skipGap bound (← lineEnd (skipComment ('#' :: rest)))
    | '\n' :: rest => skipGap bound rest
    | '\r' :: rest => do skipGap bound (← lineEnd ('\r' :: rest))
    | rest => .ok rest

def need (c : Char) (s : List Char) : Reading (List Char) := (mark c s).commit

/-- A word for a value. Only its first letter may still mean something else. -/
def word (s : List Char) : Reading (Document × List Char) :=
  match s with
  | 't' :: 'r' :: 'u' :: 'e' :: rest => .ok (.bool true, rest)
  | 'f' :: 'a' :: 'l' :: 's' :: 'e' :: rest => .ok (.bool false, rest)
  | 't' :: _ | 'f' :: _ => .error (.final s)
  | 'i' :: 'n' :: 'f' :: rest => .ok (.number (1.0 / 0.0), rest)
  | 'n' :: 'a' :: 'n' :: rest => .ok (.number (0.0 / 0.0), rest)
  | _ => .error (.tentative s)

def scalar (s : List Char) : Reading (Node × List Char) :=
  if (s.head?.map fun c => c.isDigit || c = '+' || c = '-').getD false then
    let timed : Reading (Node × List Char) :=
      (time s).map fun (t, rest) => (.time s t, rest)
    timed.orElse fun _ => (number s).map fun (d, rest) => (.value s d, rest)
  else (word s).map fun (d, rest) => (.value s d, rest)

mutual

/-- A value. `depth` is the number of brackets that may still be opened. -/
def value : Nat → Nat → List Char → Reading (Node × List Char)
  | 0, _, s => .error (.final s)
  | fuel + 1, depth, s =>
    match text? s with
    | some r => r.map fun (t, rest) => (.value s (.text t), rest)
    | none =>
      match s, depth with
      | '[' :: _, 0 | '\x7b' :: _, 0 => .error (.final s)
      | '[' :: ']' :: rest, _ + 1 => .ok (.list s [], rest)
      | '[' :: inner, depth + 1 => do
        let (ns, rest) ← items fuel depth inner
        let rest := match ns, rest with
          | _ :: _, ',' :: more => more
          | _, _ => rest
        let rest ← (skipGap rest.length rest).commit
        return (.list s ns, ← need ']' rest)
      | '\x7b' :: inner, depth + 1 => do
        let (ms, rest) ← members fuel depth inner
        match inlineNodes ms with
        | none => .error (.final inner)
        | some nodes => return (.closed s nodes, ← need '\x7d' (skipBlanks rest))
      | _, _ => scalar s

/-- The items of a list, as many as there are. What could not be read as one more
is left over, and the comma before it. -/
def items : Nat → Nat → List Char → Reading (List Node × List Char)
  | 0, _, s => .error (.final s)
  | fuel + 1, depth, s => do
    let one : Reading (Node × List Char) := do
      let (n, rest) ← value fuel depth (← skipGap s.length s)
      return (n, ← skipGap rest.length rest)
    match ← one.attempt with
    | none => return ([], s)
    | some (n, rest) =>
      match rest with
      | ',' :: more =>
        let (ns, left) ← items fuel depth more
        if ns.isEmpty then return ([n], rest) else return (n :: ns, left)
      | _ => return ([n], rest)

/-- The members of an inline table, as many as there are. What does not begin
with a key is left over, and the comma before it. -/
def members : Nat → Nat → List Char → Reading (List (Key × Node) × List Char)
  | 0, _, s => .error (.final s)
  | fuel + 1, depth, s => do
    match ← (key s).attempt with
    | none => return ([], s)
    | some (path, rest) =>
      let rest ← need '=' rest
      let (n, rest) ← (value fuel depth (skipBlanks rest)).commit
      match skipBlanks rest with
      | ',' :: more =>
        let (ms, left) ← members fuel depth more
        if ms.isEmpty then return ([(path, n)], ',' :: more)
        else return ((path, n) :: ms, left)
      | rest => return ([(path, n)], rest)

end

/-- Text behind the rest of a line that holds nothing more. -/
def endLine (s : List Char) : Reading (List Char) :=
  let rest := skipComment (skipBlanks s)
  match lineEnd? rest, rest with
  | some rest, _ => .ok rest
  | none, [] => .ok []
  | none, _ => .error (.final rest)

def statement (s : List Char) : Reading (Statement × List Char) := do
  match s with
  | ['['] => .error (.final s)
  | '[' :: '[' :: rest =>
    let (path, rest) ← (key rest).commit
    match rest with
    | ']' :: ']' :: rest => return (.listHeader path, rest)
    | _ => .error (.final rest)
  | '[' :: rest =>
    let (path, rest) ← (key rest).commit
    return (.header path, ← need ']' rest)
  | _ =>
    let (path, rest) ← (key s).commit
    let rest ← need '=' rest
    let (n, rest) ← (value (2 * rest.length + 2) (depthLimit - 1) (skipBlanks rest)).commit
    return (.assign path n, rest)

/-- Run a statement that begins at `start`: where the keys that follow go, and
what is defined then. Keys go into the table of the last header, `place`. -/
def Statement.run (start : List Char) (place : Key) (nodes : Nodes) :
    Statement → Option (Key × Nodes)
  | header path => (defineTable start path nodes).map (path, ·)
  | listHeader path => (appendTable start path nodes).map (path, ·)
  | assign key n => (enter false (define key n) place .header nodes).map (place, ·)

/-- Run all statements of a text. The first argument bounds the number of lines. -/
def runAll : Nat → Key → Nodes → List Char → Reading Nodes
  | 0, _, nodes, s => if s.isEmpty then .ok nodes else .error (.final s)
  | bound + 1, place, nodes, s => do
    let s := skipBlanks s
    if s.isEmpty then return nodes
    match lineEnd? s with
    | some rest => runAll bound place nodes rest
    | none =>
      if s.head? = some '#' then runAll bound place nodes (← endLine s)
      else
        let (statement, rest) ← statement s
        let rest ← endLine rest
        match statement.run s place nodes with
        | none => .error (.final s)
        | some (place, nodes) => runAll bound place nodes rest

end FrameGrabber.Toml
