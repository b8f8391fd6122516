import FrameGrabber.Document
import FrameGrabber.Toml.Text
import FrameGrabber.Toml.Time

/-!
# Who defines which table of a TOML document

A table may come into being in several ways, and how it did decides who may add
to it. A header defines its table, once. The tables on the way to a header's, or
to the end of a dotted key, are defined in passing: a header may still define one
on the way to another header's, and dotted keys may add to one that dotted keys
made. Values, inline tables among them, are closed.

What the nodes stand for is settled when all of them are there. A table may stand
for a time, which is the value of a key of its own.
-/

namespace FrameGrabber.Toml

/-- How a table came into being. -/
inductive Origin where
  | header
  /-- On the way to a header's table. -/
  | passing
  /-- On the way to the end of a dotted key. -/
  | dotted
  deriving DecidableEq, Repr, Inhabited

/-- A document under construction. What may turn out not to be meant as it is
written comes with the text from its first letter on. -/
inductive Node where
  | value (start : List Char) (d : Document)
  /-- A date, a time of day or both, as a text in their usual form. -/
  | time (start : List Char) (text : String)
  | list (start : List Char) (items : List Node)
  /-- An inline table. -/
  | closed (start : List Char) (nodes : List (String × Node))
  | table (start : List Char) (origin : Origin) (nodes : List (String × Node))
  /-- A list of tables, the last of which is the one that headers mean. -/
  | series (start : List Char) (tables : List (List (String × Node)))
  deriving Repr, Inhabited

/-- The text from the first letter of a node on. -/
def Node.start : Node → List Char
  | value s _ | time s _ | list s _ | closed s _ | table s _ _ | series s _ => s

abbrev Nodes := List (String × Node)

/-- Set the node of a key: in its old place if it has one, else at the end. -/
def Nodes.set (key : String) (n : Node) : Nodes → Nodes
  | [] => [(key, n)]
  | (k, old) :: rest => if k = key then (k, n) :: rest else (k, old) :: Nodes.set key n rest

/-- A change to a table, given how the table came into being. -/
abbrev Edit := Origin → Nodes → Option Nodes

/-- Edit the table at the end of a path, making what is missing on the way: such
a table begins where its name is written. Dotted keys do not enter a table that a
header defined. -/
def enter (byDots : Bool) (edit : Edit) : Key → Edit
  | [], origin, nodes => edit origin nodes
  | k :: rest, _, nodes =>
    match nodes.lookup k.name with
    | none =>
      let origin := if byDots then .dotted else .passing
      (enter byDots edit rest origin []).map fun inner =>
        nodes.set k.name (.table k.start origin inner)
    | some (.series first tables) =>
      (enter byDots edit rest .header (tables.getLast?.getD [])).map fun inner =>
        nodes.set k.name (.series first (tables.dropLast ++ [inner]))
    | some (.table first origin inner) =>
      if byDots && origin = .header then none
      else (enter byDots edit rest origin inner).map fun inner =>
        nodes.set k.name (.table first origin inner)
    | some _ => none

/-- Split the last part off a path: the way, and the name at its end. -/
def splitLast : Key → Option (Key × String)
  | [] => none
  | [k] => some ([], k.name)
  | k :: rest => (splitLast rest).map fun (way, last) => (k :: way, last)

/-- Define a key. Its table is the one at hand if the key has one part, else one
that dotted keys made; in either case the key is new there. -/
def define (key : Key) (n : Node) : Edit := fun origin nodes => do
  let (way, last) ← splitLast key
  let new : Edit := fun origin nodes =>
    if decide (origin = .dotted) = way.isEmpty then none
    else if (nodes.lookup last).isSome then none
    else some (nodes.set last n)
  enter true new way origin nodes

/-- Define the table of a header, which begins with the header. One that was
defined in passing keeps what it has, but comes last now. -/
def defineTable (start : List Char) (path : Key) (nodes : Nodes) : Option Nodes := do
  let (way, last) ← splitLast path
  let open' : Edit := fun _ nodes =>
    match nodes.lookup last with
    | none => some (nodes.set last (.table start .header []))
    | some (.table _ .passing inner) =>
      some (nodes.eraseP (·.1 = last) ++ [(last, .table start .header inner)])
    | _ => none
  enter false open' way .header nodes

/-- Append a table to a list of tables, which begins with its first header. -/
def appendTable (start : List Char) (path : Key) (nodes : Nodes) : Option Nodes := do
  let (way, last) ← splitLast path
  let append : Edit := fun _ nodes =>
    match nodes.lookup last with
    | none => some (nodes.set last (.series start [[]]))
    | some (.series first tables) => some (nodes.set last (.series first (tables ++ [[]])))
    | _ => none
  enter false append way .header nodes

def inlineNodes (members : List (Key × Node)) : Option Nodes :=
  members.foldlM (fun nodes (key, n) => define key n .header nodes) []

/-- A table whose first key is this one stands for the time that is its value. -/
def timeKey : String := "$__toml_private_datetime"

mutual

def Node.document : Node → Reading Document
  | .value _ d => .ok d
  | .time _ t => .ok (.text t)
  | .list _ items => .list <$> Nodes.items items
  | .closed _ nodes | .table _ _ nodes => Nodes.document nodes
  | .series _ tables => .list <$> Nodes.tables tables

/-- The document that the nodes of a table stand for. -/
def Nodes.document : List (String × Node) → Reading Document
  | [] => .ok (.table [])
  | (key, n) :: rest =>
    if key = timeKey then
      match n with
      | .value start (.text t) =>
        match timeOfText? t with
        | some t => .ok (.text t)
        | none => .error (.final start)
      | n => .error (.final n.start)
    else do
      let d ← n.document
      let es ← Nodes.entries rest
      return .table ((key, d) :: es)

def Nodes.entries : List (String × Node) → Reading Entries
  | [] => .ok []
  | (key, n) :: rest => do
    let d ← n.document
    let es ← Nodes.entries rest
    return (key, d) :: es

def Nodes.items : List Node → Reading (List Document)
  | [] => .ok []
  | n :: rest => do
    let d ← n.document
    let ds ← Nodes.items rest
    return d :: ds

def Nodes.tables : List (List (String × Node)) → Reading (List Document)
  | [] => .ok []
  | t :: rest => do
    let d ← Nodes.document t
    let ds ← Nodes.tables rest
    return d :: ds

end

end FrameGrabber.Toml
