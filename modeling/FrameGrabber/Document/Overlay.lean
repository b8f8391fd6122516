import FrameGrabber.Document
import FrameGrabber.Letter.Case

/-!
# Laying one document over another

Settings come in layers, and a later layer covers an earlier one. Tables are
merged entry by entry; everything else, lists included, is replaced as a whole.
A table laid over something that is no table takes its place, unless it has no
entries: then what was there stays. Keys count in lower case, save those in lists.

A layer addresses a place by its path: keys and places in lists. What is missing
on the way is made, and what is in the way of it is replaced.
-/

namespace FrameGrabber

/-- One step of a path. -/
inductive PathStep where
  | key (name : String)
  /-- A place in a list, from its end if negative. -/
  | index (n : Int)
  deriving DecidableEq, Repr, Inhabited

namespace Document

/-- Edit the entries of a document, which becomes a table if it is none. -/
def editEntries (edit : Entries → Entries) : Document → Document
  | table es source => table (edit es) source
  | _ => table (edit [])

/-- Edit the items of a document, which becomes a list if it is none. -/
def editItems (edit : List Document → List Document) : Document → Document
  | list ds source => list (edit ds) source
  | _ => list (edit [])

mutual

/-- Set an entry; a table is merged into what is there. -/
def put (key : String) : Document → Entries → Entries
  | .table es _, into =>
    let key := Letter.lowerCase key
    Entries.set key (putAll es ((into.lookup key).getD (.table []))) into
  | d, into => Entries.set (Letter.lowerCase key) d into

/-- Set several entries. -/
def putAll : Entries → Document → Document
  | [], target => target
  | (key, d) :: rest, target => putAll rest (target.editEntries (put key d))

end

/-- Edit the item at an index of a list. A list that is too short is filled up
with nulls, at its front if the index counts from the end. -/
def editItem (n : Int) (edit : Document → Document) (ds : List Document) : List Document :=
  let missing (k : Nat) : List Document := List.replicate k .null
  let ds := if n < 0 then missing (n.natAbs - ds.length) ++ ds else ds
  let i := if n < 0 then ds.length - n.natAbs else n.toNat
  (ds ++ missing (i + 1 - ds.length)).modify i edit

/-- Set the place at the end of a path to a value. At its last key a table is
merged. -/
def assign : List PathStep → Document → Document → Document
  | [], value, _ => value
  | [.key k], value, d => d.editEntries (put k value)
  | .key k :: rest, value, d =>
    let k := Letter.lowerCase k
    d.editEntries fun es => es.set k (assign rest value ((es.lookup k).getD .null))
  | .index n :: rest, value, d => d.editItems (editItem n (assign rest value))

end Document

namespace PathStep

/-- May the letter stand in a key of a path? -/
def isKeyLetter (c : Char) : Bool := c.isAlphanum || c = ' ' || c = '_' || c = '-'

/-- The number between square brackets, with blanks around it. It has 64 bits. -/
def index? (s : List Char) : Option Int :=
  let isBlank (c : Char) : Bool := c = ' ' || c = '\t'
  let s := ((s.dropWhile isBlank).reverse.dropWhile isBlank).reverse
  let digits? (ds : List Char) : Option Nat :=
    if ds.isEmpty || !ds.all Char.isDigit then none
    else some (ds.foldl (fun n c => n * 10 + (c.toNat - '0'.toNat)) 0)
  let n := match s with
    | '-' :: ds => (digits? ds).map fun n => -(n : Int)
    | ds => (digits? ds).map fun n => (n : Int)
  n.filter fun n => Int64.minValue.toInt ≤ n && n ≤ Int64.maxValue.toInt

/-- What follows the first key: `.key` and `[index]`, as often as there is
text. The first argument bounds their number. -/
def tail? : Nat → List Char → Option (List PathStep)
  | _, [] => some []
  | 0, _ => none
  | bound + 1, '.' :: s =>
    let name := s.takeWhile isKeyLetter
    if name.isEmpty then none
    else (tail? bound (s.drop name.length)).map (.key (String.ofList name) :: ·)
  | bound + 1, '[' :: s =>
    let inner := s.takeWhile (· ≠ ']')
    match index? inner, s.drop inner.length with
    | some n, ']' :: rest => (tail? bound rest).map (.index n :: ·)
    | _, _ => none
  | _ + 1, _ => none

/-- Read a path. A text that is none is one key as it stands. -/
def ofText (s : String) : List PathStep :=
  let cs := s.toList
  let name := cs.takeWhile isKeyLetter
  match if name.isEmpty then none else tail? cs.length (cs.drop name.length) with
  | some rest => .key (String.ofList name) :: rest
  | none => [.key s]

/-- A path in a message. A point stands between two keys. -/
def text : List PathStep → String
  | [] => ""
  | .key k :: .key l :: rest => k ++ "." ++ text (.key l :: rest)
  | .key k :: rest => k ++ text rest
  | .index n :: rest => s!"[{n}]" ++ text rest

end PathStep

/-- Lay a layer over a document: each of its keys is the path of what it
sets. -/
def Document.overlay (layer : Entries) (base : Document) : Document :=
  layer.foldl (fun d (key, value) => Document.assign (PathStep.ofText key) value d) base

end FrameGrabber
