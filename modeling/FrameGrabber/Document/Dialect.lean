import FrameGrabber.Decimal.Reading
import FrameGrabber.Document.Overlay

/-!
# Reading values out of documents

A dialect says which documents stand for a plain value. There are two. The exact
one takes every value only in the form in which it is written. The lenient one
is for people and their environment variables, in which all is text: it converts
where it can.

`Documented` types have a document each way. What their readings have in common
is here: a record is read from a table by the names of its fields, or from a
list by their order; fields that are not known are passed over.
-/

namespace FrameGrabber

/-- What is wrong with a value. -/
inductive Mismatch where
  /-- A plain value cannot be converted. -/
  | type (found expected : String)
  /-- A plain value stands where there should be a record or a list, or the other way
  round. -/
  | shape (found expected : String)
  /-- A family of alternatives has none of that name. -/
  | unknownName (family name : String)
  /-- The value has not even the form of an alternative of the family. -/
  | nameless (family : String)
  deriving DecidableEq, Repr, Inhabited

/-- A place in a document where something else was expected. -/
structure Misfit where
  path : List PathStep := []
  mismatch : Mismatch
  /-- Where the value was said, if that is known. -/
  source : Option String := none
  deriving DecidableEq, Repr, Inhabited

/-- The misfit as seen from one level further out. -/
def Misfit.under (m : Misfit) (step : PathStep) : Misfit := { m with path := step :: m.path }

def Misfit.message (m : Misfit) : String :=
  match m.mismatch with
  | .type found expected =>
    let place := if m.path.isEmpty then "" else s!" for key `{PathStep.text m.path}`"
    let source := match m.source with
      | some s => " in " ++ s
      | none => ""
    s!"invalid type: {found}, expected {expected}{place}{source}"
  | .shape found expected => s!"invalid type: {found}, expected {expected}"
  | .unknownName family name => s!"enum {family} does not have variant constructor {name}"
  | .nameless family =>
    s!"value of enum {family} should be represented by either string or table with exactly one key"

/-- What stands for what. -/
structure Dialect where
  /-- A natural of 64 bits. -/
  natural : Document → Option Nat
  integer : Document → Option Int64
  number : Document → Option Float
  truth : Document → Option Bool
  text : Document → Option String
  /-- The name of one of several alternatives. -/
  word : Document → Option String
  sameWord : String → String → Bool
  /-- May a list hold more than the fields of the record it is read as? -/
  surplus : Bool

namespace Dialect

def int64? (n : Int) : Option Int64 :=
  if Int64.minValue.toInt ≤ n && n ≤ Int64.maxValue.toInt then some (Int64.ofInt n) else none

/-- The natural, if it has 64 bits at most. -/
def word64? (n : Int) : Option Nat :=
  if 0 ≤ n && n.toNat < UInt64.size then some n.toNat else none

/-- Only what was written: nothing is converted, save that an integer is also
a number. An alternative is its name, or a table of the name and null. -/
def exact : Dialect where
  natural d := match d with
    | .int n _ => word64? n
    | _ => none
  integer d := match d with
    | .int n _ => int64? n
    | _ => none
  number d := match d with
    | .number x _ => some x
    | .int n _ => some (Float.ofInt n)
    | _ => none
  truth d := match d with
    | .bool b _ => some b
    | _ => none
  text d := match d with
    | .text s _ => some s
    | _ => none
  word d := match d with
    | .text s _ => some s
    | .table [(s, .null _)] _ => some s
    | _ => none
  sameWord a b := a = b
  surplus := false

def truthWord? (s : String) : Option Bool :=
  let s := Letter.lowerCase s
  if s = "true" || s = "on" || s = "yes" then some true
  else if s = "false" || s = "off" || s = "no" then some false
  else none

def truthText? (s : String) : Option Bool :=
  if s = "1" then some true else if s = "0" then some false else truthWord? s

/-- A natural of 64 bits as text. Truth values count as one and zero. -/
def naturalText? (s : String) : Option Nat :=
  match truthWord? s with
  | some b => some b.toNat
  | none => (Decimal.natural? s.toList).filter (· < UInt64.size)

def integerText? (s : String) : Option Int64 :=
  match truthWord? s with
  | some b => some (if b then 1 else 0)
  | none =>
    match s.toList with
    | '-' :: digits =>
      if digits.isEmpty || !digits.all Char.isDigit then none
      else int64? (-(Decimal.ofDigits digits : Int))
    | cs => (Decimal.natural? cs).bind fun n => int64? n

def numberText? (s : String) : Option Float :=
  match truthWord? s with
  | some b => some (if b then 1.0 else 0.0)
  | none => Decimal.number? s.toList

/-- Whatever can be converted. Numbers are rounded to integers, a half away from
zero, and one out of range becomes the nearest bound. Alternatives go by their
names in any case of letters, also when these are the one key of a table. -/
def lenient : Dialect where
  natural d := match d with
    | .int n _ => word64? n
    | .number x _ => some x.round.toUInt64.toNat
    | .bool b _ => some b.toNat
    | .text s _ => naturalText? s
    | _ => none
  integer d := match d with
    | .int n _ => int64? n
    | .number x _ => some x.round.toInt64
    | .bool b _ => some (if b then 1 else 0)
    | .text s _ => integerText? s
    | _ => none
  number d := match d with
    | .number x _ => some x
    | .int n _ => some (Float.ofInt n)
    | .bool b _ => some (if b then 1.0 else 0.0)
    | .text s _ => numberText? s
    | _ => none
  truth d := match d with
    | .bool b _ => some b
    | .int n _ => some (n ≠ 0)
    | .number x _ => some (x != 0.0)
    | .text s _ => truthText? s
    | _ => none
  text d := match d with
    | .text s _ => some s
    | .bool b _ => some (Document.truthText b)
    | .int n _ => some (toString n)
    | .number x _ => some (Decimal.floatText x)
    | _ => none
  word d := match d with
    | .text s _ => some s
    | .table [(s, _)] _ => some s
    | _ => none
  sameWord a b := Letter.lowerCase a = Letter.lowerCase b
  surplus := true

end Dialect

/-- Types that have a document. -/
class Documented (α : Type) where
  write : α → Document
  read : Dialect → Document → Except Misfit α

namespace Document

def refuse {α : Type} (d : Document) (expected : String) : Except Misfit α :=
  .error { mismatch := .type d.describe expected, source := d.source }

def refuseShape {α : Type} (d : Document) (expected : String) : Except Misfit α :=
  .error { mismatch := .shape d.describeWhole expected }

/-- What a conversion came to, or the misfit it means. -/
def expect {α : Type} (d : Document) (expected : String) : Option α → Except Misfit α
  | some a => .ok a
  | none => d.refuse expected

/-- What a natural was expected as: an integer that is none lacks only the
right sign and size. -/
def naturalKind : Document → String
  | .int _ _ => "an unsigned 64 bit or less integer"
  | _ => "an integer"

/-- The alternative of a family that goes by a name. -/
def choose {α : Type} (dialect : Dialect) (family : String) (names : List (String × α))
    (d : Document) : Except Misfit α :=
  match dialect.word d with
  | none => .error { mismatch := .nameless family }
  | some w =>
    match names.find? fun n => dialect.sameWord n.1 w with
    | some (_, a) => .ok a
    | none => .error { mismatch := .unknownName family w }

/-- The one entry of a table that stands for an alternative with a value. -/
def alternative (d : Document) : Except Misfit (String × Document) :=
  match d with
  | .table [(name, value)] _ => .ok (name, value)
  | d => d.refuseShape "an alternative with its value"

def readAll {α : Type} (read : Document → Except Misfit α) : Nat → List Document →
    Except Misfit (List α)
  | _, [] => .ok []
  | i, d :: rest => do
    let a ← (read d).mapError fun m => m.under (.index i)
    return a :: (← readAll read (i + 1) rest)

end Document

/-- The fields of a record on the way into it. -/
structure Fields where
  dialect : Dialect
  /-- The name of each field, the step that leads to it, and its value. -/
  values : List (String × PathStep × Document)
  /-- Were they found by their names, rather than by their order? -/
  named : Bool

/-- The fields that a document gives to a kind of record whose fields have these
names, in this order. -/
def Fields.of (dialect : Dialect) (kind : String) (names : List String) (d : Document) :
    Except Misfit Fields :=
  match d with
  | .table es _ => .ok ⟨dialect, es.map fun (key, d) => (key, .key key, d), true⟩
  | .list ds _ =>
    if dialect.surplus || ds.length ≤ names.length then
      .ok ⟨dialect, names.zip (ds.zipIdx.map fun (d, i) => (.index i, d)), false⟩
    else d.refuseShape s!"at most {names.length} fields"
  | d => d.refuseShape s!"struct {kind}"

/-- A field, or what stands in for a missing one. -/
def Fields.get {α : Type} [Documented α] (f : Fields) (name : String) (absent : Option α) :
    Except Misfit α :=
  match f.values.lookup name with
  | some (step, d) => (Documented.read f.dialect d).mapError fun m => m.under step
  | none =>
    match absent with
    | some a => .ok a
    | none => .error { path := [.key name], mismatch := .shape "nothing" "a value" }

instance : Documented Nat where
  write n := .int n
  read dialect d := d.expect d.naturalKind (dialect.natural d)

instance : Documented UInt32 where
  write n := .int n.toNat
  read dialect d := do
    let n ← d.expect d.naturalKind (dialect.natural d)
    if n < UInt32.size then return n.toUInt32
    else .error { mismatch := .type s!"64-bit unsigned integer `{n}`" "an unsigned 32 bit integer" }

instance : Documented Int64 where
  write n := .int n.toInt
  read dialect d := d.expect "an integer" (dialect.integer d)

instance : Documented Float where
  write x := .number x
  read dialect d := d.expect "a floating point" (dialect.number d)

instance : Documented Bool where
  write b := .bool b
  read dialect d :=
    let shown : Document := match d with
      | .text s source => .text (Letter.lowerCase s) source
      | d => d
    shown.expect "a boolean" (dialect.truth d)

instance : Documented String where
  write s := .text s
  read dialect d := d.expect "a string" (dialect.text d)

/-- Null is the absence of a value. -/
instance {α : Type} [Documented α] : Documented (Option α) where
  write
    | some a => Documented.write a
    | none => .null
  read dialect
    | .null _ => .ok none
    | d => some <$> Documented.read dialect d

instance {α : Type} [Documented α] : Documented (List α) where
  write l := .list (l.map Documented.write)
  read dialect
    | .list ds _ => Document.readAll (Documented.read dialect) 0 ds
    | d => d.refuseShape "a sequence"

end FrameGrabber
