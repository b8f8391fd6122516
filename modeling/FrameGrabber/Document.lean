import FrameGrabber.Decimal.Shortest
import FrameGrabber.Letter.Quoted

/-!
# Documents

A document is a tree of plain values, the form that settings have between a
text and the record they end up in. A table keeps its entries in the order in
which they came and has each key once. A value may know where it was said, so that
whoever said it can be told what is wrong with it.
-/

namespace FrameGrabber

/-- A tree of values. -/
inductive Document where
  | null (source : Option String := none)
  | bool (b : Bool) (source : Option String := none)
  | int (n : Int) (source : Option String := none)
  | number (x : Float) (source : Option String := none)
  | text (s : String) (source : Option String := none)
  | list (items : List Document) (source : Option String := none)
  | table (entries : List (String × Document)) (source : Option String := none)
  deriving Repr, Inhabited

abbrev Entries := List (String × Document)

/-- Set the entry of a key: in its old place if it has one, else at the end. -/
def Entries.set (key : String) (d : Document) : Entries → Entries
  | [] => [(key, d)]
  | (k, old) :: rest => if k = key then (k, d) :: rest else (k, old) :: Entries.set key d rest

namespace Document

/-- Where the document was said, if that is known. -/
def source : Document → Option String
  | null s | bool _ s | int _ s | number _ s | text _ s | list _ s | table _ s => s

mutual

/-- The document with all its values, as said somewhere. -/
def saidIn (place : String) : Document → Document
  | null _ => null place
  | bool b _ => bool b place
  | int n _ => int n place
  | number x _ => number x place
  | text s _ => text s place
  | list ds _ => list (itemsSaidIn place ds) place
  | table es _ => table (entriesSaidIn place es) place

/-- Items as said somewhere. -/
def itemsSaidIn (place : String) : List Document → List Document
  | [] => []
  | d :: rest => d.saidIn place :: itemsSaidIn place rest

def entriesSaidIn (place : String) : Entries → Entries
  | [] => []
  | (key, d) :: rest => (key, d.saidIn place) :: entriesSaidIn place rest

end

def truthText (b : Bool) : String := if b then "true" else "false"

/-- What a message calls a value that cannot be converted. -/
def describe : Document → String
  | null _ => "unit value"
  | bool b _ => s!"boolean `{truthText b}`"
  | int n _ => s!"64-bit integer `{toString n}`"
  | number x _ => s!"floating point `{Decimal.floatText x}`"
  | text s _ => "string " ++ Letter.quoted s
  | list _ _ => "sequence"
  | table _ _ => "map"

/-- What a message calls a value that stands where there should be several. Here
a number shows that it is no integer. -/
def describeWhole : Document → String
  | int n _ => s!"integer `{toString n}`"
  | number x _ =>
    let digits := Decimal.floatText x
    let point := if x.isFinite && !digits.toList.contains '.' then ".0" else ""
    s!"floating point `{digits ++ point}`"
  | d => d.describe

end Document
end FrameGrabber
