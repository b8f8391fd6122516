import FrameGrabber.Decimal.Reading
import FrameGrabber.Document
import FrameGrabber.Toml.Text

/-!
# Numbers of a TOML document

Digits may be grouped by single underscores, each between two digits. Integers
have 64 bits and are written in base ten, with a sign if one likes, or behind a
mark for their base. A number with a fraction or an exponent is a binary64 one;
one too large is refused, one too far below zero is the negative infinity.
-/

namespace FrameGrabber.Toml

/-- The digits that go on, without the underscores between them. Behind an
underscore there must be one. -/
def moreDigits (isDigit : Char → Bool) : List Char → Reading (List Char × List Char)
  | '_' :: c :: rest =>
    if isDigit c then (moreDigits isDigit rest).map fun (ds, rest) => (c :: ds, rest)
    else .error (.final (c :: rest))
  | ['_'] => .error (.final [])
  | c :: rest =>
    if isDigit c then (moreDigits isDigit rest).map fun (ds, rest) => (c :: ds, rest)
    else .ok ([], c :: rest)
  | [] => .ok ([], [])

def digits (isDigit : Char → Bool) (s : List Char) : Reading (List Char × List Char) :=
  if (s.head?.map isDigit).getD false then moreDigits isDigit s else .error (.tentative s)

/-- The digits of a whole number. A zero in front stands alone. -/
def whole : List Char → Reading (List Char × List Char)
  | '0' :: rest => .ok (['0'], rest)
  | s => digits Char.isDigit s

def isDigitOf (base : Nat) (c : Char) : Bool :=
  match hexDigit? c with
  | some n => n < base
  | none => false

/-- The base that a mark in front of an integer stands for. -/
def baseOfMark? (c : Char) : Option Nat :=
  if c = 'x' then some 16 else if c = 'o' then some 8 else if c = 'b' then some 2 else none

def integer (s : List Char) : Reading (Int × List Char) := do
  let (n, rest) ← match s with
    | '0' :: c :: rest =>
      match baseOfMark? c with
      | some base => do
        let (ds, rest) ← (digits (isDigitOf base) rest).commit
        pure (ds.foldl (fun (n : Int) c => n * base + (hexDigit? c).getD 0) 0, rest)
      | none => decimal s
    | _ => decimal s
  if Int64.minValue.toInt ≤ n && n ≤ Int64.maxValue.toInt then return (n, rest)
  else .error (.final s)
where
  /-- An integer in base ten. -/
  decimal (s : List Char) : Reading (Int × List Char) := do
    let (negative, rest) := Decimal.signed s
    let (ds, rest) ← whole rest
    let n : Int := Decimal.ofDigits ds
    return (if negative then -n else n, rest)

def exponent (s : List Char) : Reading (Option Int × List Char) :=
  match s with
  | c :: rest =>
    if c = 'e' || c = 'E' then do
      let (negative, rest) := Decimal.signed rest
      let (ds, rest) ← (digits Char.isDigit rest).commit
      let n : Int := Decimal.ofDigits ds
      return (some (if negative then -n else n), rest)
    else return (none, s)
  | [] => return (none, [])

/-- A number with a fraction, an exponent or both. -/
def fractional (s : List Char) : Reading (Float × List Char) := do
  let (negative, rest) := Decimal.signed s
  let (ds, rest) ← whole rest
  let (fraction, behind) ← match rest with
    | '.' :: more => (digits Char.isDigit more).commit
    | _ => pure ([], rest)
  let (e, behind) ← exponent behind
  if fraction.isEmpty && e.isNone then .error (.tentative rest)
  let x := Decimal.nearest (Decimal.ofDigits (ds ++ fraction)) (e.getD 0 - fraction.length)
  let x := if negative then -x else x
  if x == 1.0 / 0.0 then .error (.final s) else return (x, behind)

def named (s : List Char) : Reading (Float × List Char) :=
  let (negative, rest) := Decimal.signed s
  let withSign (x : Float) : Float := if negative then -x else x
  match rest with
  | 'i' :: 'n' :: 'f' :: rest => .ok (withSign (1.0 / 0.0), rest)
  | 'n' :: 'a' :: 'n' :: rest => .ok (withSign (0.0 / 0.0), rest)
  | _ => .error (.tentative rest)

def number (s : List Char) : Reading (Document × List Char) :=
  let float (r : Reading (Float × List Char)) : Reading (Document × List Char) :=
    r.map fun (x, rest) => (.number x, rest)
  (float (fractional s)).orElse fun _ =>
    (float (named s)).orElse fun _ =>
      (integer s).map fun (n, rest) => (.int n, rest)

end FrameGrabber.Toml
