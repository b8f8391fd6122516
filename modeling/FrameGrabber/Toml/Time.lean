import FrameGrabber.Decimal.Reading
import FrameGrabber.Toml.Fault

/-!
# Dates and times of a TOML document

There are dates, times of day, and dates with a time of day, which may have an
offset. They become texts in their usual form: a `T` between date and time, a `Z`
for the offset of the meridian, no zeros at the end of a fraction.

Four digits and a dash begin a date, two digits and a colon a time of day;
before that the text may still mean a number.
-/

namespace FrameGrabber.Toml

/-- A field of two digits within bounds. -/
def field (low high : Nat) (s : List Char) : Reading (List Char × List Char) :=
  match s with
  | a :: b :: rest =>
    let n := Decimal.ofDigits [a, b]
    if a.isDigit && b.isDigit && low ≤ n && n ≤ high then .ok ([a, b], rest)
    else .error (.tentative s)
  | _ => .error (.tentative s)

def mark (c : Char) (s : List Char) : Reading (List Char) :=
  match s with
  | d :: rest => if d = c then .ok rest else .error (.tentative s)
  | [] => .error (.tentative s)

def daysIn (year month : Nat) : Nat :=
  if month = 2 then
    if year % 4 = 0 && (year % 100 ≠ 0 || year % 400 = 0) then 29 else 28
  else if month = 4 || month = 6 || month = 9 || month = 11 then 30
  else 31

def date (s : List Char) : Reading (List Char × List Char) := do
  let year := s.take 4
  if year.length < 4 || !year.all Char.isDigit then .error (.tentative s)
  let rest ← mark '-' (s.drop 4)
  let (month, rest) ← (field 1 12 rest).commit
  let rest ← (mark '-' rest).commit
  let days := daysIn (Decimal.ofDigits year) (Decimal.ofDigits month)
  let (day, rest) ← (field 1 days rest).commit
  return (year ++ '-' :: month ++ '-' :: day, rest)

/-- The fraction of a second, if there is one: nine digits count, zeros at the end
do not. -/
def fraction : List Char → List Char × List Char
  | '.' :: rest =>
    let digits := rest.takeWhile Char.isDigit
    if digits.isEmpty then ([], '.' :: rest)
    else
      let kept := ((digits.take 9).reverse.dropWhile (· = '0')).reverse
      (if kept.isEmpty then [] else '.' :: kept, rest.drop digits.length)
  | rest => ([], rest)

def clock (s : List Char) : Reading (List Char × List Char) := do
  let (hour, rest) ← field 0 23 s
  let rest ← mark ':' rest
  let (minute, rest) ← (field 0 59 rest).commit
  let rest ← (mark ':' rest).commit
  let (second, rest) ← (field 0 60 rest).commit
  let (fraction, rest) := fraction rest
  return (hour ++ ':' :: minute ++ ':' :: second ++ fraction, rest)

/-- The offset of a time, if there is one. An offset of nothing is a positive one. -/
def offset (s : List Char) : Reading (List Char × List Char) :=
  match s with
  | 'Z' :: rest | 'z' :: rest => .ok (['Z'], rest)
  | '+' :: rest | '-' :: rest => do
    let (hour, rest) ← (field 0 23 rest).commit
    let rest ← (mark ':' rest).commit
    let (minute, rest) ← (field 0 59 rest).commit
    let isNothing := Decimal.ofDigits (hour ++ minute) = 0
    let sign := if s.head? = some '-' && !isNothing then '-' else '+'
    return (sign :: hour ++ ':' :: minute, rest)
  | _ => .ok ([], s)

/-- A date, with a time of day if one follows behind a `T` or a blank, or a time of
day alone. -/
def time (s : List Char) : Reading (String × List Char) :=
  let dated : Reading (String × List Char) := do
    let (date, rest) ← date s
    let timed : Reading (List Char × List Char) ← match rest with
      | [] => pure (.error (.tentative []))
      | c :: more =>
        if c = 'T' || c = 't' || c = ' ' then pure (clock more)
        else pure (.error (.tentative rest))
    match ← timed.attempt with
    | none => return (String.ofList date, rest)
    | some (clock, rest) =>
      let (offset, rest) ← offset rest
      return (String.ofList (date ++ 'T' :: clock ++ offset), rest)
  dated.orElse fun _ => do
    let (clock, rest) ← clock s
    return (String.ofList clock, rest)

/-- The time that the whole of a text stands for. -/
def timeOfText? (s : String) : Option String :=
  match time s.toList with
  | .ok (t, []) => some t
  | _ => none

end FrameGrabber.Toml
