/-!
# Reading numbers

A natural is a run of digits, with a plus sign in front if one likes. A
binary64 number is written with a point, an exponent, both or neither, and the
value is the nearest one. Infinities and NaN go by their names. Neither form
allows blanks.
-/

namespace FrameGrabber.Decimal

def ofDigits (digits : List Char) : Nat :=
  digits.foldl (fun n c => n * 10 + (c.toNat - '0'.toNat)) 0

/-- A natural, with or without a plus sign. -/
def natural? (s : List Char) : Option Nat :=
  let digits := match s with
    | '+' :: rest => rest
    | _ => s
  if digits.isEmpty || !digits.all Char.isDigit then none else some (ofDigits digits)

/-- An optional sign, as whether it is a minus, and what follows it. -/
def signed : List Char → Bool × List Char
  | '+' :: rest => (false, rest)
  | '-' :: rest => (true, rest)
  | s => (false, s)

/-- The number nearest to `m * 10^e`. Beyond four hundred places on either side
of the point there are only infinity and zero. -/
def nearest (m : Nat) (e : Int) : Float :=
  let places := (Nat.toDigits 10 m).length + e
  if m = 0 then 0.0
  else if 400 < places then 1.0 / 0.0
  else if places < -400 then 0.0
  else Float.ofScientific m (e < 0) e.natAbs

/-- What may follow the digits of a number: nothing, or an exponent. -/
def exponent? : List Char → Option Int
  | [] => some 0
  | c :: rest =>
    if c = 'e' || c = 'E' then
      let (negative, digits) := signed rest
      if digits.isEmpty || !digits.all Char.isDigit then none
      else some (if negative then -(ofDigits digits : Int) else ofDigits digits)
    else none

def magnitude? (s : List Char) : Option Float :=
  let name := s.map Char.toLower
  if name = ['i', 'n', 'f'] || name = "infinity".toList then some (1.0 / 0.0)
  else if name = ['n', 'a', 'n'] then some (0.0 / 0.0)
  else
    let whole := s.takeWhile Char.isDigit
    let rest := s.drop whole.length
    let (fraction, rest) := match rest with
      | '.' :: more => (more.takeWhile Char.isDigit, more.dropWhile Char.isDigit)
      | _ => ([], rest)
    if whole.isEmpty && fraction.isEmpty then none
    else
      (exponent? rest).map fun e => nearest (ofDigits (whole ++ fraction)) (e - fraction.length)

def number? (s : List Char) : Option Float :=
  let (negative, rest) := signed s
  (magnitude? rest).map fun x => if negative then -x else x

end FrameGrabber.Decimal
