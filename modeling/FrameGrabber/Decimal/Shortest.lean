/-!
# The shortest decimal that reads back

A rate, an exposure limit or any other number that reaches a message is
written with the fewest decimal digits that still read back as the same
binary64 value, and of the decimals that short the one nearest to it.

The digits are found in exact arithmetic. A finite positive value is `m · 2^q`
with naturals `m` and an integer `q`; the reals that round to it form an
interval around it, closed when `m` is even. For one digit, then two, and so
on up to seventeen, the two points of that decimal grid next to the value are
tried, and the first grid with a point in the interval wins. Seventeen digits
always separate two neighbouring values, so the search ends there at the
latest.
-/

namespace FrameGrabber.Decimal

/-- A finite positive binary64 value, `mantissa · 2^exponent`. `tight` says
that the value sits at the bottom of its binade, where the neighbour below is
only half as far away as the one above. -/
structure Binary where
  mantissa : Nat
  exponent : Int
  tight : Bool
  deriving DecidableEq, Repr

/-- The magnitude carried by the low 63 bits of a finite binary64 word. -/
def Binary.ofBits (bits : UInt64) : Binary :=
  let fraction := (bits &&& 0xfffffffffffff).toNat
  let biased := ((bits >>> 52) &&& 0x7ff).toNat
  if biased = 0 then ⟨fraction, -1074, false⟩
  else ⟨fraction + (1 <<< 52), (biased : Int) - 1075, fraction == 0 && biased != 1⟩

/-- A nonnegative ratio of naturals; the denominators used here are powers of
two and of ten, never zero. -/
structure Ratio where
  num : Nat
  den : Nat
  deriving DecidableEq, Repr

def Ratio.power (base : Nat) (e : Int) : Ratio :=
  if e < 0 then ⟨1, base.pow e.natAbs⟩ else ⟨base.pow e.natAbs, 1⟩

def Ratio.scale (n : Nat) (r : Ratio) : Ratio := ⟨n * r.num, r.den⟩

/-- `a < b`, by cross multiplication. -/
def Ratio.lt (a b : Ratio) : Bool := a.num * b.den < b.num * a.den

def Binary.ratio (b : Binary) : Ratio := (Ratio.power 2 b.exponent).scale b.mantissa

/-- Does a ratio round to this value? The bounds are the midpoints to the two
neighbours, and a midpoint goes to the even mantissa. -/
def Binary.covers (b : Binary) (r : Ratio) : Bool :=
  let unit := Ratio.power 2 (b.exponent - 2)
  let low := unit.scale (4 * b.mantissa - if b.tight then 1 else 2)
  let high := unit.scale (4 * b.mantissa + 2)
  if b.mantissa % 2 = 0 then !r.lt low && !high.lt r else low.lt r && r.lt high

/-- The position of the decimal point: the `k` with `10^(k-1) ≤ value < 10^k`.
The estimate from the binary length is off by at most two, so four candidates
are enough. -/
def Binary.point (b : Binary) : Int :=
  let guess := ((b.mantissa.log2 : Int) + b.exponent) * 30103 / 100000
  let fits (k : Int) : Bool := b.ratio.lt (Ratio.power 10 k)
  ([guess - 1, guess, guess + 1, guess + 2].find? fits).getD (guess + 2)

/-- The digits of `n` without the zeros at its end. -/
def significant (n : Nat) : List Char :=
  ((Nat.toDigits 10 n).reverse.dropWhile (· = '0')).reverse

/-- Digits and the position of the point before them: the number is
`0.d₁d₂… · 10^point`. -/
structure Digits where
  digits : List Char
  point : Int
  deriving DecidableEq, Repr

/-- The grid of `n`-digit decimals around the value: its point just above
the value or just below, whichever rounds to it, the nearer if both do and the
upper on an exact tie. -/
def Binary.onGrid (b : Binary) (n : Nat) : Option Digits :=
  let k := b.point
  let step := Ratio.power 10 (k - n)
  let v := b.ratio
  let below := v.num * step.den / (v.den * step.num)
  let at' (c : Nat) : Digits :=
    ⟨significant c, k + ((Nat.toDigits 10 c).length - n : Int)⟩
  let lowOk := below != 0 && b.covers (step.scale below)
  let highOk := b.covers (step.scale (below + 1))
  match lowOk, highOk with
  | true, true =>
    -- `2v < (2·below + 1)·step` puts the value in the lower half of the cell
    if (v.scale 2).lt (step.scale (2 * below + 1)) then some (at' below)
    else some (at' (below + 1))
  | true, false => some (at' below)
  | false, true => some (at' (below + 1))
  | false, false => none

def Binary.shortest (b : Binary) : Digits :=
  ((List.range 17).findSome? fun n => b.onGrid (n + 1)).getD ⟨['0'], 1⟩

/-- Digits written out in full, never with an exponent: zeros are put between
the point and the digits, or between the digits and the point, as the position
asks. A whole number has no point. -/
def Digits.positional (d : Digits) : String :=
  let n := d.digits.length
  if d.point ≤ 0 then
    "0." ++ String.ofList (List.replicate d.point.natAbs '0' ++ d.digits)
  else if n ≤ d.point.toNat then
    String.ofList (d.digits ++ List.replicate (d.point.toNat - n) '0')
  else
    String.ofList (d.digits.take d.point.toNat ++ '.' :: d.digits.drop d.point.toNat)

/-- A binary64 number as text: shortest digits in full, a minus sign also for
the negative zero, and the words `NaN`, `inf` and `-inf`. -/
def floatText (x : Float) : String :=
  let bits := x.toBits
  let sign := if bits >>> 63 = 1 then "-" else ""
  let magnitude := bits &&& 0x7fffffffffffffff
  if magnitude > 0x7ff0000000000000 then "NaN"
  else if magnitude = 0x7ff0000000000000 then sign ++ "inf"
  else if magnitude = 0 then sign ++ "0"
  else sign ++ (Binary.ofBits magnitude).shortest.positional

end FrameGrabber.Decimal
