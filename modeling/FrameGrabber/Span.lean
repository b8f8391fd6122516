/-!
# Lengths and points of time

Time is counted in whole nanoseconds. A span is a length of time, an instant a
point on a clock that only ever moves forward; both are naturals, so that an
earlier instant subtracted from a later one is the span between them and the
other way round gives zero.

Neither has a bound here. A machine names no instant beyond `Instant.latest`, and a
program panics where it adds a span to an instant and the sum is later than that.
-/

namespace FrameGrabber

/-- A length of time in nanoseconds. -/
abbrev Span := Nat

/-- A reading of a clock, in nanoseconds since some origin. -/
abbrev Instant := Nat

namespace Span

def second : Span := 1000000000

def ofMillis (n : Nat) : Span := n * 1000000

/-- The span as whole seconds and the nanoseconds beyond them. -/
def parts (s : Span) : Nat × Nat := (s / second, s % second)

/-- A fraction of `width` digits with the zeros at its end dropped; the point
goes with them when nothing is left. -/
def fractionText (value width : Nat) : String :=
  let digits := Nat.toDigits 10 value
  let padded := List.replicate (width - digits.length) '0' ++ digits
  let kept := (padded.reverse.dropWhile (· = '0')).reverse
  if value = 0 then "" else "." ++ String.ofList kept

/-- A span as text, in the largest unit of which it holds at least one:
seconds, milliseconds, microseconds, else nanoseconds. The fraction is exact
and as short as it can be. -/
def text (s : Span) : String :=
  let write (unit width : Nat) (name : String) :=
    toString (s / unit) ++ fractionText (s % unit) width ++ name
  if second ≤ s then write second 9 "s"
  else if 1000000 ≤ s then write 1000000 6 "ms"
  else if 1000 ≤ s then write 1000 3 "µs"
  else write 1 0 "ns"

/-- The span in seconds, as the nearest sum of its whole seconds and its
fraction. -/
def seconds (s : Span) : Float :=
  (s / second).toFloat + (s % second).toFloat / 1000000000.0

/-- `num / den` rounded to the nearest natural, a half to the even one. -/
def roundHalfEven (num den : Nat) : Nat :=
  let q := num / den
  let r := num % den
  if 2 * r < den || (2 * r = den && q % 2 = 0) then q else q + 1

/-- The span nearest to a number of seconds, in whole nanoseconds with a half
going to the even one. Numbers below zero, NaN, and lengths of `2^64` seconds
and more have none. -/
def ofSeconds? (x : Float) : Option Span :=
  let bits := x.toBits
  let magnitude := bits &&& 0x7fffffffffffffff
  let biased := (magnitude >>> 52).toNat
  let fraction := (magnitude &&& 0xfffffffffffff).toNat
  if magnitude > 0x7ff0000000000000 then none
  else if magnitude = 0 then some 0
  else if bits >>> 63 = 1 then none
  else if biased = 0 then some 0
  else
    let mantissa := fraction + (1 <<< 52)
    let nanos :=
      if biased < 1075 then roundHalfEven (mantissa * second) (1 <<< (1075 - biased))
      else (mantissa <<< (biased - 1075)) * second
    if biased < 1200 && nanos < UInt64.size * second then some nanos else none

end Span
end FrameGrabber
