import FrameGrabber.Buffer

/-!
# The RGGB mosaic

A colour sensor samples one colour at each site: red where row and column are
both even, blue where both are odd, green elsewhere. Demosaicing fills in the
two colours a site lacks with the mean of the sites in its 3×3 neighbourhood
that do sample them, rounded half up. The neighbourhood is cut at the borders,
and the site's own colour is its own sample, never a mean.

A colour with no site in the neighbourhood is zero. That needs an image one
pixel wide or high.
-/

namespace FrameGrabber

/-- One of the three colours a site can sample. -/
inductive Colour where
  | red
  | green
  | blue
  deriving DecidableEq, Repr, Inhabited

def Colour.index : Colour → Nat
  | red => 0
  | green => 1
  | blue => 2

def Colour.ofIndex : Nat → Colour
  | 0 => red
  | 1 => green
  | _ => blue

namespace Mosaic

def sampled (x y : Nat) : Colour :=
  if y % 2 = 0 then (if x % 2 = 0 then .red else .green)
  else (if x % 2 = 0 then .green else .blue)

/-- The steps from a site to its neighbourhood, itself included, each raised
by one so that it is a natural. -/
def steps : List (Nat × Nat) :=
  [(0, 0), (1, 0), (2, 0), (0, 1), (1, 1), (2, 1), (0, 2), (1, 2), (2, 2)]

/-- A sum of samples and how many went into it. -/
structure Tally where
  sum : Nat
  count : Nat
  deriving DecidableEq, Repr, Inhabited

def Tally.add (t : Tally) (v : UInt8) : Tally := ⟨t.sum + v.toNat, t.count + 1⟩

/-- The mean, rounded half up; zero when there is no sample. -/
def Tally.mean (t : Tally) : UInt8 :=
  if t.count = 0 then 0 else ((t.sum + t.count / 2) / t.count).toUInt8

/-- What the neighbourhood of `(x, y)` holds of a colour. The site's own
colour is taken from the site alone. -/
def tally (raw : Bytes) (w h x y : Nat) (c : Colour) : Tally :=
  steps.foldl (fun t (dx, dy) =>
    let nx := x + dx - 1
    let ny := y + dy - 1
    if 0 < x + dx && 0 < y + dy && nx < w && ny < h
        && sampled nx ny = c && (sampled x y != c || (nx = x && ny = y)) then
      t.add (raw.getD (ny * w + nx) 0)
    else t) ⟨0, 0⟩

def demosaic (raw : Bytes) (w h : Nat) : Bytes :=
  Array.ofFn fun i : Fin (w * h * 3) =>
    let pixel := i.val / 3
    (tally raw w h (pixel % w) (pixel / w) (Colour.ofIndex (i.val % 3))).mean

end Mosaic
end FrameGrabber
