import FrameGrabber.Proofs.Picture
import Mathlib.Algebra.Order.BigOperators.Group.List
import Mathlib.Data.Finset.Max
import Mathlib.Data.Rat.Floor

/-!
# Demosaicing is bilinear interpolation

The reference says for each phase of the mosaic where a site takes a colour from:
its own sample, the neighbours across its edges, those across its corners, or
those on either side or above and below. Neighbours beyond the border do not
exist. The mean of what there is, rounded half up, is the colour of the site.

Demosaicing knows none of this. It goes over the neighbourhood once and asks of
each site which colour it samples. That depends on the parities of the two
places only, so that both ways to choose agree is a matter of four phases and
three colours; the border is the same question for both.

The mean of bytes lies between the least and the greatest of them, so it is a
byte again. This one fact also gives the picture of an evenly coloured scene.
-/

namespace FrameGrabber
namespace Mosaic

/-! ## The reference -/

section Reference

def sideways : List (Int × Int) := [(-1, 0), (1, 0)]

def upright : List (Int × Int) := [(0, -1), (0, 1)]

def edges : List (Int × Int) := [(0, -1), (-1, 0), (1, 0), (0, 1)]

def corners : List (Int × Int) := [(-1, -1), (1, -1), (-1, 1), (1, 1)]

/-- The steps from a site to the sites that it takes a colour from. The green sites
have their red neighbours on either side in the rows of the red sites, and above
and below in the rows of the blue ones. -/
def sources (x y : Nat) (c : Colour) : List (Int × Int) :=
  match sampled x y, c with
  | .red, .red | .green, .green | .blue, .blue => [(0, 0)]
  | .red, .green | .blue, .green => edges
  | .red, .blue | .blue, .red => corners
  | .green, .red => if y % 2 = 0 then sideways else upright
  | .green, .blue => if y % 2 = 0 then upright else sideways

variable (raw : Bytes) (w h : Nat)

/-- The sample of a site, if the picture has that site. -/
def sample? (x y : Int) : Option UInt8 :=
  if 0 ≤ x ∧ x < w ∧ 0 ≤ y ∧ y < h then raw[y.toNat * w + x.toNat]? else none

/-- All samples that a site takes a colour from. -/
def samples (x y : Nat) (c : Colour) : List UInt8 :=
  (sources x y c).filterMap fun s => sample? raw w h (x + s.1) (y + s.2)

/-- The mean of some bytes; that of none is zero. -/
def average (l : List UInt8) : ℚ := ((l.map (·.toNat)).sum : ℕ) / l.length

/-- The byte that the interpolated picture `rgb` has for a colour of a site. -/
structure Interpolates (rgb : Bytes) (x y : Nat) (c : Colour) (v : UInt8) : Prop where
  stored : rgb[(y * w + x) * 3 + c.index]? = some v
  own : sampled x y = c → raw[y * w + x]? = some v
  rounded : v.toNat = ⌊average (samples raw w h x y c) + 1 / 2⌋₊
  within : samples raw w h x y c ≠ [] →
    ∃ lo ∈ samples raw w h x y c, ∃ hi ∈ samples raw w h x y c, lo ≤ v ∧ v ≤ hi
  missing : samples raw w h x y c = [] → v = 0

end Reference

/-- What a sensor makes of a picture: at each site the colour that the site samples. -/
def ofPicture (rgb : Bytes) (w h : Nat) : Bytes :=
  Array.ofFn fun i : Fin (w * h) => rgb.getD (i.val * 3 + (sampled (i % w) (i / w)).index) 0

/-- A picture of one colour all over. -/
def evenly (colour : Colour → UInt8) (w h : Nat) : Bytes :=
  Array.ofFn fun i : Fin (w * h * 3) => colour (Colour.ofIndex (i % 3))

/-! ## Rounded means -/

theorem foldl_add (l : List UInt8) (t : Tally) :
    l.foldl Tally.add t = ⟨t.sum + (l.map (·.toNat)).sum, t.count + l.length⟩ := by
  induction l generalizing t with
  | nil => rfl
  | cons v rest ih =>
      rw [List.foldl_cons, ih]
      simp only [Tally.add, List.map_cons, List.sum_cons, List.length_cons, Tally.mk.injEq]
      omega

theorem sum_le {l : List UInt8} {hi : Nat} (h : ∀ a ∈ l, a.toNat ≤ hi) :
    (l.map (·.toNat)).sum ≤ l.length * hi := by
  have := List.sum_le_card_nsmul (l.map (·.toNat)) hi (by simpa using h)
  simpa using this

theorem le_sum {l : List UInt8} {lo : Nat} (h : ∀ a ∈ l, lo ≤ a.toNat) :
    l.length * lo ≤ (l.map (·.toNat)).sum := by
  have := List.card_nsmul_le_sum (l.map (·.toNat)) lo (by simpa using h)
  simpa using this

/-- The tally of these bytes. -/
def tallyOf (l : List UInt8) : Tally := ⟨(l.map (·.toNat)).sum, l.length⟩

theorem mean_eq {l : List UInt8} (hl : l ≠ []) :
    (tallyOf l).mean =
      (((l.map (·.toNat)).sum + l.length / 2) / l.length).toUInt8 := by
  have hlength : l.length ≠ 0 := fun h => hl (List.length_eq_zero_iff.1 h)
  rw [tallyOf, Tally.mean, if_neg hlength]

theorem quotient_le {l : List UInt8} (hl : l ≠ []) {hi : Nat} (h : ∀ a ∈ l, a.toNat ≤ hi) :
    ((l.map (·.toNat)).sum + l.length / 2) / l.length ≤ hi := by
  have hpos : 0 < l.length := List.length_pos_iff.2 hl
  have hsum := sum_le h
  rw [← Nat.lt_succ_iff, Nat.div_lt_iff_lt_mul hpos, Nat.succ_mul, Nat.mul_comm hi]
  omega

theorem toNat_mean {l : List UInt8} (hl : l ≠ []) :
    (tallyOf l).mean.toNat = ((l.map (·.toNat)).sum + l.length / 2) / l.length := by
  have hbyte := quotient_le hl fun a _ => Nat.le_of_lt_succ a.toNat_lt
  rw [mean_eq hl, Nat.toUInt8, UInt8.toNat_ofNat']
  exact Nat.mod_eq_of_lt (Nat.lt_succ_of_le hbyte)

theorem mean_le {l : List UInt8} (hl : l ≠ []) {hi : UInt8} (h : ∀ a ∈ l, a.toNat ≤ hi.toNat) :
    (tallyOf l).mean ≤ hi := by
  rw [UInt8.le_iff_toNat_le, toNat_mean hl]
  exact quotient_le hl h

theorem le_mean {l : List UInt8} (hl : l ≠ []) {lo : UInt8} (h : ∀ a ∈ l, lo.toNat ≤ a.toNat) :
    lo ≤ (tallyOf l).mean := by
  have hpos : 0 < l.length := List.length_pos_iff.2 hl
  have hsum := le_sum h
  rw [UInt8.le_iff_toNat_le, toNat_mean hl, Nat.le_div_iff_mul_le hpos, Nat.mul_comm]
  omega

theorem mean_within {l : List UInt8} (hl : l ≠ []) :
    ∃ lo ∈ l, ∃ hi ∈ l, lo ≤ (tallyOf l).mean ∧ (tallyOf l).mean ≤ hi := by
  have hne : l.toFinset.Nonempty := List.toFinset_nonempty_iff l |>.2 hl
  obtain ⟨lo, hlo, hleast⟩ := l.toFinset.exists_min_image UInt8.toNat hne
  obtain ⟨hi, hhi, hgreatest⟩ := l.toFinset.exists_max_image UInt8.toNat hne
  simp only [List.mem_toFinset] at hlo hleast hhi hgreatest
  exact ⟨lo, hlo, hi, hhi, le_mean hl hleast, mean_le hl hgreatest⟩

theorem mean_of_forall {l : List UInt8} {v : UInt8} (hl : l ≠ []) (h : ∀ a ∈ l, a = v) :
    (tallyOf l).mean = v := by
  refine UInt8.le_antisymm (mean_le hl ?_) (le_mean hl ?_)
  · intro a ha
    rw [h a ha]
  · intro a ha
    rw [h a ha]

theorem toNat_mean_eq_floor (l : List UInt8) :
    (tallyOf l).mean.toNat = ⌊average l + 1 / 2⌋₊ := by
  by_cases hl : l = []
  · subst hl
    have hzero : average [] = 0 := by simp [average]
    have hhalf : ⌊(0 : ℚ) + 1 / 2⌋₊ = 0 := by norm_num
    rw [hzero, hhalf]
    rfl
  have hpos : 0 < l.length := List.length_pos_iff.2 hl
  rw [toNat_mean hl, average]
  generalize (l.map (·.toNat)).sum = s
  generalize l.length = n at hpos
  -- Both bounds of the floor are inequalities of naturals; only then are they cast.
  have hlow : 2 * (n * ((s + n / 2) / n)) ≤ 2 * s + n := by
    have := Nat.mul_div_le (s + n / 2) n
    omega
  have hhigh : 2 * s + n < 2 * (n * ((s + n / 2) / n + 1)) := by
    have := Nat.lt_mul_div_succ (s + n / 2) hpos
    omega
  generalize (s + n / 2) / n = v at hlow hhigh
  have hn : (0 : ℚ) < n := Nat.cast_pos.2 hpos
  have hlow' : 2 * ((n : ℚ) * v) ≤ 2 * s + n := by exact_mod_cast hlow
  have hhigh' : 2 * (s : ℚ) + n < 2 * (n * (v + 1)) := by exact_mod_cast hhigh
  have hmean : (s : ℚ) / n + 1 / 2 = (2 * s + n) / (2 * n) := by
    field_simp
  rw [eq_comm, Nat.floor_eq_iff (by positivity), hmean, le_div_iff₀ (by positivity),
    div_lt_iff₀ (by positivity)]
  constructor
  · linarith
  · linarith

/-! ## Which sites count -/

/-- Does a site of these parities take a colour from the site that a raised step leads
to? -/
def keeps (x y : Nat) (c : Colour) (s : Nat × Nat) : Bool :=
  sampled (x + s.1 + 1) (y + s.2 + 1) = c && (sampled x y != c || (s.1 = 1 && s.2 = 1))

/-- A raised step as it is. -/
def lowered (s : Nat × Nat) : Int × Int := (s.1 - 1, s.2 - 1)

theorem sampled_congr {x y x' y' : Nat} (hx : x % 2 = x' % 2) (hy : y % 2 = y' % 2) :
    sampled x y = sampled x' y' := by
  rw [sampled, sampled, hx, hy]

theorem sources_congr {x y x' y' : Nat} (hx : x % 2 = x' % 2) (hy : y % 2 = y' % 2)
    (c : Colour) : sources x y c = sources x' y' c := by
  unfold sources
  rw [sampled_congr hx hy, hy]

/-- In each of the four phases, and for each colour, what the scan keeps of the
neighbourhood is what the reference names. -/
theorem kept_steps (x y : Nat) (c : Colour) :
    (steps.filter (keeps (x % 2) (y % 2) c)).map lowered = sources x y c := by
  rw [sources_congr (Nat.mod_mod x 2).symm (Nat.mod_mod y 2).symm]
  rcases Nat.mod_two_eq_zero_or_one x with hx | hx <;>
    rcases Nat.mod_two_eq_zero_or_one y with hy | hy <;>
      rw [hx, hy] <;> cases c <;> rfl

variable {raw : Bytes} {w h x y : Nat}

/-- What the scan finds at a step. -/
def found (raw : Bytes) (w h x y : Nat) (c : Colour) (s : Nat × Nat) : Option UInt8 :=
  if 0 < x + s.1 && 0 < y + s.2 && x + s.1 - 1 < w && y + s.2 - 1 < h
      && sampled (x + s.1 - 1) (y + s.2 - 1) = c
      && (sampled x y != c || (x + s.1 - 1 = x && y + s.2 - 1 = y)) then
    some (raw.getD ((y + s.2 - 1) * w + (x + s.1 - 1)) 0)
  else none

theorem tally_eq_found (raw : Bytes) (w h x y : Nat) (c : Colour) :
    tally raw w h x y c = tallyOf (steps.filterMap (found raw w h x y c)) := by
  have hfold : tally raw w h x y c =
      (steps.filterMap (found raw w h x y c)).foldl Tally.add ⟨0, 0⟩ := by
    rw [tally, List.foldl_filterMap]
    congr 1
    funext t s
    simp only [found]
    split <;> rfl
  rw [hfold, foldl_add, Nat.zero_add, Nat.zero_add]
  rfl

theorem getElem?_of_site (hraw : raw.size = w * h) (hx : x < w) (hy : y < h) :
    raw[y * w + x]? = some (raw.getD (y * w + x) 0) := by
  have hlt : y * w + x < raw.size := by
    have : (y + 1) * w ≤ h * w := Nat.mul_le_mul_right w hy
    rw [Nat.succ_mul] at this
    rw [hraw, Nat.mul_comm w h]
    omega
  simp [hlt]

/-- A step leads to a sample just if the site that it leads to is in the picture and
counts. -/
theorem found_eq (hraw : raw.size = w * h) (c : Colour) (s : Nat × Nat) :
    found raw w h x y c s =
      if keeps (x % 2) (y % 2) c s then
        sample? raw w h (x + (lowered s).1) (y + (lowered s).2)
      else none := by
  obtain ⟨dx, dy⟩ := s
  by_cases hin : 0 < x + dx ∧ 0 < y + dy ∧ x + dx - 1 < w ∧ y + dy - 1 < h
  · obtain ⟨hx, hy, hw, hh⟩ := hin
    have hsite : sampled (x + dx - 1) (y + dy - 1) =
        sampled (x % 2 + dx + 1) (y % 2 + dy + 1) := sampled_congr (by omega) (by omega)
    have hown : sampled x y = sampled (x % 2) (y % 2) :=
      sampled_congr (Nat.mod_mod x 2).symm (Nat.mod_mod y 2).symm
    have hcentre : (x + dx - 1 = x ∧ y + dy - 1 = y) ↔ (dx = 1 ∧ dy = 1) := by omega
    have hpx : ((x : Int) + (dx - 1)).toNat = x + dx - 1 := by omega
    have hpy : ((y : Int) + (dy - 1)).toNat = y + dy - 1 := by omega
    have hsample : sample? raw w h (x + (lowered (dx, dy)).1) (y + (lowered (dx, dy)).2) =
        some (raw.getD ((y + dy - 1) * w + (x + dx - 1)) 0) := by
      simp only [lowered]
      rw [sample?, if_pos (by omega), hpx, hpy]
      exact getElem?_of_site hraw hw hh
    rw [hsample]
    simp only [found, keeps, ← hsite, ← hown]
    simp [hx, hy, hw, hh, hcentre]
  · have hout : sample? raw w h (x + (lowered (dx, dy)).1) (y + (lowered (dx, dy)).2) = none := by
      simp only [lowered]
      rw [sample?, if_neg (by omega)]
    have hfound : found raw w h x y c (dx, dy) = none := by
      rw [found, if_neg]
      simp only [Bool.and_eq_true, decide_eq_true_eq]
      rintro ⟨⟨⟨⟨⟨hx, hy⟩, hw⟩, hh⟩, -⟩, -⟩
      exact hin ⟨hx, hy, hw, hh⟩
    rw [hfound, hout, ite_self]

/-- The scan gathers the samples that the reference names. -/
theorem found_steps (hraw : raw.size = w * h) (x y : Nat) (c : Colour) :
    steps.filterMap (found raw w h x y c) = samples raw w h x y c := by
  rw [samples, ← kept_steps, List.filterMap_map, List.filterMap_filter]
  exact List.filterMap_congr fun s _ => found_eq hraw c s

theorem tally_eq (hraw : raw.size = w * h) (x y : Nat) (c : Colour) :
    tally raw w h x y c = tallyOf (samples raw w h x y c) := by
  rw [tally_eq_found, found_steps hraw]

/-! ## One byte of the picture -/

theorem index_lt (c : Colour) : c.index < 3 := by
  cases c <;> decide

theorem index_ofIndex {i : Nat} (hi : i < 3) : (Colour.ofIndex i).index = i := by
  match i, hi with
  | 0, _ | 1, _ | 2, _ => rfl

theorem ofIndex_index (c : Colour) : Colour.ofIndex c.index = c := by
  cases c <;> rfl

theorem site_lt (hx : x < w) (hy : y < h) : y * w + x < w * h := by
  have : (y + 1) * w ≤ h * w := Nat.mul_le_mul_right w hy
  rw [Nat.succ_mul] at this
  rw [Nat.mul_comm w h]
  omega

theorem column_of_site (hx : x < w) (y : Nat) : (y * w + x) % w = x := by
  rw [Nat.mul_comm, Nat.mul_add_mod, Nat.mod_eq_of_lt hx]

theorem row_of_site (hx : x < w) (y : Nat) : (y * w + x) / w = y := by
  rw [Nat.mul_comm, Nat.mul_add_div (Nat.zero_lt_of_lt hx), Nat.div_eq_of_lt hx, Nat.add_zero]

theorem exists_site {i : Nat} (hi : i < w * h) : ∃ x y, x < w ∧ y < h ∧ i = y * w + x := by
  have hw : 0 < w := Nat.pos_of_mul_pos_right (Nat.zero_lt_of_lt hi)
  refine ⟨i % w, i / w, Nat.mod_lt i hw, Nat.div_lt_of_lt_mul hi, ?_⟩
  rw [Nat.mul_comm, Nat.div_add_mod]

theorem demosaic_getElem? (raw : Bytes) (hx : x < w) (hy : y < h) (c : Colour) :
    (demosaic raw w h)[(y * w + x) * 3 + c.index]? = some (tally raw w h x y c).mean := by
  have hc := index_lt c
  have hsite := site_lt hx hy
  have hlt : (y * w + x) * 3 + c.index < w * h * 3 := by omega
  have hpixel : ((y * w + x) * 3 + c.index) / 3 = y * w + x := by omega
  have hcolour : ((y * w + x) * 3 + c.index) % 3 = c.index := by omega
  rw [demosaic, Array.getElem?_ofFn]
  simp only [hlt, hpixel, hcolour, column_of_site hx, row_of_site hx, ofIndex_index c, dif_pos]

theorem samples_own (hraw : raw.size = w * h) (hx : x < w) (hy : y < h) :
    samples raw w h x y (sampled x y) = [raw.getD (y * w + x) 0] := by
  have hsources : sources x y (sampled x y) = [(0, 0)] := by
    unfold sources
    cases sampled x y <;> rfl
  have hsample : sample? raw w h (x + 0) (y + 0) = some (raw.getD (y * w + x) 0) := by
    rw [sample?, if_pos (by omega)]
    exact getElem?_of_site hraw hx hy
  rw [samples, hsources]
  exact List.filterMap_cons_some hsample

theorem interpolates (hraw : raw.size = w * h) (hx : x < w) (hy : y < h) (c : Colour) :
    Interpolates raw w h (demosaic raw w h) x y c (tallyOf (samples raw w h x y c)).mean where
  stored := by rw [demosaic_getElem? raw hx hy, tally_eq hraw]
  own hc := by
    rw [← hc, samples_own hraw hx hy, getElem?_of_site hraw hx hy]
    exact congrArg some (mean_of_forall (by simp) (by simp)).symm
  rounded := toNat_mean_eq_floor _
  within hl := mean_within hl
  missing hl := by
    rw [hl]
    rfl

/-! ## Whole pictures -/

theorem ofPicture_getElem? (rgb : Bytes) (hx : x < w) (hy : y < h) :
    (ofPicture rgb w h)[y * w + x]? =
      some (rgb.getD ((y * w + x) * 3 + (sampled x y).index) 0) := by
  rw [ofPicture, Array.getElem?_ofFn]
  simp only [site_lt hx hy, column_of_site hx, row_of_site hx, dif_pos]

theorem size_ofPicture (rgb : Bytes) (w h : Nat) : (ofPicture rgb w h).size = w * h := by
  simp [ofPicture]

theorem evenly_getElem? (colour : Colour → UInt8) (hx : x < w) (hy : y < h) (c : Colour) :
    (evenly colour w h)[(y * w + x) * 3 + c.index]? = some (colour c) := by
  have hc := index_lt c
  have hsite := site_lt hx hy
  have hlt : (y * w + x) * 3 + c.index < w * h * 3 := by omega
  have hcolour : ((y * w + x) * 3 + c.index) % 3 = c.index := by omega
  rw [evenly, Array.getElem?_ofFn]
  simp only [hlt, hcolour, ofIndex_index c, dif_pos]

theorem picture_ext {rgb rgb' : Bytes} (hsize : rgb.size = w * h * 3)
    (hsize' : rgb'.size = w * h * 3)
    (hsites : ∀ x y (c : Colour), x < w → y < h →
      rgb[(y * w + x) * 3 + c.index]? = rgb'[(y * w + x) * 3 + c.index]?) : rgb = rgb' := by
  apply Array.ext_getElem?
  intro i
  by_cases hi : i < w * h * 3
  · obtain ⟨x, y, hx, hy, hsite⟩ := exists_site (Nat.div_lt_of_lt_mul (Nat.mul_comm _ 3 ▸ hi))
    have hindex := index_ofIndex (Nat.mod_lt i (by decide : 0 < 3))
    have hplace : i = (y * w + x) * 3 + (Colour.ofIndex (i % 3)).index := by
      rw [← hsite, hindex]
      omega
    rw [hplace]
    exact hsites x y _ hx hy
  · rw [Array.getElem?_eq_none (by omega), Array.getElem?_eq_none (by omega)]

/-- A sensor that looks at the interpolated picture samples the bytes that the picture
was made from. -/
theorem ofPicture_demosaic (hraw : raw.size = w * h) : ofPicture (demosaic raw w h) w h = raw := by
  apply Array.ext_getElem?
  intro i
  by_cases hi : i < w * h
  · obtain ⟨x, y, hx, hy, rfl⟩ := exists_site hi
    have hbyte := interpolates hraw hx hy (sampled x y)
    rw [ofPicture_getElem? _ hx hy, hbyte.own rfl, Array.getD_eq_getD_getElem?, hbyte.stored]
    rfl
  · have hsize := size_ofPicture (demosaic raw w h) w h
    rw [Array.getElem?_eq_none (by omega), Array.getElem?_eq_none (by omega)]

/-! ## Even colours -/

theorem mem_samples (hraw : raw.size = w * h) {c : Colour} {a : UInt8}
    (ha : a ∈ samples raw w h x y c) :
    ∃ x' y', (x' < w ∧ y' < h) ∧ (x' ≤ x + 1 ∧ x ≤ x' + 1) ∧ sampled x' y' = c ∧
      a = raw.getD (y' * w + x') 0 := by
  rw [← found_steps hraw, List.mem_filterMap] at ha
  obtain ⟨⟨dx, dy⟩, hstep, hfound⟩ := ha
  have hnear : ∀ s ∈ steps, s.1 ≤ 2 := by decide
  have hdx : dx ≤ 2 := hnear (dx, dy) hstep
  simp only [found] at hfound
  split at hfound
  · next hin =>
      simp only [Bool.and_eq_true, decide_eq_true_eq] at hin
      obtain ⟨⟨⟨⟨⟨hx, -⟩, hw⟩, hh⟩, hc⟩, -⟩ := hin
      cases hfound
      exact ⟨_, _, ⟨hw, hh⟩, by omega, hc, rfl⟩
  · cases hfound

theorem mem_samples_evenly {colour : Colour → UInt8} {c : Colour} {a : UInt8}
    (ha : a ∈ samples (ofPicture (evenly colour w h) w h) w h x y c) : a = colour c := by
  obtain ⟨x', y', ⟨hx, hy⟩, -, hc, rfl⟩ := mem_samples (size_ofPicture _ w h) ha
  rw [Array.getD_eq_getD_getElem?, ofPicture_getElem? _ hx hy, Array.getD_eq_getD_getElem?,
    evenly_getElem? colour hx hy, hc]
  rfl

/-- In a row of two places or more each place has another one beside it. -/
theorem next_place {x w : Nat} (hw : 2 ≤ w) (hx : x < w) :
    ∃ d, (d = 0 ∨ d = 2) ∧ 0 < x + d ∧ x + d - 1 < w ∧ (x + d - 1) % 2 ≠ x % 2 := by
  by_cases hlast : x + 1 < w
  · exact ⟨2, by omega⟩
  · exact ⟨0, by omega⟩

/-- Any two rows and two columns that follow one another have all three colours where
they meet. -/
theorem sampled_cases {x y x' y' : Nat} (hx : x' % 2 ≠ x % 2) (hy : y' % 2 ≠ y % 2)
    (c : Colour) :
    sampled x y = c ∨ sampled x' y = c ∨ sampled x y' = c ∨ sampled x' y' = c := by
  have hx' : x' % 2 = 1 - x % 2 := by omega
  have hy' : y' % 2 = 1 - y % 2 := by omega
  unfold sampled
  rw [hx', hy']
  rcases Nat.mod_two_eq_zero_or_one x with h | h <;>
    rcases Nat.mod_two_eq_zero_or_one y with h' | h' <;>
      rw [h, h'] <;> cases c <;> decide

theorem samples_ne_nil (hraw : raw.size = w * h) (hw : 2 ≤ w) (hh : 2 ≤ h) (hx : x < w)
    (hy : y < h) (c : Colour) : samples raw w h x y c ≠ [] := by
  have hfind : ∀ dx dy, (dx, dy) ∈ steps → 0 < x + dx → 0 < y + dy → x + dx - 1 < w →
      y + dy - 1 < h → sampled (x + dx - 1) (y + dy - 1) = c →
      (sampled x y ≠ c ∨ dx = 1 ∧ dy = 1) → samples raw w h x y c ≠ [] := by
    intro dx dy hstep hx0 hy0 hx' hy' hc hown
    have hsome : found raw w h x y c (dx, dy) =
        some (raw.getD ((y + dy - 1) * w + (x + dx - 1)) 0) := by
      rw [found, if_pos]
      rcases hown with hown | ⟨rfl, rfl⟩
      · simp [hx0, hy0, hx', hy', hc, hown]
      · have hcentre : sampled x y = c := hc
        simp [hx, hy, hcentre]
    rw [← found_steps hraw]
    exact List.ne_nil_of_mem (List.mem_filterMap.2 ⟨(dx, dy), hstep, hsome⟩)
  by_cases hown : sampled x y = c
  · exact hfind 1 1 (by decide) (by omega) (by omega) (by omega) (by omega) hown (.inr ⟨rfl, rfl⟩)
  obtain ⟨dx, hdx, hx0, hx', hflip⟩ := next_place hw hx
  obtain ⟨dy, hdy, hy0, hy', hflip'⟩ := next_place hh hy
  have hsteps : (dx, 1) ∈ steps ∧ (1, dy) ∈ steps ∧ (dx, dy) ∈ steps := by
    rcases hdx with rfl | rfl <;> rcases hdy with rfl | rfl <;> decide
  rcases sampled_cases hflip hflip' c with hc | hc | hc | hc
  · exact absurd hc hown
  · exact hfind dx 1 hsteps.1 hx0 (by omega) hx' (by omega) hc (.inl hown)
  · exact hfind 1 dy hsteps.2.1 (by omega) hy0 (by omega) hy' hc (.inl hown)
  · exact hfind dx dy hsteps.2.2 hx0 hy0 hx' hy' hc (.inl hown)

/-- An evenly coloured scene comes out as it is, if the picture has two rows and two
columns at least. -/
theorem demosaic_evenly (colour : Colour → UInt8) (hw : 2 ≤ w) (hh : 2 ≤ h) :
    demosaic (ofPicture (evenly colour w h) w h) w h = evenly colour w h := by
  have hsize := size_ofPicture (evenly colour w h) w h
  refine picture_ext (w := w) (h := h) (size_demosaic _ w h) (by simp [evenly]) ?_
  intro x y c hx hy
  rw [(interpolates hsize hx hy c).stored, evenly_getElem? colour hx hy]
  exact congrArg some
    (mean_of_forall (samples_ne_nil hsize hw hh hx hy c) fun a ha => mem_samples_evenly ha)

/-- Demosaicing is bilinear interpolation. A raw picture of any width and height gives
a picture with a byte for each colour of each site, and that is the byte of the
reference; the sensor's grid gives the raw picture back; and an even colour stays
even. -/
theorem demosaic_interpolates (raw : Bytes) (w h : Nat) (hraw : raw.size = w * h) :
    (demosaic raw w h).size = w * h * 3 ∧
    (∀ x y c, x < w → y < h → ∃ v, Interpolates raw w h (demosaic raw w h) x y c v) ∧
    ofPicture (demosaic raw w h) w h = raw ∧
    ∀ colour, 2 ≤ w → 2 ≤ h → raw = ofPicture (evenly colour w h) w h →
      demosaic raw w h = evenly colour w h := by
  refine ⟨size_demosaic raw w h, ?_, ofPicture_demosaic hraw, ?_⟩
  · intro x y c hx hy
    exact ⟨_, interpolates hraw hx hy c⟩
  · intro colour hw hh heven
    rw [heven]
    exact demosaic_evenly colour hw hh

/-- Between two reds of 240 and 241 the red of a green site is 241, and three even
columns stay even. -/
theorem demosaic_interpolates_small :
    let raw : Bytes := #[240, 10, 241, 20, 16, 30]
    let colour : Colour → UInt8 := fun c => if c = .green then 100 else 50
    raw.size = 3 * 2 ∧ (1 < 3 ∧ 0 < 2 ∧ Interpolates raw 3 2 (demosaic raw 3 2) 1 0 .red 241) ∧
      (ofPicture (evenly colour 3 2) 3 2).size = 3 * 2 ∧ 2 ≤ 3 ∧ 2 ≤ 2 ∧
      demosaic (ofPicture (evenly colour 3 2) 3 2) 3 2 = evenly colour 3 2 := by
  intro raw colour
  obtain ⟨-, hbytes, -, -⟩ := demosaic_interpolates raw 3 2 rfl
  obtain ⟨v, hv⟩ := hbytes 1 0 .red (by decide) (by decide)
  have hbyte : (demosaic raw 3 2)[3]? = some 241 := by decide +kernel
  have hv241 : v = 241 := Option.some.inj (hv.stored.symm.trans hbyte)
  have hsize : (ofPicture (evenly colour 3 2) 3 2).size = 3 * 2 := size_ofPicture _ 3 2
  have heven := (demosaic_interpolates _ 3 2 hsize).2.2.2 colour (by decide) (by decide) rfl
  exact ⟨rfl, ⟨by decide, by decide, hv241 ▸ hv⟩, hsize, by decide, by decide, heven⟩

end Mosaic
end FrameGrabber
