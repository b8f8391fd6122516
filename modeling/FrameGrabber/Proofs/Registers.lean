import FrameGrabber.Proofs.Numbers
import FrameGrabber.Session.Settings
import FrameGrabber.Sim.Registers

/-!
# What the registers of a simulated camera take

A write is refused or replaces one register. What was there before can always be
written back after a write that was accepted, and that restores the registers
exactly: this is `write_undo`, and everything about failed configurations rests
on it. It needs two things. The formats of the camera must be canonical, or the
name of one could be read as another. And the registers must be restorable: as
far as the camera takes any value of a feature, it takes the present one. A
camera with a sensor without width, without formats, or with a limit of the rate
that is no positive number has registers that nobody can write, so nobody ever
has to write them back.
-/

namespace FrameGrabber

/-! ## What is taken -/

namespace Camera

/-- The camera can be set to this rate. -/
def TakesRate (c : Camera) (rate : Float) : Prop :=
  0.0 < rate ∧ rate ≤ c.maxFrameRate

/-- The camera can be configured like this. -/
structure Takes (c : Camera) (x : Settings) : Prop where
  width : 1 ≤ x.width ∧ x.width ≤ c.sensorWidth
  height : 1 ≤ x.height ∧ x.height ≤ c.sensorHeight
  format : x.format ∈ c.formats
  rate : c.TakesRate x.rate

/-- Every format of the camera is canonical. -/
def Canonical (c : Camera) : Prop := ∀ f ∈ c.formats, f.IsCanonical

end Camera

namespace Registers

variable {c : Camera} {r r' : Registers} {acquiring : Bool}

theorem checkSide_ofSide (f : Feature) (n limit : UInt32) :
    (∃ reason, checkSide f (.int n.toUInt64.toInt64) limit =
        .error (.invalidFeatureValue f.name reason) ∧ ¬(1 ≤ n ∧ n ≤ limit)) ∨
      checkSide f (.int n.toUInt64.toInt64) limit = .ok n ∧ 1 ≤ n ∧ n ≤ limit := by
  have hone : (1 : Int64).toInt = 1 := by rfl
  have hone' : (1 : UInt32).toNat = 1 := by rfl
  simp only [checkSide, FeatureValue.asInt?, Bool.or_eq_true, decide_eq_true_eq,
    Int64.lt_iff_toInt_lt, toInt_ofSide, hone, UInt32.le_iff_toNat_le, hone']
  split
  · exact .inl ⟨_, rfl, by omega⟩
  · refine .inr ⟨?_, by omega, by omega⟩
    rw [side_ofSide]

theorem checkSide_eq_ok {f : Feature} {v : FeatureValue} {limit n : UInt32}
    (h : checkSide f v limit = .ok n) :
    v.asInt? = some n.toUInt64.toInt64 ∧ 1 ≤ n ∧ n ≤ limit := by
  have hone : (1 : Int64).toInt = 1 := by rfl
  have hone' : (1 : UInt32).toNat = 1 := by rfl
  have hlimit : limit.toNat < 2 ^ 32 := limit.toNat_lt
  unfold checkSide at h
  split at h
  · cases h
  · next m hm =>
      simp only [Bool.or_eq_true, decide_eq_true_eq, Int64.lt_iff_toInt_lt, toInt_ofSide,
        hone] at h
      split at h
      · cases h
      · injection h with h
        have hside : (m.toUInt64.toUInt32.toNat : Int) = m.toInt :=
          side_of_toInt (by omega) (by omega)
        rw [h] at hside
        have hback : n.toUInt64.toInt64 = m := by rw [← Int64.toInt_inj, toInt_ofSide, hside]
        refine ⟨by rw [hm, hback], ?_⟩
        rw [UInt32.le_iff_toNat_le, UInt32.le_iff_toNat_le, hone']
        omega

theorem checkFormat_name {f : PixelFormat} (hf : f.IsCanonical) (hm : f ∈ c.formats) :
    checkFormat c (.enum f.name) = .ok f := by
  have hparse : PixelFormat.parse f.name = f := hf
  simp only [checkFormat, FeatureValue.asWord?, hparse]
  rw [if_pos (by simpa using hm)]

theorem checkFormat_eq_ok {v : FeatureValue} {f : PixelFormat}
    (h : checkFormat c v = .ok f) :
    v.asWord?.map PixelFormat.parse = some f ∧ f ∈ c.formats := by
  unfold checkFormat at h
  split at h
  · cases h
  · next word hword =>
      simp only at h
      split at h
      · next hm =>
          injection h with h
          subst h
          exact ⟨by rw [hword]; rfl, by simpa using hm⟩
      · cases h

theorem checkRate_float (rate : Float) :
    (∃ reason, checkRate c (.float rate) =
        .error (.invalidFeatureValue Feature.frameRate.name reason) ∧
          ¬c.TakesRate rate) ∨
      checkRate c (.float rate) = .ok rate ∧ c.TakesRate rate := by
  simp only [checkRate, FeatureValue.asFloat?, Bool.and_eq_true, decide_eq_true_eq,
    Camera.TakesRate]
  split
  · next h => exact .inr ⟨rfl, h⟩
  · next h => exact .inl ⟨_, rfl, h⟩

theorem checkRate_eq_ok {v : FeatureValue} {rate : Float}
    (h : checkRate c v = .ok rate) : v.asFloat? = some rate ∧ c.TakesRate rate := by
  unfold checkRate at h
  split at h
  · cases h
  · next x hx =>
      split at h
      · next hr =>
          injection h with h
          subst h
          exact ⟨hx, by simpa [Camera.TakesRate] using hr⟩
      · cases h

theorem checkSwitch_eq_ok {v : FeatureValue} {on : Bool} (h : checkSwitch v = .ok on) :
    v.asBool? = some on := by
  unfold checkSwitch at h
  split at h
  · cases h
  · next x hx =>
      injection h with h
      rw [hx, h]

theorem checkMode_enum {mode : String} (h : mode ∈ acquisitionModes) :
    checkMode (.enum mode) = .ok mode := by
  have hmode : acquisitionModes.contains mode = true := by simpa using h
  simp only [checkMode, FeatureValue.asWord?, Option.filter_some, hmode, if_true]

theorem checkMode_eq_ok {v : FeatureValue} {mode : String}
    (h : checkMode v = .ok mode) : v.asWord? = some mode ∧ mode ∈ acquisitionModes := by
  unfold checkMode at h
  split at h
  · cases h
  · next word hword =>
      injection h with h
      subst h
      obtain ⟨hvalue, hmode⟩ := Option.filter_eq_some_iff.1 hword
      exact ⟨hvalue, by simpa using hmode⟩

/-! ## One write -/

/-- One register was replaced by a value that the camera takes. -/
inductive Replaced (c : Camera) (acquiring : Bool) (r : Registers) :
    Feature → Registers → Prop
  | width (n : UInt32) (hrest : acquiring = false)
      (hn : 1 ≤ n ∧ n ≤ c.sensorWidth) :
      Replaced c acquiring r .width { r with width := n }
  | height (n : UInt32) (hrest : acquiring = false)
      (hn : 1 ≤ n ∧ n ≤ c.sensorHeight) :
      Replaced c acquiring r .height { r with height := n }
  | format (f : PixelFormat) (hrest : acquiring = false) (hf : f ∈ c.formats) :
      Replaced c acquiring r .pixelFormat { r with format := f }
  | rate (x : Float) (hx : c.TakesRate x) :
      Replaced c acquiring r .frameRate { r with rate := x }
  | switch (on : Bool) :
      Replaced c acquiring r .frameRateEnable { r with rateEnabled := on }
  | mode (m : String) (hm : m ∈ acquisitionModes) :
      Replaced c acquiring r .acquisitionMode { r with mode := m }

theorem map_eq_ok {α β : Type} {f : α → β} {x : Except CameraError α} {b : β}
    (h : f <$> x = .ok b) : ∃ a, x = .ok a ∧ f a = b := by
  cases x with
  | error e => cases h
  | ok a =>
      injection h with h
      exact ⟨a, rfl, h⟩

theorem replaced_of_write {f : Feature} {v : FeatureValue}
    (h : r.write c acquiring f v = .ok r') : Replaced c acquiring r f r' := by
  cases f with
  | width =>
      cases acquiring with
      | true => cases h
      | false =>
          obtain ⟨n, hn, rfl⟩ := map_eq_ok h
          exact .width n rfl (checkSide_eq_ok hn).2
  | height =>
      cases acquiring with
      | true => cases h
      | false =>
          obtain ⟨n, hn, rfl⟩ := map_eq_ok h
          exact .height n rfl (checkSide_eq_ok hn).2
  | pixelFormat =>
      cases acquiring with
      | true => cases h
      | false =>
          obtain ⟨f, hf, rfl⟩ := map_eq_ok h
          exact .format f rfl (checkFormat_eq_ok hf).2
  | frameRate =>
      obtain ⟨x, hx, rfl⟩ := map_eq_ok h
      exact .rate x (checkRate_eq_ok hx).2
  | frameRateEnable =>
      obtain ⟨on, -, rfl⟩ := map_eq_ok h
      exact .switch on
  | acquisitionMode =>
      obtain ⟨m, hm, rfl⟩ := map_eq_ok h
      exact .mode m (checkMode_eq_ok hm).2
  | payloadSize => cases h
  | sensorWidth => cases h
  | sensorHeight => cases h
  | vendorName => cases h
  | modelName => cases h
  | serialNumber => cases h

/-- As far as the camera takes any value of a feature, it takes the present one;
and the name of the present format is read as that format. -/
structure Restorable (r : Registers) (c : Camera) : Prop where
  width : 1 ≤ c.sensorWidth → 1 ≤ r.width ∧ r.width ≤ c.sensorWidth
  height : 1 ≤ c.sensorHeight → 1 ≤ r.height ∧ r.height ≤ c.sensorHeight
  format : ∀ f ∈ c.formats, r.format ∈ c.formats
  rate : ∀ x, c.TakesRate x → c.TakesRate r.rate
  mode : r.mode ∈ acquisitionModes
  canonical : r.format.IsCanonical

theorem initial_restorable (hc : c.Canonical) : (initial c).Restorable c where
  width h := ⟨h, UInt32.le_refl _⟩
  height h := ⟨h, UInt32.le_refl _⟩
  format f hf := by
    unfold initial
    cases hformats : c.formats with
    | nil =>
        rw [hformats] at hf
        exact absurd hf (by simp)
    | cons g rest => exact List.mem_cons_self ..
  rate x hx := pos_of_pos_of_le hx.1 hx.2
  mode := by
    show "Continuous" ∈ acquisitionModes
    decide
  canonical := by
    unfold initial
    cases hformats : c.formats with
    | nil => exact rfl
    | cons g rest => exact hc g (by rw [hformats]; exact List.mem_cons_self ..)

theorem Replaced.restorable {f : Feature} (h : Replaced c acquiring r f r')
    (hc : c.Canonical) (hr : r.Restorable c) : r'.Restorable c := by
  cases h with
  | width n hrest hn => exact { hr with width := fun _ => hn }
  | height n hrest hn => exact { hr with height := fun _ => hn }
  | format f hrest hf =>
      exact { hr with format := fun _ _ => hf, canonical := hc f hf }
  | rate x hx => exact { hr with rate := fun _ _ => hx }
  | switch on => exact { hr with }
  | mode m hm => exact { hr with mode := hm }

theorem write_side {f : Feature} {n limit : UInt32} (g : UInt32 → Registers)
    (hn : 1 ≤ n ∧ n ≤ limit) :
    (g <$> checkSide f (.int n.toUInt64.toInt64) limit : Except CameraError Registers) =
      .ok (g n) := by
  rcases checkSide_ofSide f n limit with ⟨reason, -, h⟩ | ⟨h, -⟩
  · exact absurd hn h
  · rw [h]
    rfl

/-- After a write that was accepted, the value of before can be written, and
then the registers are those of before. -/
theorem write_undo {f : Feature} {v : FeatureValue} (hc : c.Canonical)
    (hr : r.Restorable c) (h : r.write c acquiring f v = .ok r') :
    r'.write c acquiring f (r.read c f) = .ok r := by
  cases replaced_of_write h with
  | width n hrest hn =>
      rw [hrest]
      exact write_side _ (hr.width (UInt32.le_trans hn.1 hn.2))
  | height n hrest hn =>
      rw [hrest]
      exact write_side _ (hr.height (UInt32.le_trans hn.1 hn.2))
  | format f hrest hf =>
      have hformat : r.format ∈ c.formats := hr.format f hf
      rw [hrest]
      simp only [write, read, checkFormat_name (hc _ hformat) hformat]
      rfl
  | rate x hx =>
      have hrate : c.TakesRate r.rate := hr.rate x hx
      simp only [write, read]
      rcases checkRate_float (c := c) r.rate with ⟨reason, -, hno⟩ | ⟨hok, -⟩
      · exact absurd hrate hno
      · rw [hok]
        rfl
  | switch on => rfl
  | mode m hm =>
      simp only [write, read, checkMode_enum hr.mode]
      rfl

/-- The value is refused, if it is, in the name of the feature. -/
def Refuses {α : Type} (f : Feature) (x : Except CameraError α) : Prop :=
  ∀ e, x = .error e → ∃ reason, e = .invalidFeatureValue f.name reason

theorem refuses_ok {α : Type} (f : Feature) (a : α) : Refuses f (.ok a) := by
  intro e h
  cases h

theorem refuses_refuse {α : Type} (f : Feature) (reason : String) :
    Refuses f (refuse f reason : Except CameraError α) := by
  intro e h
  injection h with h
  exact ⟨reason, h.symm⟩

theorem Refuses.map {α β : Type} {f : Feature} {x : Except CameraError α} (g : α → β)
    (h : Refuses f x) : Refuses f (g <$> x) := by
  intro e he
  cases x with
  | error e' =>
      injection he with he
      rw [← he]
      exact h e' rfl
  | ok a => cases he

theorem checkSide_refuses (f : Feature) (v : FeatureValue) (limit : UInt32) :
    Refuses f (checkSide f v limit) := by
  unfold checkSide
  split
  · exact refuses_refuse f _
  · split
    · exact refuses_refuse f _
    · exact refuses_ok f _

theorem checkFormat_refuses (c : Camera) (v : FeatureValue) :
    Refuses .pixelFormat (checkFormat c v) := by
  unfold checkFormat
  split
  · exact refuses_refuse _ _
  · simp only
    split
    · exact refuses_ok _ _
    · exact refuses_refuse _ _

theorem checkRate_refuses (c : Camera) (v : FeatureValue) :
    Refuses .frameRate (checkRate c v) := by
  unfold checkRate
  split
  · exact refuses_refuse _ _
  · split
    · exact refuses_ok _ _
    · exact refuses_refuse _ _

theorem checkSwitch_refuses (v : FeatureValue) :
    Refuses .frameRateEnable (checkSwitch v) := by
  unfold checkSwitch
  split
  · exact refuses_refuse _ _
  · exact refuses_ok _ _

theorem checkMode_refuses (v : FeatureValue) : Refuses .acquisitionMode (checkMode v) := by
  unfold checkMode
  split
  · exact refuses_refuse _ _
  · exact refuses_ok _ _

/-- A write that is refused names its feature. -/
theorem write_eq_error {f : Feature} {v : FeatureValue} {e : CameraError}
    (h : r.write c acquiring f v = .error e) :
    e = .featureReadOnly f.name ∨ ∃ reason, e = .invalidFeatureValue f.name reason := by
  have hlocked : ∀ {x : Except CameraError Registers}, Refuses f x →
      (if acquiring then .error (.featureReadOnly f.name) else x) = .error e →
      e = .featureReadOnly f.name ∨ ∃ reason, e = .invalidFeatureValue f.name reason := by
    intro x hx h
    split at h
    · injection h with h
      exact .inl h.symm
    · exact .inr (hx e h)
  have hread : Except.error (.featureReadOnly f.name) =
      (.error e : Except CameraError Registers) → e = .featureReadOnly f.name := by
    intro h
    injection h with h
    exact h.symm
  cases f with
  | width => exact hlocked ((checkSide_refuses _ _ _).map _) h
  | height => exact hlocked ((checkSide_refuses _ _ _).map _) h
  | pixelFormat => exact hlocked ((checkFormat_refuses _ _).map _) h
  | frameRate => exact .inr ((checkRate_refuses _ _).map _ e h)
  | frameRateEnable => exact .inr ((checkSwitch_refuses _).map _ e h)
  | acquisitionMode => exact .inr ((checkMode_refuses _).map _ e h)
  | payloadSize => exact .inl (hread h)
  | sensorWidth => exact .inl (hread h)
  | sensorHeight => exact .inl (hread h)
  | vendorName => exact .inl (hread h)
  | modelName => exact .inl (hread h)
  | serialNumber => exact .inl (hread h)

/-! ## A whole configuration -/

/-- The configuration that the registers hold. -/
def settings (r : Registers) : Settings := ⟨r.width, r.height, r.format, r.rate⟩

/-- The registers with a configuration written to them. -/
def configured (r : Registers) (x : Settings) : Registers :=
  ⟨x.width, x.height, x.format, x.rate, true, r.mode⟩

/-- Writes one after the other, up to the first that is refused. -/
def writeAll (c : Camera) (acquiring : Bool) :
    List FeatureWrite → Registers → Except CameraError Registers
  | [], r => .ok r
  | x :: rest, r => match r.write c acquiring x.feature x.value with
    | .error e => .error e
    | .ok r => writeAll c acquiring rest r

/-- While the camera acquires no configuration is written. -/
theorem writeAll_of_acquiring (r : Registers) (x : Settings) :
    writeAll c true x.writes r = .error (.featureReadOnly Feature.width.name) := by
  rfl

/-- A configuration with a format of the camera is written if the camera takes
it; else the first of width, height and rate that it does not take is refused. -/
theorem writeAll_writes (r : Registers) {x : Settings} (hc : c.Canonical)
    (hf : x.format ∈ c.formats) :
    (c.Takes x ∧ writeAll c false x.writes r = .ok (r.configured x)) ∨
      ∃ (f : Feature) (reason : String),
        writeAll c false x.writes r = .error (.invalidFeatureValue f.name reason) ∧
        (f = .width ∧ ¬(1 ≤ x.width ∧ x.width ≤ c.sensorWidth) ∨
          f = .height ∧ (1 ≤ x.width ∧ x.width ≤ c.sensorWidth) ∧
            ¬(1 ≤ x.height ∧ x.height ≤ c.sensorHeight) ∨
          f = .frameRate ∧ (1 ≤ x.width ∧ x.width ≤ c.sensorWidth) ∧
            (1 ≤ x.height ∧ x.height ≤ c.sensorHeight) ∧ ¬c.TakesRate x.rate) := by
  have hformat : checkFormat c (.enum x.format.name) = .ok x.format :=
    checkFormat_name (hc _ hf) hf
  simp only [Settings.writes, writeAll, write, Bool.false_eq_true, if_false]
  rcases checkSide_ofSide .width x.width c.sensorWidth with
    ⟨reason, he, hw⟩ | ⟨he, hw⟩ <;> rw [he]
  · exact .inr ⟨.width, reason, rfl, .inl ⟨rfl, hw⟩⟩
  simp only [Except.map_ok]
  rcases checkSide_ofSide .height x.height c.sensorHeight with
    ⟨reason, he, hh⟩ | ⟨he, hh⟩ <;> rw [he]
  · exact .inr ⟨.height, reason, rfl, .inr (.inl ⟨rfl, hw, hh⟩)⟩
  rw [hformat]
  simp only [Except.map_ok, checkSwitch, FeatureValue.asBool?]
  rcases checkRate_float (c := c) x.rate with ⟨reason, he, hr⟩ | ⟨he, hr⟩ <;> rw [he]
  · exact .inr ⟨.frameRate, reason, rfl, .inr (.inr ⟨rfl, hw, hh, hr⟩)⟩
  · exact .inl ⟨⟨hw, hh, hf, hr⟩, rfl⟩

theorem Restorable.takes {x : Settings} (hr : r.Restorable c) (hx : c.Takes x) :
    c.Takes r.settings where
  width := hr.width (UInt32.le_trans hx.width.1 hx.width.2)
  height := hr.height (UInt32.le_trans hx.height.1 hx.height.2)
  format := hr.format x.format hx.format
  rate := hr.rate x.rate hx.rate

/-! ## The payload -/

/-- An image that has pixels has a payload. -/
theorem payloadSize_ne_zero (hw : 1 ≤ r.width) (hh : 1 ≤ r.height) :
    r.payloadSize.toNat ≠ 0 := by
  rw [UInt32.le_iff_toNat_le] at hw hh
  have hwlt : r.width.toNat < 2 ^ 32 := r.width.toNat_lt
  have hhlt : r.height.toNat < 2 ^ 32 := r.height.toNat_lt
  have hpos : 0 < r.width.toNat * r.height.toNat := Nat.mul_pos hw hh
  have hlt : r.width.toNat * r.height.toNat < 2 ^ 64 := by
    rw [show (2 : Nat) ^ 64 = 2 ^ 32 * 2 ^ 32 from Nat.pow_add 2 32 32]
    exact Nat.mul_lt_mul'' hwlt hhlt
  have hne : r.width.toNat * r.height.toNat ≠ 2 ^ 63 := product_ne_of_sides hwlt hhlt
  obtain ⟨bytes, hbytes, hformat⟩ : ∃ bytes, (bytes = 1 ∨ bytes = 2 ∨ bytes = 3) ∧
      r.format.bytesPerPixel?.getD 1 = bytes := by
    cases r.format <;> simp [PixelFormat.bytesPerPixel?]
  have hword : bytes.toUInt64.toNat = bytes := by
    rcases hbytes with rfl | rfl | rfl <;> rfl
  rw [payloadSize, hformat, UInt64.toNat_mul, UInt64.toNat_mul, UInt32.toNat_toUInt64,
    UInt32.toNat_toUInt64, hword, Nat.mod_eq_of_lt hlt]
  exact fun h => not_dvd_payload hpos hlt hne hbytes (Nat.dvd_of_mod_eq_zero h)

variable {b : Build}

theorem affordable_iff : r.Affordable b ↔
    (b = .checked → (r.payloadSize? .checked).isSome) ∧ r.payloadSize.toNat ≤ memoryLimit := by
  cases b <;> simp [Affordable, payloadSize?, Build.count?_wrapping, Option.isSome_iff_exists,
    Build.count?_eq_some_iff]

end Registers
end FrameGrabber
