import FrameGrabber.Proofs.Exposure
import FrameGrabber.Proofs.NetworkCalls
import FrameGrabber.Proofs.Registers
import FrameGrabber.Transport.ControlRequest

/-!
# What a control connection to a simulated camera keeps

Anybody may write any value to any name and execute any command, in any order. From
the outside this is a table of features that is asked and written by name. What can
be said of it after any requests is said here: the limits that every feature stays
within, what a write that was granted does to the table, that a camera at rest takes
back what it says, and that one which acquires holds on to the sizes.

All of it comes from one fact about the connection, that its registers are within
what the camera takes. A new connection starts there. A granted write replaces one
register by a value that was checked, a refused one replaces nothing, and a command
does not reach the registers. So the fact holds after any requests, and each of the
statements follows from it by looking at one more call.
-/

namespace FrameGrabber

/-! ## Values as the features have them -/

namespace Feature

/-- The features that can be written. -/
def writable : List Feature :=
  [width, height, pixelFormat, frameRate, frameRateEnable, acquisitionMode]

/-- The writable features that the size of a payload depends on. -/
def sizing : List Feature := [width, height, pixelFormat]

/-- A value in the kind that the feature has: a side as an integer, the rate as a
number, a format by the name that it is written with. There is none if the value is
of a kind that does not convert, or if nothing can be written to the feature. -/
def converted? (f : Feature) (v : FeatureValue) : Option FeatureValue :=
  match f with
  | width | height => v.asInt?.map .int
  | frameRate => v.asFloat?.map .float
  | frameRateEnable => v.asBool?.map .bool
  | pixelFormat => v.asWord?.map fun word => .enum (PixelFormat.parse word).name
  | acquisitionMode => v.asWord?.map .enum
  | payloadSize | sensorWidth | sensorHeight | vendorName | modelName | serialNumber => none

end Feature

/-- A camera with pixels to show, a rate to show them at and formats to show them in,
none of which has a picture longer than a signed word says. -/
structure Camera.WellMade (c : Camera) : Prop where
  width : 1 ≤ c.sensorWidth
  height : 1 ≤ c.sensorHeight
  pixels : c.sensorWidth.toNat * c.sensorHeight.toNat * 3 < 2 ^ 63
  rate : 0.0 < c.maxFrameRate
  formats : c.formats ≠ []
  canonical : c.Canonical

/-! ## One write to the registers -/

namespace Registers

variable {c : Camera} {r r' : Registers} {acquiring : Bool} {f g : Feature}
  {v : FeatureValue}

/-- The registers are within what the camera takes. -/
structure Within (r : Registers) (c : Camera) : Prop where
  settings : c.Takes r.settings
  mode : r.mode ∈ acquisitionModes

theorem initial_within (hc : c.WellMade) : (initial c).Within c where
  settings := {
    width := ⟨hc.width, UInt32.le_refl _⟩
    height := ⟨hc.height, UInt32.le_refl _⟩
    format := by
      show c.formats.head?.getD .mono8 ∈ c.formats
      cases hformats : c.formats with
      | nil => exact absurd hformats hc.formats
      | cons f rest => exact List.mem_cons_self ..
    rate := ⟨hc.rate, le_self_of_pos hc.rate⟩ }
  mode := by
    show "Continuous" ∈ acquisitionModes
    decide

theorem Replaced.within (h : Replaced c acquiring r f r') (hr : r.Within c) :
    r'.Within c := by
  obtain ⟨hsettings, hmode⟩ := hr
  cases h with
  | width n hrest hn => exact ⟨{ hsettings with width := hn }, hmode⟩
  | height n hrest hn => exact ⟨{ hsettings with height := hn }, hmode⟩
  | format f hrest hf => exact ⟨{ hsettings with format := hf }, hmode⟩
  | rate x hx => exact ⟨{ hsettings with rate := hx }, hmode⟩
  | switch on => exact ⟨{ hsettings with }, hmode⟩
  | mode m hm => exact ⟨{ hsettings with }, hm⟩

/-- No other feature reads differently, but for the size of the payload. -/
theorem Replaced.read_eq (h : Replaced c acquiring r f r') (hg : g ≠ f)
    (hpayload : g ≠ .payloadSize) : r'.read c g = r.read c g := by
  cases h <;> cases g <;> first | rfl | exact absurd rfl hg | exact absurd rfl hpayload

/-- While the camera acquires the sizes read the same after every write. -/
theorem Replaced.read_sizes (h : Replaced c true r f r')
    (hg : g ∈ Feature.payloadSize :: Feature.sizing) : r'.read c g = r.read c g := by
  have hcases : g = .payloadSize ∨ g = .width ∨ g = .height ∨ g = .pixelFormat := by
    simpa [Feature.sizing] using hg
  cases h with
  | width n hrest hn => cases hrest
  | height n hrest hn => cases hrest
  | format f hrest hf => cases hrest
  | rate x hx => rcases hcases with rfl | rfl | rfl | rfl <;> rfl
  | switch on => rcases hcases with rfl | rfl | rfl | rfl <;> rfl
  | mode m hm => rcases hcases with rfl | rfl | rfl | rfl <;> rfl

/-- What was written is read back, in the kind that the feature has. -/
theorem converted?_of_write (h : r.write c acquiring f v = .ok r') :
    f.converted? v = some (r'.read c f) := by
  have hunlocked : ∀ {x : Except CameraError Registers},
      (if acquiring then .error (.featureReadOnly f.name) else x) = .ok r' → x = .ok r' := by
    intro x hx
    split at hx
    · cases hx
    · exact hx
  cases f with
  | width =>
      obtain ⟨n, hn, rfl⟩ := map_eq_ok (hunlocked h)
      simp only [Feature.converted?, (checkSide_eq_ok hn).1, Option.map_some, read]
  | height =>
      obtain ⟨n, hn, rfl⟩ := map_eq_ok (hunlocked h)
      simp only [Feature.converted?, (checkSide_eq_ok hn).1, Option.map_some, read]
  | pixelFormat =>
      obtain ⟨format, hformat, rfl⟩ := map_eq_ok (hunlocked h)
      obtain ⟨word, hword, hparse⟩ :=
        Option.map_eq_some_iff.1 (checkFormat_eq_ok hformat).1
      simp only [Feature.converted?, hword, hparse, Option.map_some, read]
  | frameRate =>
      obtain ⟨rate, hrate, rfl⟩ := map_eq_ok h
      simp only [Feature.converted?, (checkRate_eq_ok hrate).1, Option.map_some, read]
  | frameRateEnable =>
      obtain ⟨on, hon, rfl⟩ := map_eq_ok h
      simp only [Feature.converted?, checkSwitch_eq_ok hon, Option.map_some, read]
  | acquisitionMode =>
      obtain ⟨mode, hmode, rfl⟩ := map_eq_ok h
      simp only [Feature.converted?, (checkMode_eq_ok hmode).1, Option.map_some, read]
  | payloadSize => cases h
  | sensorWidth => cases h
  | sensorHeight => cases h
  | vendorName => cases h
  | modelName => cases h
  | serialNumber => cases h

/-- At rest the camera takes back what it says. -/
theorem Within.write_read (hr : r.Within c) (hc : c.Canonical)
    (hf : f ∈ Feature.writable) : r.write c false f (r.read c f) = .ok r := by
  obtain ⟨hsettings, hmode⟩ := hr
  have hcases : f = .width ∨ f = .height ∨ f = .pixelFormat ∨ f = .frameRate ∨
      f = .frameRateEnable ∨ f = .acquisitionMode := by
    simpa [Feature.writable] using hf
  rcases hcases with rfl | rfl | rfl | rfl | rfl | rfl
  · exact write_side (fun width => { r with width }) hsettings.width
  · exact write_side (fun height => { r with height }) hsettings.height
  · have hformat : r.format ∈ c.formats := hsettings.format
    simp only [write, read, checkFormat_name (hc _ hformat) hformat]
    rfl
  · simp only [write, read]
    rcases checkRate_float (c := c) r.rate with ⟨reason, -, hno⟩ | ⟨hok, -⟩
    · exact absurd hsettings.rate hno
    · rw [hok]
      rfl
  · rfl
  · simp only [write, read, checkMode_enum hmode]
    rfl

/-- The word that says how long a payload is says it right. -/
theorem Within.pictureSize_lt (hr : r.Within c) (hc : c.WellMade) :
    r.pictureSize < 2 ^ 63 := by
  have hpixel : r.format.bytesPerPixel?.getD 1 ≤ 3 := by
    cases r.format <;> simp [PixelFormat.bytesPerPixel?]
  have hwidth := UInt32.le_iff_toNat_le.1 hr.settings.width.2
  have hheight := UInt32.le_iff_toNat_le.1 hr.settings.height.2
  calc r.pictureSize ≤ c.sensorWidth.toNat * c.sensorHeight.toNat * 3 :=
        Nat.mul_le_mul (Nat.mul_le_mul hwidth hheight) hpixel
    _ < 2 ^ 63 := hc.pixels

theorem toNat_payloadSize_of_lt (h : r.pictureSize < 2 ^ 63) :
    r.payloadSize.toNat = r.pictureSize :=
  r.toNat_payloadSize_eq_iff.2 (Nat.lt_trans h (by decide))

theorem toInt_payloadSize_of_lt (h : r.pictureSize < 2 ^ 63) :
    r.payloadSize.toInt64.toInt = r.pictureSize := by
  show BitVec.toInt r.payloadSize.toBitVec = _
  have hnat : r.payloadSize.toBitVec.toNat = r.pictureSize := toNat_payloadSize_of_lt h
  rw [BitVec.toInt_eq_toNat_of_lt, hnat]
  rw [hnat]
  omega

end Registers

/-! ## One call on the connection -/

/-- Only the command to stop stops the acquisition. -/
theorem ControlRequest.acquires_of_ne_stop {q : ControlRequest}
    (h : q ≠ .execute Command.acquisitionStop.name) : q.acquires true = true := by
  cases q with
  | set name v => rfl
  | execute name =>
      simp only [acquires]
      cases hname : Command.ofName? name with
      | none => rfl
      | some x =>
          cases x with
          | acquisitionStart => rfl
          | acquisitionStop =>
              have hstop : Command.acquisitionStop.name = name := by
                simpa using List.find?_some hname
              exact absurd (by rw [hstop]) h

namespace Network

variable {c : ConnectionId} {l : Link} {m : Network} {f : Feature}

/-- After a request the connection leads to the same camera, which acquires if the
request says so. At most one register was replaced. -/
theorem send_link (hl : m.links[c]? = some l) (q : ControlRequest) :
    ∃ r, (q.send Network.transport c m).2.links[c]? =
        some ⟨l.camera, r, q.acquires l.acquiring⟩ ∧
      (r = l.registers ∨ ∃ f, l.registers.Replaced l.camera l.acquiring f r) := by
  cases q with
  | set name v =>
      show ∃ r, (Network.transport.setFeature c name v m).2.links[c]? = _ ∧ _
      rcases setFeature_cases hl name v with
        ⟨e, hset⟩ | ⟨f, r, -, hw, hset⟩ <;> rw [hset]
      · exact ⟨l.registers, hl, .inl rfl⟩
      · exact ⟨r, link_putLink hl _, .inr ⟨f, Registers.replaced_of_write hw⟩⟩
  | execute name =>
      refine ⟨l.registers, ?_, .inl rfl⟩
      have hturn : ∀ on, (m.setAcquiring c on).links[c]? = some { l with acquiring := on } := by
        intro on
        simp [setAcquiring, hl]
      show (Network.execute c name m).2.links[c]? = _
      simp only [Network.execute, ControlRequest.acquires]
      cases Command.ofName? name with
      | none => exact hl
      | some x =>
          cases x with
          | acquisitionStart => exact hturn true
          | acquisitionStop => exact hturn false

/-- What the connection answers when it is asked for the features that are not laid
down for good. Asking changes nothing. -/
structure Shows (c : ConnectionId) (r : Registers) (m : Network) : Prop where
  width : Network.transport.getFeature c Feature.width.name m =
    (.ok (.int r.width.toUInt64.toInt64), m)
  height : Network.transport.getFeature c Feature.height.name m =
    (.ok (.int r.height.toUInt64.toInt64), m)
  format : Network.transport.getFeature c Feature.pixelFormat.name m =
    (.ok (.enum r.format.name), m)
  rate : Network.transport.getFeature c Feature.frameRate.name m = (.ok (.float r.rate), m)
  rateEnabled : Network.transport.getFeature c Feature.frameRateEnable.name m =
    (.ok (.bool r.rateEnabled), m)
  mode : Network.transport.getFeature c Feature.acquisitionMode.name m =
    (.ok (.enum r.mode), m)
  payloadSize : ∃ size : Int64,
    Network.transport.getFeature c Feature.payloadSize.name m = (.ok (.int size), m) ∧
    size.toInt = r.width.toNat * r.height.toNat * r.format.bytesPerPixel?.getD 1
  measure : Network.transport.payloadSize c m =
    (.ok (r.width.toNat * r.height.toNat * r.format.bytesPerPixel?.getD 1), m)

/-- What comes of writing a value by a name: a refusal, and nothing has changed; or
the feature reads as the value in its own kind, and every other name but that of the
payload's size as before. -/
inductive Written (c : ConnectionId) (name : String) (v : FeatureValue) (m : Network) :
    Except CameraError Unit × Network → Prop
  | refused (e : CameraError) : Written c name v m (.error e, m)
  | granted (f : Feature) (u : FeatureValue) (m' : Network) (hname : name = f.name)
      (hvalue : f.converted? v = some u)
      (hread : Network.transport.getFeature c name m' = (.ok u, m'))
      (hothers : ∀ other, other ≠ name → other ≠ Feature.payloadSize.name →
        (Network.transport.getFeature c other m').1 =
          (Network.transport.getFeature c other m).1) :
      Written c name v m (.ok (), m')

/-- The connection leads to the camera, with registers within what it takes. -/
def Controls (camera : Camera) (c : ConnectionId) (acquiring : Bool) (m : Network) : Prop :=
  ∃ r, m.links[c]? = some ⟨camera, r, acquiring⟩ ∧ r.Within camera

namespace Controls

variable {camera : Camera} {acquiring : Bool}

theorem of_connect {d : Descriptor} {n : Network} (hc : camera.WellMade)
    (hfind : n.find? d = some camera)
    (hopen : Network.transport.connect d n = (.ok c, m)) : m.Controls camera c false := by
  have h : Network.connect d n = (.ok c, m) := hopen
  rw [connect, hfind] at h
  simp only at h
  split at h
  · obtain ⟨hid, rfl⟩ := Prod.mk.inj h
    injection hid with hid
    subst hid
    exact ⟨_, List.getElem?_concat_length, Registers.initial_within hc⟩
  · cases (Prod.mk.inj h).1

theorem exists_shows (h : m.Controls camera c acquiring) (hc : camera.WellMade) :
    ∃ r, m.Shows c r ∧ camera.Takes r.settings ∧ r.mode ∈ acquisitionModes := by
  obtain ⟨r, hl, hr⟩ := h
  have hlt := hr.pictureSize_lt hc
  refine ⟨r, ?_, hr.settings, hr.mode⟩
  exact {
    width := getFeature_at hl .width
    height := getFeature_at hl .height
    format := getFeature_at hl .pixelFormat
    rate := getFeature_at hl .frameRate
    rateEnabled := getFeature_at hl .frameRateEnable
    mode := getFeature_at hl .acquisitionMode
    payloadSize := ⟨_, getFeature_at hl .payloadSize, Registers.toInt_payloadSize_of_lt hlt⟩
    measure := by
      rw [payloadSize_at hl, Registers.toNat_payloadSize_of_lt hlt]
      rfl }

theorem written (h : m.Controls camera c acquiring) (name : String) (v : FeatureValue) :
    Written c name v m (Network.transport.setFeature c name v m) := by
  obtain ⟨r, hl, hr⟩ := h
  rcases setFeature_cases hl name v with
    ⟨e, hset⟩ | ⟨f, r', hname, hw, hset⟩ <;> rw [hset]
  · exact .refused e
  have hl' := link_putLink hl { camera, registers := r', acquiring }
  have hreplaced := Registers.replaced_of_write hw
  refine .granted f _ _ hname (Registers.converted?_of_write hw) ?_ ?_
  · rw [hname, getFeature_at hl']
  · -- Any other name is that of another feature, or of none, which stays unsupported.
    intro other hother hpayload
    cases hn : Feature.ofName? other with
    | none => rw [(unknown_at hl' hn v).1, (unknown_at hl hn v).1]
    | some g =>
        obtain rfl := Feature.eq_name_of_ofName? hn
        have hg : g ≠ f := fun hg => hother (by rw [hg, hname])
        have hsize : g ≠ .payloadSize := fun hg => hpayload (by rw [hg])
        rw [getFeature_at hl', getFeature_at hl]
        exact congrArg Except.ok (hreplaced.read_eq hg hsize)

theorem write_back (h : m.Controls camera c false) (hc : camera.Canonical) {f : Feature}
    (hf : f ∈ Feature.writable) {v : FeatureValue}
    (hv : Network.transport.getFeature c f.name m = (.ok v, m)) :
    Network.transport.setFeature c f.name v m = (.ok (), m) := by
  obtain ⟨r, hl, hr⟩ := h
  rw [getFeature_at hl] at hv
  injection (Prod.mk.inj hv).1 with hv
  rw [setFeature_at hl, ← hv]
  simp only [hr.write_read hc hf]
  rw [putLink_self hl]

/-- While the camera acquires its sizes cannot be written. -/
theorem locked (h : m.Controls camera c true) {f : Feature} (hf : f ∈ Feature.sizing)
    (v : FeatureValue) :
    Network.transport.setFeature c f.name v m = (.error (.featureReadOnly f.name), m) := by
  obtain ⟨r, hl, -⟩ := h
  have hcases : f = .width ∨ f = .height ∨ f = .pixelFormat := by
    simpa [Feature.sizing] using hf
  rw [setFeature_at hl]
  rcases hcases with rfl | rfl | rfl <;> rfl

/-! ## ControlRequest after request -/

theorem send (h : m.Controls camera c acquiring) (q : ControlRequest) :
    (q.send Network.transport c m).2.Controls camera c (q.acquires acquiring) := by
  obtain ⟨r, hl, hr⟩ := h
  obtain ⟨r', hl', hsame | ⟨f, hreplaced⟩⟩ := send_link hl q
  · exact ⟨r', hl', by rw [hsame]; exact hr⟩
  · exact ⟨r', hl', hreplaced.within hr⟩

theorem sendAll (h : m.Controls camera c acquiring) (requests : List ControlRequest) :
    (ControlRequest.sendAll Network.transport c requests m).Controls camera c
      (requests.foldl ControlRequest.acquires acquiring) := by
  induction requests generalizing acquiring m with
  | nil => exact h
  | cons q rest ih => exact ih (h.send q)

/-- A request to a camera that acquires leaves the sizes as they read. -/
theorem send_sizes (h : m.Controls camera c true) (q : ControlRequest) {f : Feature}
    (hf : f ∈ Feature.payloadSize :: Feature.sizing) :
    (Network.transport.getFeature c f.name (q.send Network.transport c m).2).1 =
      (Network.transport.getFeature c f.name m).1 := by
  obtain ⟨r, hl, hr⟩ := h
  obtain ⟨r', hl', hsame | ⟨g, hreplaced⟩⟩ := send_link hl q <;>
    rw [getFeature_at hl', getFeature_at hl]
  · rw [hsame]
  · exact congrArg Except.ok (hreplaced.read_sizes hf)

/-- From a start to the next stop the camera acquires, and the sizes read the same. -/
theorem sendAll_sizes (h : m.Controls camera c true) (more : List ControlRequest)
    (hmore : .execute Command.acquisitionStop.name ∉ more) :
    (ControlRequest.sendAll Network.transport c more m).Controls camera c true ∧
      ∀ f ∈ Feature.payloadSize :: Feature.sizing,
        (Network.transport.getFeature c f.name
          (ControlRequest.sendAll Network.transport c more m)).1 =
            (Network.transport.getFeature c f.name m).1 := by
  -- Whether the camera acquires is decided by the requests alone, so as long as none of
  -- them is a stop each of them meets a camera that is locked.
  induction more generalizing m with
  | nil => exact ⟨h, fun _ _ => rfl⟩
  | cons q rest ih =>
      have hq : q ≠ .execute Command.acquisitionStop.name :=
        fun heq => hmore (heq ▸ List.mem_cons_self ..)
      have hrest : .execute Command.acquisitionStop.name ∉ rest :=
        fun hmem => hmore (List.mem_cons_of_mem q hmem)
      have hnext := h.send q
      rw [ControlRequest.acquires_of_ne_stop hq] at hnext
      obtain ⟨hcontrols, hsizes⟩ := ih hnext hrest
      exact ⟨hcontrols, fun f hf => (hsizes f hf).trans (h.send_sizes q hf)⟩

end Controls

/-! ## A new connection -/

/-- Whatever is written to a new connection and whatever is executed on it, in any
order: every feature is within its limits, and the size of the payload is that of a
picture. A further write that is refused changes nothing, and one that is granted
reads back as its value in the kind of the feature, and leaves the others alone. At
rest, what a feature says can be written to it and changes nothing. From a start to
the next stop the sizes read the same, and cannot be written. -/
theorem requests_within {d : Descriptor} {n n₀ : Network} {camera : Camera}
    (hcamera : camera.WellMade) (hfind : n.find? d = some camera)
    (hopen : Network.transport.connect d n = (.ok c, n₀)) (requests : List ControlRequest) :
    let m := ControlRequest.sendAll Network.transport c requests n₀
    (∃ r, m.Shows c r ∧ camera.Takes r.settings ∧ r.mode ∈ acquisitionModes) ∧
    (∀ name v, Written c name v m (Network.transport.setFeature c name v m)) ∧
    (ControlRequest.leavesAcquiring requests = false → ∀ f ∈ Feature.writable, ∀ v,
      Network.transport.getFeature c f.name m = (.ok v, m) →
        Network.transport.setFeature c f.name v m = (.ok (), m)) ∧
    (ControlRequest.leavesAcquiring requests = true → ∀ more,
      .execute Command.acquisitionStop.name ∉ more →
        let m' := ControlRequest.sendAll Network.transport c more m
        (∀ f ∈ Feature.payloadSize :: Feature.sizing,
          (Network.transport.getFeature c f.name m').1 =
            (Network.transport.getFeature c f.name m).1) ∧
        ∀ f ∈ Feature.sizing, ∀ v,
          Network.transport.setFeature c f.name v m' =
            (.error (.featureReadOnly f.name), m')) := by
  have hcontrols := (Controls.of_connect hcamera hfind hopen).sendAll requests
  refine ⟨hcontrols.exists_shows hcamera, hcontrols.written, ?_, ?_⟩
  · intro hrest f hf v hv
    rw [show requests.foldl ControlRequest.acquires false = false from hrest] at hcontrols
    exact hcontrols.write_back hcamera.canonical hf hv
  · intro hacquiring more hmore
    rw [show requests.foldl ControlRequest.acquires false = true from hacquiring] at hcontrols
    obtain ⟨hstill, hsizes⟩ := hcontrols.sendAll_sizes more hmore
    exact ⟨hsizes, fun f hf v => hstill.locked hf v⟩

/-- A small camera with two formats. -/
def labCamera : Camera :=
  { sensorWidth := 4, sensorHeight := 3, formats := [.bayerRG8, .rgb8] }

theorem labCamera_wellMade : labCamera.WellMade where
  width := by decide
  height := by decide
  pixels := by decide
  rate := by decide +kernel
  formats := by decide
  canonical := by
    intro f hf
    rcases List.mem_cons.1 hf with rfl | hf
    · rfl
    · obtain rfl := List.mem_singleton.1 hf
      rfl

/-- A new connection to it. -/
def labNetwork : Network :=
  (Network.transport.connect labCamera.descriptor { cameras := [labCamera] }).2

/-- Half the width, a height beyond the sensor, a format in its older spelling, and a
start. -/
def labRequests : List ControlRequest :=
  [.set "Width" (.int 2), .set "Height" (.int 7),
    .set "PixelFormat" (.string "RGB8Packed"), .execute "AcquisitionStart"]

theorem labNetwork_opened :
    Network.transport.connect labCamera.descriptor { cameras := [labCamera] } =
      (.ok 0, labNetwork) := by
  rfl

/-- The width was granted and the height refused. While the camera acquires a write of
the format is refused, and a payload stays two times three pixels of three bytes long.
Before all that, at rest, the connection takes back what it says of its width. -/
theorem requests_within_lab :
    let m := ControlRequest.sendAll Network.transport 0 labRequests labNetwork
    (∃ r, m.Shows 0 r ∧ labCamera.Takes r.settings ∧ r.mode ∈ acquisitionModes) ∧
      Written 0 "Width" (.bool true) m
        (Network.transport.setFeature 0 "Width" (.bool true) m) ∧
      Network.transport.setFeature 0 "PixelFormat" (.enum "BayerRG8") m =
        (.error (.featureReadOnly "PixelFormat"), m) ∧
      (Network.transport.payloadSize 0 m).1 = .ok 18 ∧
      (Network.transport.getFeature 0 "PayloadSize"
        (ControlRequest.sendAll Network.transport 0 [.set "Width" (.int 1)] m)).1 =
          (Network.transport.getFeature 0 "PayloadSize" m).1 ∧
      Network.transport.setFeature 0 "Width" (.int 4) labNetwork = (.ok (), labNetwork) := by
  obtain ⟨hshows, hwritten, -, hlocked⟩ :=
    requests_within labCamera_wellMade rfl labNetwork_opened labRequests
  obtain ⟨-, -, hrest, -⟩ := requests_within labCamera_wellMade rfl labNetwork_opened []
  have hsizes := hlocked rfl [.set "Width" (.int 1)] (by simp)
  have hnow := hlocked rfl [] List.not_mem_nil
  exact ⟨hshows, hwritten _ _, hnow.2 .pixelFormat (by decide) _, rfl,
    hsizes.1 .payloadSize (by decide), hrest rfl .width (by decide) _ rfl⟩

end Network
end FrameGrabber
