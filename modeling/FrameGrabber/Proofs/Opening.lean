import FrameGrabber.Proofs.Supply

/-!
# Which camera is opened

A session is opened in two steps that know a camera by different things. A selector
picks a place in the enumeration. The network is then asked for the camera of the
descriptor at that place, and finds the first one with its transport id and serial
number; since the transport id is made from the serial number, that is the first one
with the serial number.

So a session is with the camera that was picked just if none before it has the same
serial number. Where one has, it is with that one, under the descriptor of the other,
and what counts for the success, the settings and the limits is the camera that was
found.
-/

namespace FrameGrabber

/-! ## Two look-ups -/

/-- The camera at this place is the first of the list with this serial number. -/
structure FirstWithSerial (cameras : List Camera) (serial : String) (place : Nat)
    (camera : Camera) : Prop where
  at' : cameras[place]? = some camera
  same : camera.serial = serial
  first : ∀ j < place, ∀ other, cameras[j]? = some other → other.serial ≠ serial

/-- A camera of the list is found as the first with its serial number. -/
theorem Network.find?_descriptor {n : Network} {place : Nat} {picked : Camera}
    (h : n.cameras[place]? = some picked) :
    ∃ m found, n.find? picked.descriptor = some found ∧
      FirstWithSerial n.cameras picked.serial m found := by
  -- The transport id is made from the serial number, so to compare both is to compare
  -- the number.
  have hkey : ∀ camera : Camera,
      (decide (camera.transportId = picked.descriptor.transportId) &&
        decide (camera.serial = picked.descriptor.serial)) =
          decide (camera.serial = picked.serial) := by
    intro camera
    have hserial : picked.descriptor.serial = picked.serial := by rfl
    have hid : picked.descriptor.transportId = "SIM:" ++ picked.serial := by rfl
    by_cases hsame : camera.serial = picked.serial <;>
      simp [Camera.transportId, hserial, hid, hsame]
  have hsome : (n.find? picked.descriptor).isSome := by
    rw [Network.find?, List.find?_isSome]
    exact ⟨picked, List.mem_of_getElem? h, by simp [hkey]⟩
  obtain ⟨found, hfound⟩ := Option.isSome_iff_exists.1 hsome
  have hsearch := hfound
  rw [Network.find?, List.find?_eq_some_iff_getElem] at hsearch
  simp only [hkey] at hsearch
  obtain ⟨hserial, m, hm, hat, hfirst⟩ := hsearch
  refine ⟨m, found, hfound, ?_, of_decide_eq_true hserial, ?_⟩
  · rw [List.getElem?_eq_getElem hm, hat]
  · intro j hj other hother hsame
    obtain ⟨hlt, hget⟩ := List.getElem?_eq_some_iff.1 hother
    have hnot := hfirst j hj
    rw [hget] at hnot
    simp [hsame] at hnot

theorem FirstWithSerial.place_eq_iff {cameras : List Camera} {place m : Nat}
    {picked found : Camera} (h : FirstWithSerial cameras picked.serial m found)
    (hpicked : cameras[place]? = some picked) :
    m = place ↔ ∀ j < place, ∀ other, cameras[j]? = some other →
      other.serial ≠ picked.serial := by
  constructor
  · rintro rfl
    exact h.first
  · intro hnone
    rcases Nat.lt_trichotomy m place with hlt | heq | hlt
    · exact absurd h.same (hnone m hlt found h.at')
    · exact heq
    · exact absurd rfl (h.first place hlt picked hpicked)

/-- A selector picks a place of the enumeration, or there is nothing to connect to. -/
theorem Selector.position?_cases (selector : Selector) (devices : List Descriptor) :
    match selector.position? devices with
    | .error e => ∃ reason, e = .connection reason
    | .ok place => place < devices.length := by
  unfold position?
  cases devices.isEmpty with
  | true => exact ⟨_, rfl⟩
  | false =>
      simp only [Bool.false_eq_true, if_false]
      cases selector with
      | index i =>
          by_cases hi : i < devices.length
          · simp only [if_pos hi]
            exact hi
          · simp only [if_neg hi]
            exact ⟨_, rfl⟩
      | serial wanted =>
          simp only
          cases hfind : devices.findIdx? (·.goesBy wanted) with
          | none => exact ⟨_, rfl⟩
          | some i => exact (List.findIdx?_eq_some_iff_getElem.1 hfind).1

/-! ## What the camera takes -/

/-- The camera advertises the format, has what its name is read as, and takes the
sides and the rate. -/
structure Camera.Grants (c : Camera) (x : Settings) : Prop where
  width : 1 ≤ x.width ∧ x.width ≤ c.sensorWidth
  height : 1 ≤ x.height ∧ x.height ≤ c.sensorHeight
  advertised : ∃ f ∈ c.formats, PixelFormat.parse f.name = x.format
  entry : PixelFormat.parse x.format.name ∈ c.formats
  rate : c.TakesRate x.rate

/-- The writes of a configuration all pass just if each is of a value that the camera
takes. -/
theorem Registers.writeAll_ok_iff {c : Camera} (r : Registers) (x : Settings) :
    (∃ r', writeAll c false x.writes r = .ok r') ↔
      (1 ≤ x.width ∧ x.width ≤ c.sensorWidth) ∧ (1 ≤ x.height ∧ x.height ≤ c.sensorHeight) ∧
        PixelFormat.parse x.format.name ∈ c.formats ∧ c.TakesRate x.rate := by
  have hrefused : ∀ {e : CameraError},
      ¬∃ r', (Except.error e : Except CameraError Registers) = .ok r' := by
    rintro e ⟨r', h⟩
    cases h
  simp only [Settings.writes, writeAll, write, Bool.false_eq_true, if_false]
  rcases checkSide_ofSide .width x.width c.sensorWidth with
    ⟨reason, he, hw⟩ | ⟨he, hw⟩ <;> rw [he]
  · exact iff_of_false hrefused fun h => hw h.1
  simp only [Except.map_ok]
  rcases checkSide_ofSide .height x.height c.sensorHeight with
    ⟨reason, he, hh⟩ | ⟨he, hh⟩ <;> rw [he]
  · exact iff_of_false hrefused fun h => hh h.2.1
  simp only [Except.map_ok, checkFormat, FeatureValue.asWord?]
  by_cases hf : PixelFormat.parse x.format.name ∈ c.formats
  · rw [if_pos (by simpa using hf)]
    simp only [Except.map_ok, checkSwitch, FeatureValue.asBool?]
    rcases checkRate_float (c := c) x.rate with ⟨reason, he, hr⟩ | ⟨he, hr⟩ <;> rw [he]
    · exact iff_of_false hrefused fun h => hr h.2.2.2
    · exact iff_of_true ⟨_, rfl⟩ ⟨hw, hh, hf, hr⟩
  · rw [if_neg (by simpa using hf)]
    exact iff_of_false hrefused fun h => hf h.2.2.1

/-! ## Calls without a schedule -/

namespace Network

variable {c : ConnectionId} {l : Link} {n : Network}

/-- The network as a bench that refuses nothing. -/
def unscheduled (n : Network) : Bench := ⟨n, fun _ => none, []⟩

theorem readSettings_at (hl : n.links[c]? = some l) :
    Network.transport.readSettings c n = (⟨l.registers.width, l.registers.height,
      PixelFormat.parse l.registers.format.name, l.registers.rate⟩, n) := by
  have h := Transport.readSettings_commutes bench_mirrors c n.unscheduled
  rw [Bench.readSettings_eq (show n.unscheduled.At c l from hl)] at h
  exact h

theorem applySettings_fst (hl : n.links[c]? = some l) (x : Settings) :
    (Network.transport.applySettings c x n).1 =
      match Registers.writeAll l.camera l.acquiring x.writes l.registers with
      | .ok _ => .ok ()
      | .error e => .error e := by
  have h := Transport.applyWrites_commutes bench_mirrors c x.writes [] n.unscheduled
  have hwrites := Bench.applyWrites_at (show n.unscheduled.At c l from hl) x.writes []
  rw [Transport.applySettings]
  rw [show n.unscheduled.world = n from rfl] at h
  rw [h]
  cases hall : Registers.writeAll l.camera l.acquiring x.writes l.registers with
  | ok r =>
      rw [hall] at hwrites
      simp only [hwrites]
  | error e =>
      rw [hall] at hwrites
      exact hwrites

/-- The mode that a session sets is the one that a new connection has. -/
theorem setMode_initial {camera : Camera}
    (hl : n.links[c]? = some ⟨camera, Registers.initial camera, false⟩) :
    (Network.transport.setFeature c Feature.acquisitionMode.name (.enum "Continuous") n).2 = n := by
  have hat : n.unscheduled.At c ⟨camera, Registers.initial camera, false⟩ := hl
  have h := bench_mirrors.setFeature c Feature.acquisitionMode.name (.enum "Continuous")
    n.unscheduled
  have hmode : (Registers.initial camera).write camera false .acquisitionMode
      (.enum "Continuous") = .ok (Registers.initial camera) := by
    simp only [Registers.write]
    rw [Registers.checkMode_enum (by decide)]
    rfl
  rw [Bench.setFeature_at hat] at h
  simp only [hmode, Bench.putLink_self hat] at h
  exact congrArg Prod.snd h

end Network

/-! ## The session -/

namespace Session

variable {n : Network} {picked found : Camera} {o : SessionOptions}

/-- The session goes by the descriptor of one camera and is with another, or with
the same: it has the settings of that camera, and configures it within its limits. -/
structure Opened (picked found : Camera) (s : Session Network) : Prop where
  state : s.state = .connected
  descriptor : s.descriptor = some picked.descriptor
  camera : ∃ c, s.connection = some c ∧
    s.world.links[c]? = some ⟨found, Registers.initial found, false⟩
  settings : s.settings = some ⟨found.sensorWidth, found.sensorHeight,
    PixelFormat.parse (found.formats.head?.getD .mono8).name, found.maxFrameRate⟩
  limits : ∀ x : Settings, (∃ s', configure Network.transport x.width x.height x.format x.rate s =
    (.ok (), s')) ↔ found.Grants x

/-- A session at rest on a new connection configures what the camera takes. -/
theorem configure_ok_iff {s : Session Network} {c : ConnectionId} (hclosed : s.closed = false)
    (hidle : s.acquisition = .idle) (hc : s.connection = some c)
    (hl : s.world.links[c]? = some ⟨found, Registers.initial found, false⟩) (x : Settings) :
    (∃ s', configure Network.transport x.width x.height x.format x.rate s = (.ok (), s')) ↔
      found.Grants x := by
  have hformats : advertisedFormats Network.transport s =
      (.ok ((found.formats.map PixelFormat.name).map PixelFormat.parse), s) := by
    rw [advertisedFormats_eq hclosed hc, Network.featureOptions_at hl]
    rfl
  by_cases hf : x.format ∈ (found.formats.map PixelFormat.name).map PixelFormat.parse
  · have hadvertised : ∃ f ∈ found.formats, PixelFormat.parse f.name = x.format := by
      simpa using hf
    have happly := Network.applySettings_fst hl x
    have hiff := Registers.writeAll_ok_iff (c := found) (Registers.initial found) x
    rw [configure_of_rest x.width x.height x.rate hformats hf (ne_streaming_of_idle hidle),
      reconfigure_eq x hclosed hc]
    rcases hcall : Network.transport.applySettings c x s.world with ⟨r, w⟩
    rw [hcall] at happly
    cases hall : Registers.writeAll found false x.writes (Registers.initial found) with
    | ok r' =>
        rw [hall] at happly hiff
        obtain ⟨hw, hh, he, hr⟩ := hiff.1 ⟨r', rfl⟩
        cases happly
        exact iff_of_true ⟨_, rfl⟩ ⟨hw, hh, hadvertised, he, hr⟩
    | error e =>
        rw [hall] at happly hiff
        cases happly
        refine iff_of_false (by rintro ⟨s', h⟩; cases h) fun hx => ?_
        obtain ⟨r', h⟩ := hiff.2 ⟨hx.width, hx.height, hx.entry, hx.rate⟩
        cases h
  · rw [configure_of_unlisted x.width x.height x.rate hformats hf]
    refine iff_of_false (by rintro ⟨s', h⟩; cases h) fun hx => hf ?_
    simpa using hx.advertised

/-- Connecting by the descriptor of a camera connects to the one that is found. -/
theorem connect_found (hfind : n.find? picked.descriptor = some found) :
    if found.reachable then
      ∃ s, connect Network.transport picked.descriptor (new n o) = (.ok (), s) ∧
        s.Opened picked found
    else ∃ reason s, connect Network.transport picked.descriptor (new n o) =
      (.error (.connection reason), s) := by
  have hconnect : connect Network.transport picked.descriptor (new n o) = _ :=
    connect_eq picked.descriptor rfl rfl
  have hcall : Network.transport.connect picked.descriptor (new n o).world =
      Network.connect picked.descriptor n := by rfl
  rw [hconnect, hcall, Network.connect, hfind]
  simp only
  cases hreach : found.reachable with
  | false => exact ⟨_, _, rfl⟩
  | true =>
      have hl : (n.links ++ [({ camera := found, registers := Registers.initial found } :
          Link)])[n.links.length]? = some ⟨found, Registers.initial found, false⟩ :=
        List.getElem?_concat_length
      simp only [if_true]
      rw [Network.setMode_initial hl, Network.readSettings_at hl]
      refine ⟨_, rfl, rfl, rfl, ⟨_, rfl, hl⟩, rfl, ?_⟩
      exact configure_ok_iff rfl rfl rfl hl

/-- Opening a session over simulated cameras, however many of them share a serial
number. Where the selector picks a place, the session is with the first camera that
has the serial number of the camera there: that one has to be in reach, and its
settings and limits are the session's, though the descriptor is that of the camera at
the place. The two are the same camera just if none before it has its serial number.
Where no place is picked, or the camera that is found is out of reach, there is no
connection. -/
theorem establish_opens (cameras : List Camera) (selector : Selector) (o : SessionOptions) :
    match selector.position? (cameras.map Camera.descriptor) with
    | .error e => (∃ reason, e = .connection reason) ∧
      (establish Network.transport selector o { cameras }).1 = .error e
    | .ok place => ∃ picked m found, cameras[place]? = some picked ∧
      FirstWithSerial cameras picked.serial m found ∧
      (m = place ↔ ∀ j < place, ∀ other, cameras[j]? = some other →
        other.serial ≠ picked.serial) ∧
      if found.reachable then
        ∃ s, (establish Network.transport selector o { cameras }).1 = .ok s ∧
          s.Opened picked found
      else ∃ reason, (establish Network.transport selector o { cameras }).1 =
        .error (.connection reason) := by
  have hcases := selector.position?_cases (cameras.map Camera.descriptor)
  have henumerate : Network.transport.enumerate { cameras } =
      (.ok (cameras.map Camera.descriptor), { cameras }) := by rfl
  rw [establish, henumerate]
  simp only [Selector.pick]
  cases hposition : selector.position? (cameras.map Camera.descriptor) with
  | error e =>
      rw [hposition] at hcases
      exact ⟨hcases, rfl⟩
  | ok place =>
      rw [hposition] at hcases
      have hplace : place < cameras.length := by simpa using hcases
      have hpicked : cameras[place]? = some cameras[place] := List.getElem?_eq_getElem hplace
      obtain ⟨m, found, hfind, hfirst⟩ :=
        Network.find?_descriptor (n := { cameras }) hpicked
      have hconnect := connect_found (o := o) hfind
      have hdevice : (cameras.map Camera.descriptor)[place]? = some cameras[place].descriptor := by
        rw [List.getElem?_map, hpicked]
        rfl
      refine ⟨cameras[place], m, found, hpicked, hfirst, hfirst.place_eq_iff hpicked, ?_⟩
      simp only [hdevice]
      cases hreach : found.reachable with
      | true =>
          rw [hreach] at hconnect
          obtain ⟨s, hs, hopened⟩ := hconnect
          simp only [hs, if_true]
          exact ⟨s, rfl, hopened⟩
      | false =>
          rw [hreach] at hconnect
          obtain ⟨reason, s, hs⟩ := hconnect
          simp only [hs, Bool.false_eq_true, if_false]
          exact ⟨reason, rfl⟩

/-- The second of two cameras with one serial number is asked for, by its place, and
the first is opened. -/
example : ((establish Network.transport (.index 1) {}
    { cameras := [{ sensorWidth := 16, sensorHeight := 8 },
        { sensorWidth := 32, sensorHeight := 16, address := some "192.168.10.21" }] }).1.map
          (·.resolution)) = .ok (16, 8) := by
  rfl

end Session
end FrameGrabber
