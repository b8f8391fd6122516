import FrameGrabber.Proofs.Keeping
import FrameGrabber.Proofs.Projection

/-!
# Which advertised formats can be selected

A device names the formats that it offers, and takes those names and no others.
A session reads the names into formats and writes the name of a format. Three
formats have an older spelling that reads as the same format, so the session may
write a name that the device never gave: a format that is advertised can be
selected just if it is offered under the spelling of today.

The devices here are accommodating in every other respect. They take all other
writes and all commands, they answer what they are asked, and nothing but a write
of the format changes the format. What they do apart from that is left open.
-/

namespace FrameGrabber

namespace PixelFormat

/-- The spellings that are read and never written. -/
def olderSpellings : List String := ["RGB8Packed", "BGR8Packed", "YUV422Packed"]

theorem name_parse (s : String) : (parse s).name = s ∨ s ∈ olderSpellings := by
  unfold parse
  split <;> simp [name, olderSpellings]

/-- Whatever a device says is read as a canonical format. -/
theorem parse_isCanonical (s : String) : (parse s).IsCanonical := by
  rcases name_parse s with hname | holder
  · rw [IsCanonical, hname]
  · simp only [olderSpellings, List.mem_cons, List.not_mem_nil, or_false] at holder
    rcases holder with rfl | rfl | rfl <;> decide

end PixelFormat

variable {W : Type}

/-- Through the connection `c` a device offers the formats of a list, and takes
one just if it is of the list. `symbol` is the one that it has. -/
structure Offers (t : Transport W) (c : ConnectionId) (offered : List String)
    (symbol : W → String) : Prop where
  options : ∀ w, (t.featureOptions c Feature.pixelFormat.name w).1 = .ok offered
  reads : ∀ w, (t.getFeature c Feature.pixelFormat.name w).1 = .ok (.enum (symbol w))
  takes : ∀ s w, s ∈ offered →
    (t.setFeature c Feature.pixelFormat.name (.enum s) w).1 = .ok () ∧
      symbol (t.setFeature c Feature.pixelFormat.name (.enum s) w).2 = s
  refuses : ∀ s w, s ∉ offered →
    (∃ e, (t.setFeature c Feature.pixelFormat.name (.enum s) w).1 = .error e) ∧
      symbol (t.setFeature c Feature.pixelFormat.name (.enum s) w).2 = symbol w
  /-- All other writes are accepted, and so are the commands. -/
  writes : ∀ (f : Feature) v w, f ≠ .pixelFormat →
    (t.setFeature c f.name v w).1 = .ok () ∧
      symbol (t.setFeature c f.name v w).2 = symbol w
  commands : ∀ (x : Command) w, (t.execute c x.name w).1 = .ok ()
  /-- The device answers, and a stream can be made of it. -/
  answers : ∀ (f : Feature) w, ∃ v, (t.getFeature c f.name w).1 = .ok v
  payload : ∀ w, ∃ size, (t.payloadSize c w).1 = .ok size ∧ size ≠ 0
  stream : ∀ w, ∃ id, (t.createStream c w).1 = .ok id
  /-- No other call changes the format. -/
  options_keeps : ∀ w,
    symbol (t.featureOptions c Feature.pixelFormat.name w).2 = symbol w
  getFeature_keeps : ∀ (f : Feature) w, symbol (t.getFeature c f.name w).2 = symbol w
  execute_keeps : ∀ (x : Command) w, symbol (t.execute c x.name w).2 = symbol w
  payload_keeps : ∀ w, symbol (t.payloadSize c w).2 = symbol w
  stream_keeps : ∀ w, symbol (t.createStream c w).2 = symbol w
  now_keeps : ∀ w, symbol (t.clock.now w).2 = symbol w
  enqueue_keeps : ∀ id b w, symbol ((t.channel id).enqueue b w) = symbol w
  dequeue_keeps : ∀ id span w, symbol ((t.channel id).dequeue span w).2 = symbol w
  flush_keeps : ∀ id w, symbol ((t.channel id).flush w).2 = symbol w
  release_keeps : ∀ id w, symbol (t.releaseStream id w) = symbol w

namespace Offers

variable {t : Transport W} {c : ConnectionId} {offered : List String} {symbol : W → String}

/-! ## Writing a configuration -/

theorem replace_other (h : Offers t c offered symbol) {f : Feature} (hf : f ≠ .pixelFormat)
    (v : FeatureValue) (w : W) :
    ∃ old w', t.replace c f v w = (.ok old, w') ∧ symbol w' = symbol w := by
  obtain ⟨old, hold⟩ := h.answers f w
  have hkept := h.getFeature_keeps f w
  rcases hg : t.getFeature c f.name w with ⟨r, w₁⟩
  rw [hg] at hold hkept
  obtain ⟨htaken, hsame⟩ := h.writes f v w₁ hf
  rcases hs : t.setFeature c f.name v w₁ with ⟨r', w₂⟩
  rw [hs] at htaken hsame
  dsimp only at hold hkept htaken hsame
  subst hold htaken
  exact ⟨old, w₂, by simp only [Transport.replace, hg, hs], hsame.trans hkept⟩

theorem replace_format (h : Offers t c offered symbol) (s : String) (w : W) :
    (s ∈ offered → ∃ old w',
        t.replace c .pixelFormat (.enum s) w = (.ok old, w') ∧ symbol w' = s) ∧
      (s ∉ offered → ∃ e w',
        t.replace c .pixelFormat (.enum s) w = (.error e, w') ∧ symbol w' = symbol w) := by
  have hold := h.reads w
  have hkept := h.getFeature_keeps .pixelFormat w
  rcases hg : t.getFeature c Feature.pixelFormat.name w with ⟨r, w₁⟩
  rw [hg] at hold hkept
  dsimp only at hold hkept
  subst hold
  constructor
  · intro hin
    obtain ⟨htaken, hnew⟩ := h.takes s w₁ hin
    rcases hs : t.setFeature c Feature.pixelFormat.name (.enum s) w₁ with ⟨r, w₂⟩
    rw [hs] at htaken hnew
    dsimp only at htaken hnew
    subst htaken
    exact ⟨.enum (symbol w), w₂, by simp only [Transport.replace, hg, hs], hnew⟩
  · intro hout
    obtain ⟨⟨e, hrefused⟩, hsame⟩ := h.refuses s w₁ hout
    rcases hs : t.setFeature c Feature.pixelFormat.name (.enum s) w₁ with ⟨r, w₂⟩
    rw [hs] at hrefused hsame
    dsimp only at hrefused hsame
    subst hrefused
    exact ⟨e, w₂, by simp only [Transport.replace, hg, hs], hsame.trans hkept⟩

theorem putBack_keeps (h : Offers t c offered symbol) {replaced : List (Feature × FeatureValue)}
    (hother : ∀ x ∈ replaced, x.1 ≠ .pixelFormat) (w : W) :
    symbol (t.putBack c replaced w) = symbol w := by
  induction replaced generalizing w with
  | nil => rfl
  | cons x rest ih =>
      obtain ⟨f, old⟩ := x
      have hf : f ≠ .pixelFormat := hother (f, old) List.mem_cons_self
      have hrest : ∀ x ∈ rest, x.1 ≠ .pixelFormat :=
        fun x hx => hother x (List.mem_cons_of_mem _ hx)
      exact (ih hrest _).trans (h.writes f old w hf).2

theorem applySettings_takes (h : Offers t c offered symbol) (x : Settings)
    (hin : x.format.name ∈ offered) (w : W) :
    ∃ w', t.applySettings c x w = (.ok (), w') ∧ symbol w' = x.format.name := by
  obtain ⟨width, w₁, hwidth, -⟩ :=
    h.replace_other (f := .width) (by decide) (.int x.width.toUInt64.toInt64) w
  obtain ⟨height, w₂, hheight, -⟩ :=
    h.replace_other (f := .height) (by decide) (.int x.height.toUInt64.toInt64) w₁
  obtain ⟨format, w₃, hformat, hnew⟩ := (h.replace_format x.format.name w₂).1 hin
  obtain ⟨enable, w₄, henable, hsame⟩ :=
    h.replace_other (f := .frameRateEnable) (by decide) (.bool true) w₃
  obtain ⟨rate, w₅, hrate, hsame'⟩ :=
    h.replace_other (f := .frameRate) (by decide) (.float x.rate) w₄
  refine ⟨w₅, ?_, (hsame'.trans hsame).trans hnew⟩
  simp only [Transport.applySettings, Settings.writes, Transport.applyWrites, hwidth, hheight,
    hformat, henable, hrate]

/-- A format that is not taken is not written, and what was written before it is
put back. -/
theorem applySettings_refuses (h : Offers t c offered symbol) (x : Settings)
    (hout : x.format.name ∉ offered) (w : W) :
    ∃ e w', t.applySettings c x w = (.error e, w') ∧ symbol w' = symbol w := by
  obtain ⟨width, w₁, hwidth, hsame₁⟩ :=
    h.replace_other (f := .width) (by decide) (.int x.width.toUInt64.toInt64) w
  obtain ⟨height, w₂, hheight, hsame₂⟩ :=
    h.replace_other (f := .height) (by decide) (.int x.height.toUInt64.toInt64) w₁
  obtain ⟨e, w₃, hformat, hsame₃⟩ := (h.replace_format x.format.name w₂).2 hout
  have hback : symbol (t.putBack c [(.height, height), (.width, width)] w₃) = symbol w₃ := by
    refine h.putBack_keeps (fun y hy => ?_) w₃
    rcases List.mem_cons.1 hy with rfl | hy
    · exact Feature.noConfusion
    · rw [List.mem_singleton.1 hy]
      exact Feature.noConfusion
  refine ⟨e, t.putBack c [(.height, height), (.width, width)] w₃, ?_,
    hback.trans (hsame₃.trans (hsame₂.trans hsame₁))⟩
  simp only [Transport.applySettings, Settings.writes, Transport.applyWrites, hwidth, hheight,
    hformat]

theorem readSettings_keeps (h : Offers t c offered symbol) (w : W) :
    symbol (t.readSettings c w).2 = symbol w := by
  have hpeek : ∀ f w, symbol (t.peek c f w).2 = symbol w := by
    intro f w
    have hkept := h.getFeature_keeps f w
    unfold Transport.peek
    rcases hg : t.getFeature c f.name w with ⟨_ | _, w₁⟩ <;> rw [hg] at hkept <;> exact hkept
  simp only [Transport.readSettings, hpeek]

/-! ## A session over such a device -/

open Session

/-- What a configuration with the format `name` is answered, and what becomes of
the format of the device. -/
structure Selects (offered : List String) (symbol : W → String) (name : String) (before : W)
    (answer : Except CameraError Unit) (after : W) : Prop where
  takes : name ∈ offered → answer = .ok () ∧ symbol after = name
  refuses : name ∉ offered → (∃ e, answer = .error e) ∧ symbol after = symbol before

/-- The session has the device, and its acquisition is at rest. -/
structure AtRest (c : ConnectionId) (s : Session W) : Prop where
  closed : s.closed = false
  connection : s.connection = some c
  settings : s.settings.isSome
  acquisition : s.acquisition = .idle

/-- The session has the device, and streams from it if it has an engine. -/
structure Attends (c : ConnectionId) (s : Session W) : Prop where
  closed : s.closed = false
  connection : s.connection = some c
  settings : s.settings.isSome
  acquisition : s.acquisition = .idle ∨
    s.acquisition = .streaming ∧ s.engine.isSome ∧ s.options.bufferCount ≠ 0

theorem reconfigure_offered (h : Offers t c offered symbol) {s : Session W}
    (hs : AtRest c s) (x : Settings) :
    ∃ applied s', reconfigure t x s = (.ok applied, s') ∧ AtRest c s' ∧
      s'.options = s.options ∧
      Selects offered symbol x.format.name s.world applied s'.world := by
  rw [reconfigure_eq x hs.closed hs.connection]
  by_cases hin : x.format.name ∈ offered
  · obtain ⟨w, htaken, hnew⟩ := h.applySettings_takes x hin s.world
    rw [htaken]
    refine ⟨.ok (), _, rfl, ⟨hs.closed, hs.connection, rfl, rfl⟩, rfl, fun _ => ⟨rfl, ?_⟩,
      fun hout => absurd hin hout⟩
    exact (h.readSettings_keeps w).trans hnew
  · obtain ⟨e, w, hrefused, hsame⟩ := h.applySettings_refuses x hin s.world
    rw [hrefused]
    exact ⟨.error e, _, rfl, ⟨hs.closed, hs.connection, hs.settings, rfl⟩, rfl,
      fun hin' => absurd hin' hin, fun _ => ⟨⟨e, rfl⟩, hsame⟩⟩

theorem enqueues_keep (h : Offers t c offered symbol) (id : StreamId) (bs : List Buffer)
    (w : W) : symbol (bs.foldl (fun w b => (t.channel id).enqueue b w) w) = symbol w := by
  induction bs generalizing w with
  | nil => rfl
  | cons b rest ih => exact (ih _).trans (h.enqueue_keeps id b w)

theorem startAcquisition_offered (h : Offers t c offered symbol) {s : Session W}
    (hs : AtRest c s) (hring : s.options.bufferCount ≠ 0) :
    ∃ s', startAcquisition t s = (.ok (), s') ∧ symbol s'.world = symbol s.world := by
  obtain ⟨x, hx⟩ := Option.isSome_iff_exists.1 hs.settings
  obtain ⟨size, hsize, hpositive⟩ := h.payload s.world
  have hmeasured := h.payload_keeps s.world
  rcases hm : t.payloadSize c s.world with ⟨r, w₁⟩
  rw [hm] at hsize hmeasured
  obtain ⟨id, hid⟩ := h.stream w₁
  have hopened := h.stream_keeps w₁
  rcases ho : t.createStream c w₁ with ⟨r', w₂⟩
  rw [ho] at hid hopened
  dsimp only at hsize hmeasured hid hopened
  subst hsize hid
  have hqueued := h.enqueues_keep id
    (Pool.allocate s.generations s.options.bufferCount size).1.2 w₂
  have hgood : ¬ (s.options.bufferCount = 0 ∨ size = 0) := not_or.2 ⟨hring, hpositive⟩
  rw [startAcquisition_eq (ne_streaming_of_idle hs.acquisition) hs.closed hs.connection hx,
    startEngine_eq, hm]
  simp only [ho, Engine.start_eq, if_neg hgood]
  generalize (Pool.allocate s.generations s.options.bufferCount size).1.2.foldl
    (fun w b => (t.channel id).enqueue b w) w₂ = w₃ at hqueued ⊢
  have hstarted := h.commands .acquisitionStart w₃
  have hkept := h.execute_keeps .acquisitionStart w₃
  rcases he : t.execute c Command.acquisitionStart.name w₃ with ⟨r, w₄⟩
  rw [he] at hstarted hkept
  dsimp only at hstarted hkept
  subst hstarted
  exact ⟨_, rfl, ((hkept.trans hqueued).trans hopened).trans hmeasured⟩

theorem stopAcquisition_offered (h : Offers t c offered symbol) {s : Session W} {e : Engine}
    (hc : s.closed = false) (hl : s.connection = some c) (hx : s.settings.isSome)
    (ha : s.acquisition = .streaming) (he : s.engine = some e) :
    ∃ s', stopAcquisition t s = (.ok (), s') ∧ AtRest c s' ∧ s'.options = s.options ∧
      symbol s'.world = symbol s.world := by
  rw [stopAcquisition_eq hc ha hl he]
  have hstopped := h.commands .acquisitionStop s.world
  have hkept := h.execute_keeps .acquisitionStop s.world
  rcases hr : t.execute c Command.acquisitionStop.name s.world with ⟨r, w⟩
  rw [hr] at hstopped hkept
  dsimp only at hstopped hkept
  subst hstopped
  refine ⟨_, rfl, ⟨hc, hl, hx, rfl⟩, rfl, ?_⟩
  show symbol (drained t e s.options.drainTimeout w) = symbol s.world
  rw [drained, h.release_keeps, Engine.stop_frame h.now_keeps (h.flush_keeps e.stream)
    (h.dequeue_keeps e.stream)]
  exact hkept

/-- The change is made at rest, also when the session streams: it is stopped
before and started again after, and neither touches the format. -/
theorem configure_offered (h : Offers t c offered symbol) {s : Session W} (hs : Attends c s)
    (x : Settings) (hx : x.format ∈ offered.map PixelFormat.parse) :
    Selects offered symbol x.format.name s.world
      (configure t x.width x.height x.format x.rate s).1
      (configure t x.width x.height x.format x.rate s).2.world := by
  have hasked := h.options_keeps s.world
  have hf := advertisedFormats_eq (t := t) hs.closed hs.connection
  rw [h.options] at hf
  rcases hs.acquisition with hidle | ⟨hstreaming, hengine, hring⟩
  · have hrest : AtRest c { s with
        world := (t.featureOptions c Feature.pixelFormat.name s.world).2 } :=
      ⟨hs.closed, hs.connection, hs.settings, hidle⟩
    obtain ⟨applied, s', hr, -, -, hselects⟩ := h.reconfigure_offered hrest x
    rw [configure_of_rest x.width x.height x.rate hf hx (ne_streaming_of_idle hidle), hr]
    exact ⟨hselects.takes, fun hout =>
      ⟨(hselects.refuses hout).1, (hselects.refuses hout).2.trans hasked⟩⟩
  · obtain ⟨e, he⟩ := Option.isSome_iff_exists.1 hengine
    obtain ⟨s₁, hstop, hrest, hoptions, hstopped⟩ := h.stopAcquisition_offered
      (s := { s with world := (t.featureOptions c Feature.pixelFormat.name s.world).2 })
      hs.closed hs.connection hs.settings hstreaming he
    obtain ⟨applied, s₂, hr, hrest', hoptions', hselects⟩ := h.reconfigure_offered hrest x
    have hring' : s₂.options.bufferCount ≠ 0 := by
      rw [hoptions', hoptions]
      exact hring
    obtain ⟨s₃, hstart, hstarted⟩ := h.startAcquisition_offered hrest' hring'
    rw [configure_of_streaming x.width x.height x.rate hf hx hstreaming, hstop]
    simp only [hr, restart_eq, hstart]
    by_cases hin : x.format.name ∈ offered
    · obtain ⟨rfl, hnew⟩ := hselects.takes hin
      exact ⟨fun _ => ⟨rfl, hstarted.trans hnew⟩, fun hout => absurd hin hout⟩
    · obtain ⟨⟨err, rfl⟩, hsame⟩ := hselects.refuses hin
      exact ⟨fun hin' => absurd hin' hin, fun _ => ⟨⟨err, rfl⟩,
        hstarted.trans (hsame.trans (hstopped.trans hasked))⟩⟩

/-- Wherever its life has led it, a session that is connected attends to its
device. -/
theorem attends_after (t : Transport W) (w : W) (o : SessionOptions) (ops : List Operation)
    (hl : (after t (new w o) ops).connection = some c) : Attends c (after t (new w o) ops) := by
  have hmap : (after t.traced (new { world := w } o) ops).map Traced.world =
      after t (new w o) ops :=
    (after_map t.traced_projects ops (new { world := w } o)).symm
  have hstaffed := (staffed_new w o).after (t := t) ops
  rw [← hmap] at hl ⊢
  generalize after t.traced (new { world := w } o) ops = s at hl hstaffed ⊢
  have hl' : s.connection = some c := hl
  rcases hstaffed.standing with h | ⟨c', h⟩ | ⟨c', e, h⟩ | h
  · rw [h.connection] at hl'
    cases hl'
  · exact ⟨h.closed, hl, h.settings, .inl h.acquisition⟩
  · have hengine : s.engine.isSome := by
      rw [h.engine]
      rfl
    have hring : s.options.bufferCount ≠ 0 := by
      rw [h.options]
      exact hstaffed.ring hengine
    exact ⟨h.closed, hl, h.settings, .inr ⟨h.acquisition, hengine, hring⟩⟩
  · rw [h.connection] at hl'
    cases hl'

end Offers

/-! ## What can be selected -/

open Session

/-- A session connected to a device that offers formats under these names
advertises what the names are read as. Of these it can select just the formats
whose own name is offered, and then the device has that name. Another one is
refused and the device keeps the format it had; it was offered under an older
spelling. -/
theorem configure_advertised {t : Transport W} {c : ConnectionId} {offered : List String}
    {symbol : W → String} (h : Offers t c offered symbol) (w : W) (o : SessionOptions)
    (ops : List Operation) (hl : (after t (new w o) ops).connection = some c) :
    let s := after t (new w o) ops
    let format (w : W) := (t.getFeature c Feature.pixelFormat.name w).1
    (advertisedFormats t s).1 = .ok (offered.map PixelFormat.parse) ∧
      ∀ x : Settings, x.format ∈ offered.map PixelFormat.parse →
        let out := configure t x.width x.height x.format x.rate s
        (out.1 = .ok () ↔ x.format.name ∈ offered) ∧
        (out.1 = .ok () → format out.2.world = .ok (.enum x.format.name) ∧
          PixelFormat.parse x.format.name = x.format) ∧
        (out.1 ≠ .ok () → format out.2.world = format s.world ∧
          ∃ older ∈ PixelFormat.olderSpellings, older ∈ offered ∧
            PixelFormat.parse older = x.format) := by
  intro s format
  have hs : Offers.Attends c s := Offers.attends_after t w o ops hl
  refine ⟨?_, fun x hx => ?_⟩
  · rw [advertisedFormats_eq hs.closed hs.connection, h.options]
    rfl
  intro out
  have hselects : Offers.Selects offered symbol x.format.name s.world out.1 out.2.world :=
    h.configure_offered hs x hx
  have hformat : ∀ w, format w = .ok (.enum (symbol w)) := h.reads
  obtain ⟨spelling, hoffered, hparse⟩ := List.mem_map.1 hx
  by_cases hin : x.format.name ∈ offered
  · obtain ⟨hok, hnew⟩ := hselects.takes hin
    refine ⟨iff_of_true hok hin, fun _ => ⟨?_, ?_⟩, fun hne => absurd hok hne⟩
    · rw [hformat, hnew]
    · rw [← hparse]
      exact PixelFormat.parse_isCanonical spelling
  · obtain ⟨⟨err, herr⟩, hsame⟩ := hselects.refuses hin
    have hne : out.1 ≠ .ok () := by
      rw [herr]
      exact fun he => (nomatch he)
    refine ⟨iff_of_false hne hin, fun hok => absurd hok hne, fun _ => ⟨?_, spelling, ?_,
      hoffered, hparse⟩⟩
    · rw [hformat, hformat, hsame]
    · -- A name that is read and written again as it was is the name of the format.
      rcases PixelFormat.name_parse spelling with hname | holder
      · rw [← hparse, hname] at hin
        exact absurd hoffered hin
      · exact holder

/-- A device that has a format and nothing else to it. -/
def panel (offered : List String) : Transport String where
  name := "panel"
  clock := { now := fun w => (0, w), sleep := fun _ w => w, patience := fun _ _ => 0 }
  enumerate w := (.ok [], w)
  connect _ w := (.ok 0, w)
  getFeature _ f w := (.ok (if f = Feature.pixelFormat.name then .enum w else .int 1), w)
  setFeature _ f v w :=
    match decide (f = Feature.pixelFormat.name), v.asWord? with
    | true, some s =>
      if s ∈ offered then (.ok (), s)
      else (.error (.invalidFeatureValue f "not an entry"), w)
    | _, _ => (.ok (), w)
  featureOptions _ _ w := (.ok offered, w)
  execute _ _ w := (.ok (), w)
  payloadSize _ w := (.ok 1, w)
  createStream _ w := (.ok 0, w)
  channel _ :=
    { enqueue := fun _ w => w
      dequeue := fun wait w => (.error (.timeout wait), w)
      flush := fun w => ([], w) }
  releaseStream _ w := w
  releaseConnection _ w := w

theorem panel_offers (offered : List String) : Offers (panel offered) 0 offered id where
  options _ := rfl
  reads _ := rfl
  takes s w hin := by simp [panel, FeatureValue.asWord?, hin]
  refuses s w hout := by simp [panel, FeatureValue.asWord?, hout]
  writes f v w hf := by
    have hname : f.name ≠ Feature.pixelFormat.name := by
      cases f <;> first | exact absurd rfl hf | decide
    simp [panel, hname]
  commands _ _ := rfl
  answers _ _ := ⟨_, rfl⟩
  payload _ := ⟨1, rfl, by decide⟩
  stream _ := ⟨0, rfl⟩
  options_keeps _ := rfl
  getFeature_keeps _ _ := rfl
  execute_keeps _ _ := rfl
  payload_keeps _ := rfl
  stream_keeps _ := rfl
  now_keeps _ := rfl
  enqueue_keeps _ _ _ := rfl
  dequeue_keeps _ _ _ := rfl
  flush_keeps _ _ := rfl
  release_keeps _ _ := rfl

/-- A device with a spelling of either time, as the one and the other format is
asked of it while it streams. -/
theorem configure_advertised_panel :
    let t := panel ["RGB8Packed", "Mono8"]
    let s := after t (new "RGB8Packed" { bufferCount := 1 })
      [.connect ⟨"", "", "", "", none⟩, .start]
    Offers t 0 ["RGB8Packed", "Mono8"] id ∧ s.connection = some 0 ∧ s.state = .streaming ∧
      (configure t 8 4 .mono8 30.0 s).1 = .ok () ∧
      (configure t 8 4 .rgb8 30.0 s).1 ≠ .ok () := by
  intro t s
  have hoffers : Offers t 0 ["RGB8Packed", "Mono8"] id := panel_offers _
  obtain ⟨-, hselect⟩ := configure_advertised hoffers "RGB8Packed" { bufferCount := 1 }
    [.connect ⟨"", "", "", "", none⟩, .start] rfl
  have hmono := (hselect ⟨8, 4, .mono8, 30.0⟩ (by decide)).1
  have hrgb := (hselect ⟨8, 4, .rgb8, 30.0⟩ (by decide)).1
  exact ⟨hoffers, rfl, rfl, hmono.2 (by decide), fun hok => absurd (hrgb.1 hok) (by decide)⟩

end FrameGrabber
