import FrameGrabber.Proofs.SessionRun

/-!
# A configuration is written in whole or not at all

Writes are undone one by one, so it is enough that a single one can be: asking
and a refused write leave the device as it was, and after a write that was
accepted the value of before is accepted again and restores what was there. The
induction below is on the writes that are still to be made. What it carries is
that putting back the values replaced so far leads to the world where the writes
began.

Whether a device accepts a write may depend on everything else that it holds. So
the order counts: each value is put back into the very state that its replacement
led to, and any other order may be refused.
-/

namespace FrameGrabber
namespace Transport

variable {W : Type} {t : Transport W} {c : ConnectionId} {P : W → Prop} {w : W}

/-- In the worlds of `P`, writing to the device can be undone. -/
structure Undoable (t : Transport W) (c : ConnectionId) (P : W → Prop) : Prop where
  asked : ∀ {w} (name : String), P w → (t.getFeature c name w).2 = w
  refused : ∀ {w w'} {name : String} {v : FeatureValue} {e : CameraError},
    P w → t.setFeature c name v w = (.error e, w') → w' = w
  kept : ∀ {w w'} {name : String} {v : FeatureValue},
    P w → t.setFeature c name v w = (.ok (), w') → P w'
  undone : ∀ {w w'} {name : String} {v old : FeatureValue},
    P w → (t.getFeature c name w).1 = .ok old →
    t.setFeature c name v w = (.ok (), w') → t.setFeature c name old w' = (.ok (), w)

theorem Undoable.replace (h : t.Undoable c P) (hw : P w) (f : Feature)
    (v : FeatureValue) :
    match t.replace c f v w with
    | (.ok old, w') => P w' ∧ t.setFeature c f.name old w' = (.ok (), w)
    | (.error _, w') => w' = w := by
  have hasked : (t.getFeature c f.name w).2 = w := h.asked f.name hw
  unfold Transport.replace
  rcases hget : t.getFeature c f.name w with ⟨_ | old, w₁⟩ <;> rw [hget] at hasked
  · exact hasked
  · have hw₁ : w₁ = w := hasked
    subst hw₁
    rcases hset : t.setFeature c f.name v w₁ with ⟨_ | _, w₂⟩ <;> simp only [hset]
    · exact h.refused hw hset
    · exact ⟨h.kept hw hset, h.undone hw (by rw [hget]) hset⟩

theorem Undoable.applyWrites_of_error (h : t.Undoable c P) (writes : List FeatureWrite)
    (replaced : List (Feature × FeatureValue)) {e : CameraError} {w' : W} (hw : P w)
    (he : t.applyWrites c writes replaced w = (.error e, w')) :
    w' = t.putBack c replaced w := by
  induction writes generalizing replaced w with
  | nil => cases he
  | cons x rest ih =>
      have hone := h.replace hw x.feature x.value
      unfold Transport.applyWrites at he
      rcases hr : t.replace c x.feature x.value w with ⟨_ | old, w₁⟩ <;>
        rw [hr] at hone he
      · have hw₁ : w₁ = w := hone
        subst hw₁
        simp only at he
        split at he
        · exact ih replaced hw he
        · injection he with _ he
          exact he.symm
      · obtain ⟨hw₁, hback⟩ : P w₁ ∧ t.setFeature c x.feature.name old w₁ = (.ok (), w) :=
          hone
        have hput : t.putBack c ((x.feature, old) :: replaced) w₁ =
            t.putBack c replaced w := by
          rw [putBack, hback]
        rw [← hput]
        exact ih ((x.feature, old) :: replaced) hw₁ he

/-- A configuration that is refused leaves the world as it was. -/
theorem Undoable.applySettings_of_error {x : Settings} {e : CameraError} {w' : W}
    (h : t.Undoable c P) (hw : P w) (he : t.applySettings c x w = (.error e, w')) :
    w' = w :=
  h.applyWrites_of_error x.writes [] hw he

/-! ## Which writes are made -/

/-- The device declines a write: it does not tell what it would replace, or does not
take the new value. -/
inductive Declines (t : Transport W) (c : ConnectionId) (x : FeatureWrite) (w : W)
    (e : CameraError) : Prop
  | asked (h : (t.getFeature c x.feature.name w).1 = .error e)
  | written (old : FeatureValue) (hold : (t.getFeature c x.feature.name w).1 = .ok old)
      (h : (t.setFeature c x.feature.name x.value w).1 = .error e)

/-- The write may be left out, and the device lacks the feature. -/
def Excused (x : FeatureWrite) (e : CameraError) : Prop :=
  x.optional = true ∧ ∃ name, e = .featureUnsupported name

/-- Writes that the device accepts one after the other lead from one world to
another. Those that are excused are left out. -/
inductive Made (t : Transport W) (c : ConnectionId) : List FeatureWrite → W → W → Prop
  | nil (w : W) : Made t c [] w w
  | made {x : FeatureWrite} {rest : List FeatureWrite} {w w₁ w' : W}
      (h : t.setFeature c x.feature.name x.value w = (.ok (), w₁))
      (hrest : Made t c rest w₁ w') : Made t c (x :: rest) w w'
  | excused {x : FeatureWrite} {rest : List FeatureWrite} {w w' : W} {e : CameraError}
      (h : t.Declines c x w e) (hx : Excused x e) (hrest : Made t c rest w w') :
      Made t c (x :: rest) w w'

/-- The error is that of the first write that is declined and not excused. -/
def FirstDeclined (t : Transport W) (c : ConnectionId) (writes : List FeatureWrite) (w : W)
    (e : CameraError) : Prop :=
  ∃ done x rest w₁, writes = done ++ x :: rest ∧ t.Made c done w w₁ ∧
    t.Declines c x w₁ e ∧ ¬Excused x e

theorem FirstDeclined.cons {x : FeatureWrite} {rest : List FeatureWrite} {w₁ : W}
    {e : CameraError} (hx : ∀ done w₂, t.Made c done w₁ w₂ → t.Made c (x :: done) w w₂)
    (h : t.FirstDeclined c rest w₁ e) : t.FirstDeclined c (x :: rest) w e := by
  obtain ⟨done, y, later, w₂, rfl, hdone, hdeclines, hnot⟩ := h
  exact ⟨x :: done, y, later, w₂, rfl, hx done w₂ hdone, hdeclines, hnot⟩

/-- One write: it is accepted, or the device declines it and is as it was. -/
theorem Undoable.replace_cases (h : t.Undoable c P) (hw : P w) (x : FeatureWrite) :
    (∃ old w₁, t.replace c x.feature x.value w = (.ok old, w₁) ∧ P w₁ ∧
        t.setFeature c x.feature.name x.value w = (.ok (), w₁)) ∨
      ∃ e, t.replace c x.feature x.value w = (.error e, w) ∧ t.Declines c x w e := by
  have hasked : (t.getFeature c x.feature.name w).2 = w := h.asked x.feature.name hw
  unfold Transport.replace
  rcases hget : t.getFeature c x.feature.name w with ⟨e | old, w₁⟩ <;> rw [hget] at hasked
  · have hw₁ : w₁ = w := hasked
    subst hw₁
    exact .inr ⟨e, rfl, .asked (by rw [hget])⟩
  · have hw₁ : w₁ = w := hasked
    subst hw₁
    rcases hset : t.setFeature c x.feature.name x.value w₁ with ⟨e | _, w₂⟩ <;>
      simp only [hset]
    · obtain rfl := h.refused hw hset
      exact .inr ⟨e, rfl, .written old (by rw [hget]) (by rw [hset])⟩
    · exact .inl ⟨old, w₂, rfl, h.kept hw hset, rfl⟩

/-- All writes are made, or one is declined first. -/
theorem Undoable.applyWrites_cases (h : t.Undoable c P) (writes : List FeatureWrite)
    (replaced : List (Feature × FeatureValue)) (hw : P w) :
    (∃ w', t.applyWrites c writes replaced w = (.ok (), w') ∧ t.Made c writes w w') ∨
      ∃ e, (t.applyWrites c writes replaced w).1 = .error e ∧ t.FirstDeclined c writes w e := by
  induction writes generalizing replaced w with
  | nil => exact .inl ⟨w, rfl, .nil w⟩
  | cons x rest ih =>
      rcases h.replace_cases hw x with ⟨old, w₁, hr, hw₁, hset⟩ | ⟨e, hr, hdeclines⟩
      · have hstep : t.applyWrites c (x :: rest) replaced w =
            t.applyWrites c rest ((x.feature, old) :: replaced) w₁ := by
          rw [applyWrites, hr]
        rw [hstep]
        rcases ih ((x.feature, old) :: replaced) hw₁ with ⟨w', hall, hmade⟩ | ⟨e, he, hfirst⟩
        · exact .inl ⟨w', hall, .made hset hmade⟩
        · exact .inr ⟨e, he, hfirst.cons fun _ _ => .made hset⟩
      · by_cases hx : Excused x e
        · have hstep : t.applyWrites c (x :: rest) replaced w =
              t.applyWrites c rest replaced w := by
            obtain ⟨hoptional, name, rfl⟩ := hx
            rw [applyWrites, hr]
            simp only [hoptional]
          rw [hstep]
          rcases ih replaced hw with ⟨w', hall, hmade⟩ | ⟨e', he, hfirst⟩
          · exact .inl ⟨w', hall, .excused hdeclines hx hmade⟩
          · exact .inr ⟨e', he, hfirst.cons fun _ _ => .excused hdeclines hx⟩
        · refine .inr ⟨e, ?_, [], x, rest, w, rfl, .nil w, hdeclines, hx⟩
          rw [applyWrites, hr]
          simp only
          split
          · next hoptional => exact absurd ⟨hoptional, _, rfl⟩ hx
          · rfl

end Transport

namespace Session

variable {W : Type} {t : Transport W} {c : ConnectionId} {P : W → Prop} {s : Session W}

/-- On a device where each write can be undone a configuration is written in whole or
not at all. Width, height, format, the switch of the rate and the rate are written in
this order, and the switch alone may be left out, where the device lacks it; or else
the answer is that of the first write that is declined, and the session and the device
are as they were. `P` holds of the states that the device can be in. -/
theorem apply_whole_or_nothing (h : t.Undoable c P) (hclosed : s.closed = false)
    (hconnection : s.connection = some c) (hw : P s.world) (x : Settings) :
    let writes : List FeatureWrite :=
      [⟨.width, .int x.width.toUInt64.toInt64, false⟩,
        ⟨.height, .int x.height.toUInt64.toInt64, false⟩,
        ⟨.pixelFormat, .enum x.format.name, false⟩,
        ⟨.frameRateEnable, .bool true, true⟩,
        ⟨.frameRate, .float x.rate, false⟩]
    (∃ w', apply t x s = (.ok (), { s with world := w' }) ∧ t.Made c writes s.world w') ∨
      ∃ e, apply t x s = (.error e, s) ∧ t.FirstDeclined c writes s.world e := by
  intro writes
  rw [apply_eq x hclosed hconnection]
  rcases h.applyWrites_cases writes [] hw with ⟨w', hall, hmade⟩ | ⟨e, he, hfirst⟩
  · have happly : t.applySettings c x s.world = (.ok (), w') := hall
    rw [happly]
    exact .inl ⟨w', rfl, hmade⟩
  · have hanswer : (t.applySettings c x s.world).1 = .error e := he
    rcases happly : t.applySettings c x s.world with ⟨r, w'⟩
    rw [happly] at hanswer
    have hr : r = .error e := hanswer
    subst hr
    obtain rfl := h.applySettings_of_error hw happly
    exact .inr ⟨e, rfl, hfirst⟩

end Session

/-! ## A device with a budget -/

/-- What a device holds whose two sides share a budget of pixels. -/
structure Budget where
  width : Int64
  height : Int64
  format : String
  rate : Float

/-- The picture is within the budget, and the rate within its limit. -/
def Budget.Fits (b : Budget) : Prop := b.width.toInt * b.height.toInt ≤ 8 ∧ b.rate ≤ 30.0

/-- The device takes a side as far as the other one allows. It has no switch of the
rate. -/
def frugal : Transport Budget where
  name := "frugal"
  clock := { now := fun w => (0, w), sleep := fun _ w => w, patience := fun _ _ => 0 }
  enumerate w := (.ok [], w)
  connect _ w := (.ok 0, w)
  getFeature _ name w :=
    match Feature.ofName? name with
    | some .width => (.ok (.int w.width), w)
    | some .height => (.ok (.int w.height), w)
    | some .pixelFormat => (.ok (.enum w.format), w)
    | some .frameRate => (.ok (.float w.rate), w)
    | _ => (.error (.featureUnsupported name), w)
  setFeature _ name v w :=
    match Feature.ofName? name, v with
    | some .width, .int n =>
      if n.toInt * w.height.toInt ≤ 8 then (.ok (), { w with width := n })
      else (.error (.invalidFeatureValue name "over budget"), w)
    | some .height, .int n =>
      if w.width.toInt * n.toInt ≤ 8 then (.ok (), { w with height := n })
      else (.error (.invalidFeatureValue name "over budget"), w)
    | some .pixelFormat, .enum s => (.ok (), { w with format := s })
    | some .frameRate, .float rate =>
      if rate ≤ 30.0 then (.ok (), { w with rate })
      else (.error (.invalidFeatureValue name "too fast"), w)
    | _, _ => (.error (.featureUnsupported name), w)
  featureOptions _ _ w := (.ok [], w)
  execute _ _ w := (.ok (), w)
  payloadSize _ w := (.ok 1, w)
  createStream _ w := (.ok 0, w)
  channel _ :=
    { enqueue := fun _ w => w
      dequeue := fun wait w => (.error (.timeout wait), w)
      flush := fun w => ([], w) }
  releaseStream _ w := w
  releaseConnection _ w := w

/-- One value was replaced, within the budget and the limit. -/
inductive Budget.Takes (w : Budget) : Feature → Budget → Prop
  | width (n : Int64) (h : n.toInt * w.height.toInt ≤ 8) : Takes w .width { w with width := n }
  | height (n : Int64) (h : w.width.toInt * n.toInt ≤ 8) :
      Takes w .height { w with height := n }
  | format (s : String) : Takes w .pixelFormat { w with format := s }
  | rate (rate : Float) (h : rate ≤ 30.0) : Takes w .frameRate { w with rate }

theorem frugal_takes {name : String} {v : FeatureValue} {w w' : Budget}
    (h : frugal.setFeature 0 name v w = (.ok (), w')) :
    ∃ f, name = f.name ∧ w.Takes f w' := by
  simp only [frugal] at h
  split at h
  · next n hname =>
      split at h
      · next hfits =>
          cases h
          exact ⟨_, Feature.eq_name_of_ofName? hname, .width n hfits⟩
      · cases h
  · next n hname =>
      split at h
      · next hfits =>
          cases h
          exact ⟨_, Feature.eq_name_of_ofName? hname, .height n hfits⟩
      · cases h
  · next s hname =>
      cases h
      exact ⟨_, Feature.eq_name_of_ofName? hname, .format s⟩
  · next rate hname =>
      split at h
      · next hlimit =>
          cases h
          exact ⟨_, Feature.eq_name_of_ofName? hname, .rate rate hlimit⟩
      · cases h
  · cases h

theorem frugal_undoable : frugal.Undoable 0 Budget.Fits where
  asked name _ := by
    simp only [frugal]
    split <;> rfl
  refused := by
    intro w w' name v e _ he
    simp only [frugal] at he
    split at he <;> (try split at he) <;> cases he <;> rfl
  kept := by
    intro w w' name v hw he
    obtain ⟨f, -, htakes⟩ := frugal_takes he
    cases htakes with
    | width n hfits => exact ⟨hfits, hw.2⟩
    | height n hfits => exact ⟨hfits, hw.2⟩
    | format s => exact hw
    | rate rate hlimit => exact ⟨hw.1, hlimit⟩
  undone := by
    intro w w' name v old hw hold he
    obtain ⟨f, rfl, htakes⟩ := frugal_takes he
    simp only [frugal, Feature.ofName?_name] at hold ⊢
    cases htakes with
    | width n hfits =>
        cases hold
        simp only [if_pos hw.1]
    | height n hfits =>
        cases hold
        simp only [if_pos hw.1]
    | format s =>
        cases hold
        rfl
    | rate rate hlimit =>
        cases hold
        simp only [if_pos hw.2]

namespace Session

/-- A session with a frugal device of two pixels by four. -/
def frugalSession : Session Budget :=
  (Operation.connect ⟨"", "", "", "", none⟩).perform frugal
    (new ⟨2, 4, "Mono8", 25.0⟩ {}) |>.2

/-- One pixel by eight is taken at a rate of 30, without the switch that the device
lacks. At a rate of 60 it is not, and both sides are put back, the height first: as long
as it is eight, the width of before is over budget. -/
theorem apply_whole_or_nothing_frugal :
    frugal.Undoable 0 Budget.Fits ∧ frugalSession.closed = false ∧
      frugalSession.connection = some 0 ∧ frugalSession.world.Fits ∧
      (frugal.setFeature 0 "Width" (.int 2) ⟨1, 8, "RGB8", 25.0⟩).1 ≠ .ok () ∧
      (∃ w', apply frugal ⟨1, 8, .rgb8, 30.0⟩ frugalSession =
          (.ok (), { frugalSession with world := w' }) ∧
        frugal.Made 0 (Settings.writes ⟨1, 8, .rgb8, 30.0⟩) frugalSession.world w') ∧
      ∃ e, apply frugal ⟨1, 8, .rgb8, 60.0⟩ frugalSession = (.error e, frugalSession) ∧
        frugal.FirstDeclined 0 (Settings.writes ⟨1, 8, .rgb8, 60.0⟩) frugalSession.world e := by
  have hfits : frugalSession.world.Fits := ⟨by decide, by decide +kernel⟩
  have htaken : (apply frugal ⟨1, 8, .rgb8, 30.0⟩ frugalSession).1 = .ok () := rfl
  have hrefused : (apply frugal ⟨1, 8, .rgb8, 60.0⟩ frugalSession).1 =
      .error (.invalidFeatureValue "AcquisitionFrameRate" "too fast") := rfl
  refine ⟨frugal_undoable, rfl, rfl, hfits, fun he => (nomatch he), ?_, ?_⟩
  · rcases apply_whole_or_nothing frugal_undoable rfl rfl hfits ⟨1, 8, .rgb8, 30.0⟩ with
      hwhole | ⟨e, he, -⟩
    · exact hwhole
    · rw [he] at htaken
      cases htaken
  · rcases apply_whole_or_nothing frugal_undoable rfl rfl hfits ⟨1, 8, .rgb8, 60.0⟩ with
      ⟨w', hw', -⟩ | hnothing
    · rw [hw'] at hrefused
      cases hrefused
    · exact hnothing

end Session
end FrameGrabber
