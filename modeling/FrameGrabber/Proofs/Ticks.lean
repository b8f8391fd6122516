import FrameGrabber.Proofs.Counting
import FrameGrabber.Proofs.Decoding
import FrameGrabber.Proofs.Picture
import FrameGrabber.Proofs.Supply
import Mathlib.Data.List.Sort

/-!
# Grabs and ticks

A camera numbers its ticks, and an engine numbers its frames; the two numbers go
apart where a tick finds no buffer and where a frame arrives incomplete. What ties
them together is the list of the ticks that filled a buffer: the grabs that get a
buffer at all get those of the list in its order. Which of them give a frame is
then a matter of the tick alone, and the number of a frame is the number of frames
before it.

While every tick finds a buffer the list has no gaps, and the drops among the first
`k` answers are the multiples of the failure interval up to `k`.
-/

namespace FrameGrabber

/-! ## The answer to a tick -/

namespace Camera

variable {c : Camera} {r : Registers} {tick sequence : Nat}

/-- The frame of a tick arrives incomplete if the camera fails at some interval and
the interval divides the number of the tick, counted from one. -/
theorem fails_iff :
    c.fails tick = true ↔ 0 < c.failEvery.getD 0 ∧ c.failEvery.getD 0 ∣ tick + 1 := by
  unfold fails
  cases c.failEvery with
  | none => simp
  | some n => simp [Nat.dvd_iff_mod_eq_zero]

/-- What a grab answers for a tick. -/
structure Gives (c : Camera) (r : Registers) (tick sequence : Nat)
    (a : Except CameraError Frame) : Prop where
  dropped : a = .error (.acquisition (.buffer .timeout)) ↔
    0 < c.failEvery.getD 0 ∧ c.failEvery.getD 0 ∣ tick + 1
  frame : ¬(0 < c.failEvery.getD 0 ∧ c.failEvery.getD 0 ∣ tick + 1) → ∃ f now, a = .ok f ∧
    decodeFrame (Pattern.payload r.format r.width.toNat r.height.toNat tick) r.width r.height
      r.format sequence now = .ok f

theorem gives_of_shot (hformat : r.format.IsDecoded)
    (hwhole : c.fails tick = false → r.pictureSize = r.payloadSize.toNat) (now : Instant) :
    c.Gives r tick sequence (c.shot r tick sequence now) := by
  unfold shot
  by_cases hfails : c.fails tick = true
  · rw [if_pos hfails]
    exact ⟨iff_of_true rfl (fails_iff.1 hfails), fun h => absurd (fails_iff.1 hfails) h⟩
  · rw [if_neg hfails]
    obtain ⟨data, hpixels, -⟩ :=
      Registers.decodePixels_pattern hformat (hwhole (by simpa using hfails)) tick
    have hframe : decodeFrame (Pattern.payload r.format r.width.toNat r.height.toNat tick)
        r.width r.height r.format sequence now =
          .ok ⟨r.width, r.height, .rgb8, data, sequence, now⟩ := by
      rw [decodeFrame, hpixels]
      rfl
    rw [hframe]
    exact ⟨iff_of_false (by simp) fun h => hfails (fails_iff.2 h),
      fun _ => ⟨_, now, rfl, hframe⟩⟩

theorem Gives.isOk_eq {a : Except CameraError Frame} (h : c.Gives r tick sequence a) :
    a.isOk = !c.fails tick := by
  cases hfails : c.fails tick with
  | true =>
      rw [h.dropped.2 (fails_iff.1 hfails)]
      rfl
  | false =>
      obtain ⟨f, -, hf, -⟩ := h.frame fun hn => by
        rw [fails_iff.2 hn] at hfails
        cases hfails
      rw [hf]
      rfl

/-- Answers one after the other, each to its tick. The first number is that of the
frames before. -/
inductive Series (c : Camera) (r : Registers) :
    Nat → List Nat → List (Except CameraError Frame) → Prop
  | nil (sequence : Nat) : Series c r sequence [] []
  | cons {sequence tick : Nat} {ticks : List Nat} {a : Except CameraError Frame}
      {answers : List (Except CameraError Frame)} (ha : c.Gives r tick sequence a)
      (h : Series c r (sequence + a.isOk.toNat) ticks answers) :
      Series c r sequence (tick :: ticks) (a :: answers)

theorem Series.length_eq {ticks : List Nat} {answers : List (Except CameraError Frame)}
    (h : c.Series r sequence ticks answers) : ticks.length = answers.length := by
  induction h with
  | nil sequence => rfl
  | cons ha _ ih => rw [List.length_cons, List.length_cons, ih]

theorem Series.get {ticks : List Nat} {answers : List (Except CameraError Frame)}
    (h : c.Series r sequence ticks answers) {j : Nat} {a : Except CameraError Frame}
    (hj : answers[j]? = some a) : ∃ tick, ticks[j]? = some tick ∧
      c.Gives r tick (sequence + (answers.take j).countP (·.isOk)) a := by
  induction h generalizing j with
  | nil sequence => cases hj
  | @cons sequence tick ticks a₀ answers ha _ ih =>
      cases j with
      | zero =>
          cases hj
          exact ⟨tick, rfl, ha⟩
      | succ j =>
          obtain ⟨tick', htick', hgives⟩ := ih hj
          refine ⟨tick', htick', ?_⟩
          have hcount : ((a₀ :: answers).take (j + 1)).countP (·.isOk) =
              a₀.isOk.toNat + (answers.take j).countP (·.isOk) := by
            rw [List.take_succ_cons, List.countP_cons, Nat.add_comm]
            cases a₀.isOk <;> rfl
          rw [hcount, ← Nat.add_assoc]
          exact hgives

theorem Series.drops {ticks : List Nat} {answers : List (Except CameraError Frame)}
    (h : c.Series r sequence ticks answers) :
    answers.countP (!·.isOk) = ticks.countP c.fails := by
  induction h with
  | nil sequence => rfl
  | cons ha _ ih => rw [List.countP_cons, List.countP_cons, ih, ha.isOk_eq, Bool.not_not]

theorem countP_fails_range (c : Camera) (k : Nat) :
    (List.range k).countP c.fails = k / c.failEvery.getD 0 := by
  induction k with
  | zero => simp
  | succ k ih =>
      rw [List.range_succ, List.countP_append, ih, List.countP_singleton, Nat.succ_div]
      by_cases hzero : c.failEvery.getD 0 = 0
      · have hfails : ¬c.fails k = true := by
          rw [fails_iff]
          omega
        rw [if_neg hfails, if_neg]
        rw [hzero]
        omega
      · have hfails : c.fails k = true ↔ c.failEvery.getD 0 ∣ k + 1 := by
          rw [fails_iff]
          exact and_iff_right (Nat.pos_of_ne_zero hzero)
        simp only [hfails]

/-- Answers to the first ticks, with none left out. -/
theorem Series.counts {answers : List (Except CameraError Frame)}
    (h : c.Series r sequence (List.range answers.length) answers) :
    answers.countP (!·.isOk) = answers.length / c.failEvery.getD 0 ∧
      answers.countP (·.isOk) = answers.length - answers.length / c.failEvery.getD 0 := by
  have hdrops : answers.countP (!·.isOk) = answers.length / c.failEvery.getD 0 := by
    rw [h.drops, countP_fails_range]
  have hsum := List.length_eq_countP_add_countP (·.isOk) (l := answers)
  simp only [Bool.not_eq_true, Bool.decide_eq_false] at hsum
  exact ⟨hdrops, by omega⟩

end Camera

theorem eq_range_of_increasing {l : List Nat} (h : l.Pairwise (· < ·))
    (hlt : ∀ x ∈ l, x < l.length) : l = List.range l.length := by
  have hsubset : l ⊆ List.range l.length := fun x hx => List.mem_range.2 (hlt x hx)
  have hperm : l.Perm (List.range l.length) :=
    (List.subperm_of_subset h.nodup hsubset).perm_of_length_le (by simp)
  exact hperm.eq_of_pairwise' h List.pairwise_lt_range

/-- Where no tick was lost, the buffers that were handed out are of the first ticks. -/
theorem SimStream.Loaded.served_eq_range {c : Camera} {r : Registers} {ring : List BufferId}
    {served pending : List Nat} {s : SimStream} (h : s.Loaded c r ring served pending)
    (hnone : s.filled.length = s.ticks) : served = List.range served.length := by
  have hall : s.filled = List.range s.filled.length :=
    eq_range_of_increasing h.increasing (hnone ▸ h.before)
  have hle : served.length ≤ s.filled.length := by
    rw [h.filled, List.length_append]
    exact Nat.le_add_right _ _
  calc served = s.filled.take served.length := by rw [h.filled, List.take_left]
    _ = (List.range s.filled.length).take served.length := by rw [← hall]
    _ = List.range served.length := by rw [List.take_range, Nat.min_eq_left hle]

/-! ## Room for the frames -/

/-- Does memory have room for a frame of these sides? -/
def Registers.HasRoom (r : Registers) : Prop := 3 * (r.width.toNat * r.height.toNat) ≤ memoryLimit

/-- The picture of a camera can then be decoded without a panic. -/
theorem Engine.Supplied.stumbles {c : ConnectionId} {l : Link} {served pending : List Nat}
    {e : Engine} {n : Network} (h : e.Supplied c l served pending n) (hroom : l.registers.HasRoom)
    (b : Build) (timeout : Span) :
    e.stumbles b (Network.transport.channel e.stream) timeout n = false := by
  have hdequeue := h.feeds.dequeue timeout
  have hchannel : (Network.transport.channel e.stream).dequeue timeout n =
      n.dequeue e.stream timeout := by rfl
  rw [Engine.stumbles, hchannel]
  generalize n.dequeue e.stream timeout = out at hdequeue
  rcases out with ⟨r, n₁⟩
  cases hdequeue with
  | silent => rfl
  | buffer tick rest hb hdeveloped =>
      cases hdeveloped with
      | incomplete _ hstatus => simp [hstatus]
      | complete _ _ hinfo => simp [Engine.decode?, hinfo, decodeFrame?_of_room hroom]

/-! ## Grabs one after the other -/

namespace Session

/-- Grabs one after the other, each after a pause: what they answer, and the session
afterwards. -/
def takes {W : Type} (t : Transport W) :
    List (Span × Span) → Session W → List (Except CameraError Frame) × Session W
  | [], s => ([], s)
  | (pause, timeout) :: rest, s =>
    let (a, s) := grab t timeout ((clock t).sleep pause s)
    let (answers, s) := takes t rest s
    (a :: answers, s)

/-- Did the grab get a buffer? -/
def answered : Except CameraError Frame → Bool
  | .error (.timeout _) => false
  | .error (.acquisition .streamClosed) => false
  | _ => true

theorem answered_of_silence {l : Link} {e : CameraError} (h : Network.Silence l e) :
    answered (.error e) = false := by
  cases h <;> rfl

theorem answered_of_gives {c : Camera} {r : Registers} {tick sequence : Nat}
    {a : Except CameraError Frame} (h : c.Gives r tick sequence a) : answered a = true := by
  by_cases hn : 0 < c.failEvery.getD 0 ∧ c.failEvery.getD 0 ∣ tick + 1
  · rw [h.dropped.2 hn]
    rfl
  · obtain ⟨f, -, hf, -⟩ := h.frame hn
    rw [hf]
    rfl

variable {c : ConnectionId} {l : Link} {served pending : List Nat} {e : Engine}
  {s s₀ : Session Network}

/-- The session streams from the camera of the connection. -/
structure Streams (c : ConnectionId) (l : Link) (served pending : List Nat) (e : Engine)
    (s : Session Network) : Prop where
  closed : s.closed = false
  acquisition : s.acquisition = .streaming
  engine : s.engine = some e
  supplied : e.Supplied c l served pending s.world

theorem streams_of_startAcquisition (hc : s.connection = some c)
    (hl : s.world.links[c]? = some l)
    (h : startAcquisition Network.transport s = (.ok (), s₀)) :
    ∃ e, s₀.Streams c { l with acquiring := true } [] [] e ∧ e.sequence = 0 ∧
      s₀.overflowed = (s.overflowed || (l.registers.payloadSize? .checked).isNone) := by
  by_cases hstreaming : s.acquisition = .streaming
  · rw [startAcquisition_of_streaming hstreaming] at h
    cases h
  cases hclosed : s.closed with
  | true =>
      rw [startAcquisition_of_closed hstreaming hclosed] at h
      cases h
  | false =>
      cases hx : s.settings with
      | none =>
          have hunset : startAcquisition Network.transport s = (.error .notConnected, s) := by
            simp [startAcquisition, hstreaming, SessionM.linked_of_connection hclosed hc, hx]
          rw [hunset] at h
          cases h
      | some x =>
          rw [startAcquisition_eq hstreaming hclosed hc hx] at h
          rcases hengine : startEngine Network.transport c ⟨x.width, x.height, x.format⟩ s with
            ⟨err | e, s₁⟩
          · rw [hengine] at h
            cases h
          · obtain ⟨hsupplied, hsequence, generations, world, panicked, rfl⟩ :=
              startEngine_supplied hl hengine
            have hexecute : Network.transport.execute c Command.acquisitionStart.name world =
                (.ok (), world.setAcquiring c true) := by rfl
            rw [hengine] at h
            simp only [hexecute] at h
            cases h
            exact ⟨e, ⟨hclosed, rfl, rfl, hsupplied.setAcquiring true⟩, hsequence,
              congrArg (s.overflowed || ·) (Network.overflows_at hl)⟩

theorem Streams.sleep (h : s.Streams c l served pending e) (pause : Span) :
    ∃ more, ((clock Network.transport).sleep pause s).Streams c l served (pending ++ more) e := by
  obtain ⟨more, hmore⟩ := h.supplied.sleep pause
  exact ⟨more, h.closed, h.acquisition, h.engine, hmore⟩

theorem Streams.grab (h : s.Streams c l served pending e) (timeout : Span) :
    ∃ e' s', Session.grab Network.transport timeout s =
        ((Session.grab Network.transport timeout s).1, s') ∧ s'.engine = some e' ∧
      s'.closed = false ∧ s'.acquisition = .streaming ∧
      (l.registers.HasRoom → ∀ b, s'.panickedIn b = s.panickedIn b) ∧
      e.Grabbed c l served (Session.grab Network.transport timeout s).1 e' s'.world := by
  rw [grab_eq timeout h.closed h.acquisition h.engine]
  refine ⟨_, _, rfl, rfl, h.closed, h.acquisition, fun hroom b => ?_, h.supplied.grab timeout⟩
  simp only [panickedIn, h.supplied.stumbles hroom, Bool.or_false]

/-- Whatever the pauses and the timeouts, the grabs that get a buffer answer to the
ticks that wait, in their order, and none of them panics if there is room for the frames. -/
theorem Streams.takes (h : s.Streams c l served pending e) (hformat : l.registers.format.IsDecoded)
    (spans : List (Span × Span)) :
    ∃ ticks pending' e', Streams c l (served ++ ticks) pending' e'
        (Session.takes Network.transport spans s).2 ∧
      l.camera.Series l.registers e.sequence ticks
        ((Session.takes Network.transport spans s).1.filter answered) ∧
      (l.registers.HasRoom → ∀ b,
        (Session.takes Network.transport spans s).2.panickedIn b = s.panickedIn b) ∧
      ∀ a ∈ (Session.takes Network.transport spans s).1, answered a = false →
        ∃ error, a = .error error ∧ Network.Silence l error := by
  -- Each grab starts with the ticks that the pause before it added to those that wait.
  induction spans generalizing s served pending e with
  | nil =>
      refine ⟨[], pending, e, ?_, .nil e.sequence, fun _ _ => rfl, by simp [Session.takes]⟩
      rw [List.append_nil]
      exact h
  | cons x rest ih =>
      rcases x with ⟨pause, timeout⟩
      obtain ⟨more, hslept⟩ := h.sleep pause
      obtain ⟨e₁, s₁, hgrab, hengine, hclosed, hacquisition, hmarks, hgrabbed⟩ :=
        hslept.grab timeout
      simp only [Session.takes]
      generalize (Session.grab Network.transport timeout
        ((clock Network.transport).sleep pause s)).1 = a at hgrab hgrabbed
      rw [hgrab]
      simp only
      cases hgrabbed with
      | @silent error _ _ pending₁ herror hsequence hsupplied =>
          obtain ⟨ticks, pending', e', hlater, hseries, hmarks', hsilent⟩ :=
            ih ⟨hclosed, hacquisition, hengine, hsupplied⟩
          refine ⟨ticks, pending', e', hlater, ?_, fun hroom b =>
            (hmarks' hroom b).trans (hmarks hroom b), ?_⟩
          · rw [List.filter_cons_of_neg (by simp [answered_of_silence herror]), ← hsequence]
            exact hseries
          · intro a ha hanswered
            rcases List.mem_cons.1 ha with rfl | ha
            · exact ⟨error, rfl, herror⟩
            · exact hsilent a ha hanswered
      | shot tick rest' now ha hwhole hsequence hsupplied =>
          have hgives : l.camera.Gives l.registers tick e.sequence a := by
            rw [ha]
            exact Camera.gives_of_shot hformat hwhole now
          have hanswered := answered_of_gives hgives
          obtain ⟨ticks, pending', e', hlater, hseries, hmarks', hsilent⟩ :=
            ih ⟨hclosed, hacquisition, hengine, hsupplied⟩
          refine ⟨tick :: ticks, pending', e', ?_, ?_, fun hroom b =>
            (hmarks' hroom b).trans (hmarks hroom b), ?_⟩
          · rw [← List.singleton_append, ← List.append_assoc]
            exact hlater
          · rw [List.filter_cons_of_pos hanswered]
            rw [hsequence] at hseries
            exact .cons hgives hseries
          · intro a' ha' hsilence
            rcases List.mem_cons.1 ha' with rfl | ha'
            · rw [hanswered] at hsilence
              cases hsilence
            · exact hsilent a' ha' hsilence

/-- A session that was started on a camera in one of the formats that are decoded.
The ticks that filled a buffer are numbered with the lost ones among them, and the
grabs that get a buffer answer to these ticks one by one: with a drop where the
failure interval of the camera divides the number of the tick, else with the frame
of its picture, numbered by the frames before. Without lost ticks the drops are as
many as the interval goes into the number of answers. A grab that gets no buffer ran
out of time, unless the picture has more bytes than a word can count: then the camera
breaks down. A program that was built to check its arithmetic has panicked over such a
picture before it streams. No grab panics if there is room for the frames. -/
theorem takes_answer (hc : s.connection = some c) (hl : s.world.links[c]? = some l)
    (hformat : l.registers.format.IsDecoded)
    (hstart : startAcquisition Network.transport s = (.ok (), s₀)) (spans : List (Span × Span)) :
    let out := s₀.takes Network.transport spans
    let answers := out.1.filter answered
    (s₀.panickedIn .checked = false → l.registers.pictureSize < UInt64.size) ∧
    (l.registers.HasRoom → ∀ b, out.2.panickedIn b = s₀.panickedIn b) ∧
    ∃ e stream, out.2.engine = some e ∧ out.2.world.streams[e.stream]? = some stream ∧
      stream.filled.Pairwise (· < ·) ∧ (∀ tick ∈ stream.filled, tick < stream.ticks) ∧
      (∀ j a, answers[j]? = some a → ∃ tick, stream.filled[j]? = some tick ∧
        l.camera.Gives l.registers tick ((answers.take j).countP (·.isOk)) a) ∧
      (stream.filled.length = stream.ticks →
        answers.countP (!·.isOk) = answers.length / l.camera.failEvery.getD 0 ∧
        answers.countP (·.isOk) =
          answers.length - answers.length / l.camera.failEvery.getD 0) ∧
      ∀ a ∈ out.1, answered a = false → (∃ span, a = .error (.timeout span)) ∨
        a = .error (.acquisition .streamClosed) ∧ UInt64.size ≤ l.registers.pictureSize := by
  intro out answers
  obtain ⟨e₀, hstreams, hsequence, hoverflowed⟩ := streams_of_startAcquisition hc hl hstart
  obtain ⟨ticks, pending, e, hlater, hseries, hmarks, hsilent⟩ := hstreams.takes hformat spans
  obtain ⟨stream, hstream, -, hloaded⟩ := hlater.supplied.feeds.stream
  have hfilled : stream.filled = ticks ++ pending := hloaded.filled
  rw [hsequence] at hseries
  refine ⟨fun hsound => ?_, hmarks, e, stream, hlater.engine, hstream, hloaded.increasing,
    hloaded.before, ?_, ?_, ?_⟩
  · have hcounted := (panickedIn_eq_false_iff.1 hsound).2 rfl
    rw [hoverflowed, Bool.or_eq_false_iff, Option.isNone_eq_false_iff] at hcounted
    obtain ⟨n, hn⟩ := Option.isSome_iff_exists.1 hcounted.2
    exact (Build.count?_eq_some_iff.1 hn).1 rfl
  · intro j a hj
    obtain ⟨tick, htick, hgives⟩ := hseries.get hj
    rw [Nat.zero_add] at hgives
    obtain ⟨hlt, -⟩ := List.getElem?_eq_some_iff.1 htick
    refine ⟨tick, ?_, hgives⟩
    rw [hfilled, List.getElem?_append_left hlt, htick]
  · intro hnone
    have hserved := hloaded.served_eq_range hnone
    rw [List.nil_append, hseries.length_eq] at hserved
    rw [hserved] at hseries
    exact hseries.counts
  · intro a ha hanswered
    obtain ⟨error, rfl, hsilence⟩ := hsilent a ha hanswered
    cases hsilence with
    | waited span => exact .inl ⟨span, rfl⟩
    | broken hlong =>
        refine .inr ⟨rfl, Nat.le_of_not_lt fun hword => ?_⟩
        rw [l.registers.toNat_payloadSize_eq_iff.2 hword] at hlong
        exact Nat.lt_irrefl _ hlong

/-- A camera with two pixels of which every second frame arrives incomplete. -/
def limpingCamera : Camera :=
  { sensorWidth := 2, sensorHeight := 1, formats := [.mono8], failEvery := some 2 }

/-- The connection to it, before anything is written. -/
def limpingLink : Link := ⟨limpingCamera, Registers.initial limpingCamera, false⟩

/-- A session that has connected to it, with a ring of one buffer. -/
def limpingSession : Session Network :=
  (connect Network.transport limpingCamera.descriptor
    (new { cameras := [limpingCamera] } { bufferCount := 1 })).2

theorem takes_answer_limping :
    let s₀ := (startAcquisition Network.transport limpingSession).2
    let out := s₀.takes Network.transport [(0, 0), (Span.ofMillis 20, 0)]
    let answers := out.1.filter answered
    out.1 = [.ok ⟨2, 1, .rgb8, #[0, 0, 0, 1, 1, 1], 0, 0⟩,
        .error (.acquisition (.buffer .timeout))] ∧
      s₀.panickedIn .checked = false ∧ limpingLink.registers.HasRoom ∧
      (∀ b, out.2.panickedIn b = s₀.panickedIn b) ∧
      ∃ e stream, out.2.engine = some e ∧ out.2.world.streams[e.stream]? = some stream ∧
        stream.filled.Pairwise (· < ·) ∧ (∀ tick ∈ stream.filled, tick < stream.ticks) ∧
        (∀ j a, answers[j]? = some a → ∃ tick, stream.filled[j]? = some tick ∧
          limpingLink.camera.Gives limpingLink.registers tick
            ((answers.take j).countP (·.isOk)) a) ∧
        (stream.filled.length = stream.ticks →
          answers.countP (!·.isOk) = answers.length / limpingLink.camera.failEvery.getD 0 ∧
          answers.countP (·.isOk) =
            answers.length - answers.length / limpingLink.camera.failEvery.getD 0) ∧
        ∀ a ∈ out.1, answered a = false → (∃ span, a = .error (.timeout span)) ∨
          a = .error (.acquisition .streamClosed) ∧
            UInt64.size ≤ limpingLink.registers.pictureSize := by
  intro s₀
  have hroom : limpingLink.registers.HasRoom := by
    rw [Registers.HasRoom]
    decide
  have hstart : startAcquisition Network.transport limpingSession = (.ok (), s₀) := rfl
  obtain ⟨-, hmarks, hstreams⟩ := takes_answer (c := 0) (l := limpingLink) rfl rfl (by decide)
    hstart [(0, 0), (Span.ofMillis 20, 0)]
  exact ⟨by decide +kernel, rfl, hroom, hmarks hroom, hstreams⟩

end Session
end FrameGrabber
