import FrameGrabber.Proofs.BenchSession

/-!
# What `configure` promises

Two promises about a session with a simulated camera whose commands may be
refused at any time. The first is about the session: a configuration that is
answered with success is the one that the session then has, one that is refused
leaves the settings as they were, and a stream that was running runs again unless
the device refused the last start. It holds.

The second is about the device: after a refusal every feature reads as before.
That holds on every exit but one. Where the device took the settings and then
would not start with them, what is put back are the settings that the session
knows, and the switch of the rate is not among them; writing them leaves it on.
So the switch is the one feature that can differ, and it differs just if it was
off before such a call.

Both are read off the exits of `configure`.
-/

namespace FrameGrabber
namespace Session

variable {o : SessionOptions} {c : ConnectionId} {l : Link}
  {schedule : Nat → Option CameraError} {log : List (String × Bool)}
  {s : Session Bench}

/-- What came of the last start among some commands, the latest first. -/
def lastStart (commands : List (String × Bool)) : Option Bool :=
  (commands.find? fun x => x.1 = Command.acquisitionStart.name).map (·.2)

theorem lastStart_started (done : Bool) (commands : List (String × Bool)) :
    lastStart (started done :: commands) = some done := by
  simp [lastStart, started]

theorem Ready.state_eq (h : Ready o c l schedule log s) : s.state = .connected := by
  obtain ⟨d, hd⟩ := Option.isSome_iff_exists.1 h.descriptor
  simp [state, h.closed, hd, h.acquisition]

theorem Live.state_eq (h : Live o c l schedule log s) : s.state = .streaming := by
  obtain ⟨d, hd⟩ := Option.isSome_iff_exists.1 h.descriptor
  simp [state, h.closed, hd, h.acquisition]

/-- A session that is connected stands at rest or streams, with a camera of the bench. -/
theorem OnBench.with_camera {cameras : List Camera} (h : OnBench cameras o schedule s)
    (hs : s.state = .connected ∨ s.state = .streaming) :
    ∃ c l log, l.camera ∈ cameras ∧
      (Ready o c l schedule log s ∧ (l.acquiring = true → ∃ n, schedule n ≠ none) ∨
        Live o c l schedule log s) := by
  cases h with
  | detached h _ =>
      have hidle : s.state = .idle := by
        simp [state, h.closed, h.descriptor]
      rw [hidle] at hs
      exact absurd hs (by decide)
  | ready c l log h hcamera hrest => exact ⟨c, l, log, hcamera, .inl ⟨h, hrest⟩⟩
  | live c l log h hcamera => exact ⟨c, l, log, hcamera, .inr h⟩
  | departed h =>
      have hclosed : s.state = .closed := by
        simp [state, h.closed]
      rw [hclosed] at hs
      exact absurd hs (by decide)

theorem OnBench.engaged {cameras : List Camera} (h : OnBench cameras o schedule s)
    (hs : s.state = .connected ∨ s.state = .streaming) :
    ∃ c l log, Ready o c l schedule log s ∨ Live o c l schedule log s := by
  obtain ⟨c, l, log, -, h⟩ := h.with_camera hs
  exact ⟨c, l, log, h.imp And.left id⟩

/-! ## The session -/

theorem Restarted.settings_eq (h : Restarted o c l schedule log s) :
    s.settings = some l.registers.settings := by
  rcases h with ⟨-, h⟩ | ⟨-, h⟩ <;> exact h.settings

/-- The session streams again unless the start was refused. -/
theorem Restarted.state_iff (h : Restarted o c l schedule log s) :
    ∃ done, s.world.commands = started done :: log ∧
      (s.state = .streaming ↔ done ≠ false) := by
  rcases h with ⟨-, h⟩ | ⟨-, h⟩
  · exact ⟨true, h.world.commands, by simp [h.state_eq]⟩
  · exact ⟨false, h.world.commands, by simp [h.state_eq]⟩

/-- What becomes of the settings and of the stream in a call with the answer `r`
that leads from `s` to `s'`. -/
structure Settled (x : Settings) (s : Session Bench) (r : Except CameraError Unit)
    (s' : Session Bench) : Prop where
  ok : r = .ok () → s'.settings = some x ∧ s'.state = s.state
  error : ∀ e, r = .error e → s'.settings = s.settings ∧
    (s.state = .connected → s'.state = .connected) ∧
    (s.state = .streaming → ∃ issued,
      s'.world.commands = issued ++ s.world.commands ∧
        (s'.state = .streaming ↔ lastStart issued ≠ some false))

theorem Ready.settled (h : Ready o c l schedule log s) (x : Settings) :
    Settled x s (Session.configure bench x.width x.height x.format x.rate s).1
      (Session.configure bench x.width x.height x.format x.rate s).2 := by
  have hnot : s.state ≠ .streaming := by
    rw [h.state_eq]
    decide
  rcases h.configure x with ⟨-, -, s', hs', hready⟩ | ⟨-, e, s', hs', hready⟩
  · rw [hs']
    refine ⟨fun _ => ⟨hready.settings, ?_⟩, fun e he => (by cases he)⟩
    rw [h.state_eq, hready.state_eq]
  · rw [hs']
    refine ⟨fun he => (by cases he), fun e he => ⟨?_, ?_, ?_⟩⟩
    · rw [h.settings, hready.settings]
    · exact fun _ => hready.state_eq
    · exact fun hstream => absurd hstream hnot

/-- A refused call that ends with a start. -/
theorem Restarted.settled {s' : Session Bench} {l' : Link} {e : CameraError}
    (more : List (String × Bool)) (hrestarted : Restarted o c l' schedule (more ++ log) s')
    (h : Live o c l schedule log s) (x : Settings)
    (hsettings : l'.registers.settings = l.registers.settings) :
    Settled x s (.error e) s' := by
  obtain ⟨done, hcommands, hstate⟩ := hrestarted.state_iff
  refine ⟨fun he => (by cases he), fun e he => ⟨?_, ?_, ?_⟩⟩
  · rw [hrestarted.settings_eq, hsettings, h.settings]
  · intro hconnected
    rw [h.state_eq] at hconnected
    cases hconnected
  · intro _
    refine ⟨started done :: more, ?_, ?_⟩
    · rw [hcommands, h.world.commands, List.cons_append]
    · rw [hstate, lastStart_started]
      simp

theorem Live.settled (h : Live o c l schedule log s) (x : Settings) :
    Settled x s (Session.configure bench x.width x.height x.format x.rate s).1
      (Session.configure bench x.width x.height x.format x.rate s).2 := by
  have hexit := h.configure x
  generalize (Session.configure bench x.width x.height x.format x.rate s).1 = r at hexit ⊢
  generalize (Session.configure bench x.width x.height x.format x.rate s).2 = s' at hexit ⊢
  cases hexit with
  | unlisted hx hlive =>
      refine ⟨fun he => (by cases he), fun e he => ⟨?_, ?_, ?_⟩⟩
      · rw [hlive.settings, h.settings]
      · intro hconnected
        rw [h.state_eq] at hconnected
        cases hconnected
      · intro _
        refine ⟨[], ?_, ?_⟩
        · rw [hlive.world.commands, h.world.commands, List.nil_append]
        · simp [hlive.state_eq, lastStart]
  | unstopped hstop hrestarted =>
      exact Restarted.settled [stopped false] hrestarted h x rfl
  | rejected hstop hx hrestarted =>
      exact Restarted.settled [stopped true] hrestarted h x rfl
  | done hstop hx hstart hlive =>
      refine ⟨fun _ => ⟨hlive.settings, ?_⟩, fun e he => (by cases he)⟩
      rw [h.state_eq, hlive.state_eq]
  | reverted hstop hx hstart hrestarted =>
      exact Restarted.settled [started false, stopped true] hrestarted h x rfl

/-- A configuration that is answered with success is the one that the session
has, and the session streams just if it did. One that is refused leaves the
settings as they were, a session at rest at rest, and a session that streamed
streaming, unless the last start issued on the way was refused. -/
theorem configure_settles {cameras : List Camera}
    (hcameras : ∀ camera ∈ cameras, camera.Canonical)
    (hs : Reachable bench (new ⟨{ cameras }, schedule, []⟩ o) s)
    (hstate : s.state = .connected ∨ s.state = .streaming) (width height : UInt32)
    (format : PixelFormat) (rate : Float) :
    Settled ⟨width, height, format, rate⟩ s
      (configure bench width height format rate s).1
      (configure bench width height format rate s).2 := by
  obtain ⟨c, l, log, h | h⟩ := (onBench_of_reachable hcameras hs).engaged hstate
  · exact h.settled ⟨width, height, format, rate⟩
  · exact h.settled ⟨width, height, format, rate⟩

/-- A camera with two pixels and one format. -/
def pocketCamera : Camera := { sensorWidth := 2, sensorHeight := 1, formats := [.mono8] }

/-- A session that has connected to it and started, with one buffer. -/
def pocketSession (schedule : Nat → Option CameraError) : Session Bench :=
  (Operation.start.perform bench ((Operation.connect pocketCamera.descriptor).perform bench
    (new ⟨{ cameras := [pocketCamera] }, schedule, []⟩ { bufferCount := 1 })).2).2

theorem pocketCamera_canonical : ∀ camera ∈ [pocketCamera], camera.Canonical := by
  intro camera hcamera f hf
  rw [List.mem_singleton.1 hcamera] at hf
  rw [List.mem_singleton.1 hf]
  rfl

theorem configure_settles_pocket :
    (pocketSession fun _ => none).state = .streaming ∧
      Settled ⟨1, 1, .mono8, 30.0⟩ (pocketSession fun _ => none)
        (configure bench 1 1 .mono8 30.0 (pocketSession fun _ => none)).1
        (configure bench 1 1 .mono8 30.0 (pocketSession fun _ => none)).2 :=
  ⟨rfl, configure_settles pocketCamera_canonical (.perform .start (.perform _ .start))
    (.inr rfl) 1 1 .mono8 30.0⟩

/-! ## The device -/

/-- What the device answers when a feature is read. -/
def reads (c : ConnectionId) (f : Feature) (s : Session Bench) :
    Except CameraError FeatureValue :=
  (bench.getFeature c f.name s.world).1

theorem Attached.reads (h : Attached o c l schedule log s) (f : Feature) :
    Session.reads c f s = .ok (l.registers.read l.camera f) := by
  rw [Session.reads, Bench.getFeature_at h.world.at']

/-- All but the switch of the rate reads the same with the switch turned on. -/
theorem read_switched (r : Registers) (camera : Camera) {f : Feature}
    (hf : f ≠ .frameRateEnable) :
    Registers.read { r with rateEnabled := true } camera f = r.read camera f := by
  cases f <;> first | rfl | exact absurd rfl hf

/-- The device takes the configuration, stops, and will not start again. -/
structure Reverts (camera : Camera) (schedule : Nat → Option CameraError)
    (log : List (String × Bool)) (x : Settings) : Prop where
  takes : camera.Takes x
  stops : schedule log.length = none
  refuses : schedule (log.length + 1) ≠ none

theorem Restarted.attached (h : Restarted o c l schedule log s) :
    ∃ acquiring log', Attached o c ⟨l.camera, l.registers, acquiring⟩ schedule log' s := by
  rcases h with ⟨-, h⟩ | ⟨-, h⟩
  · exact ⟨true, _, h.toAttached⟩
  · exact ⟨l.acquiring, _, h.toAttached⟩

/-- After a refusal the registers are those of before, with the switch of the
rate turned on if the device reverted. -/
theorem ConfigureExit.registers {x : Settings} {r : Except CameraError Unit}
    {e : CameraError} (h : ConfigureExit o c l schedule log x r s) (he : r = .error e) :
    ∃ l' log', Attached o c l' schedule log' s ∧ l'.camera = l.camera ∧
      (Reverts l.camera schedule log x ∧
          l'.registers = { l.registers with rateEnabled := true } ∨
        ¬Reverts l.camera schedule log x ∧ l'.registers = l.registers) := by
  cases h with
  | unlisted hx h =>
      exact ⟨l, log, h.toAttached, rfl, .inr ⟨fun hr => hx hr.takes, rfl⟩⟩
  | unstopped hstop h =>
      obtain ⟨acquiring, log', hattached⟩ := h.attached
      refine ⟨_, log', hattached, rfl, .inr ⟨fun hr => ?_, rfl⟩⟩
      rw [hr.stops] at hstop
      cases hstop
  | rejected hstop hx h =>
      obtain ⟨acquiring, log', hattached⟩ := h.attached
      exact ⟨_, log', hattached, rfl, .inr ⟨fun hr => hx hr.takes, rfl⟩⟩
  | done hstop hx hstart h => cases he
  | reverted hstop hx hstart h =>
      obtain ⟨acquiring, log', hattached⟩ := h.attached
      refine ⟨_, log', hattached, rfl, .inl ⟨⟨hx, hstop, ?_⟩, rfl⟩⟩
      rw [hstart]
      exact Option.some_ne_none _

theorem bool_ne_iff (b : Bool) :
    (Except.ok (.bool true) : Except CameraError FeatureValue) = .ok (.bool b) ↔
      ¬(Except.ok (.bool b) : Except CameraError FeatureValue) = .ok (.bool false) := by
  cases b <;> simp

/-- After a refusal the device reads as before, but for the switch of the rate.
That one reads as before too, unless it was off and the device, streaming, took
the new settings, stopped, and would not start with them. -/
theorem configure_error_reads {cameras : List Camera}
    (hcameras : ∀ camera ∈ cameras, camera.Canonical)
    (hs : Reachable bench (new ⟨{ cameras }, schedule, []⟩ o) s)
    (hstate : s.state = .connected ∨ s.state = .streaming) {width height : UInt32}
    {format : PixelFormat} {rate : Float} {e : CameraError}
    (he : (configure bench width height format rate s).1 = .error e) :
    let s' := (configure bench width height format rate s).2
    ∃ c l, s.connection = some c ∧ s.world.world.links[c]? = some l ∧
      (∀ f, f ≠ .frameRateEnable → reads c f s' = reads c f s) ∧
      (reads c .frameRateEnable s' = reads c .frameRateEnable s ↔
        ¬(s.state = .streaming ∧ reads c .frameRateEnable s = .ok (.bool false) ∧
          Reverts l.camera schedule s.world.commands ⟨width, height, format, rate⟩)) := by
  intro s'
  obtain ⟨c, l, log, h | h⟩ := (onBench_of_reachable hcameras hs).engaged hstate
  · have hkept : Ready o c l schedule log s' := by
      rcases h.configure ⟨width, height, format, rate⟩ with
        ⟨-, -, s₁, hs₁, -⟩ | ⟨-, e₁, s₁, hs₁, hready⟩
      · rw [hs₁] at he
        cases he
      · show Ready o c l schedule log (configure bench width height format rate s).2
        rw [hs₁]
        exact hready
    refine ⟨c, l, h.connection, h.world.at', fun f _ => ?_, ?_⟩
    · rw [hkept.reads, h.reads]
    · rw [hkept.reads, h.reads, h.state_eq]
      simp
  · obtain ⟨l', log', hattached, hcamera, hregisters⟩ :=
      (h.configure ⟨width, height, format, rate⟩).registers he
    have hreads : ∀ f, reads c f s' = .ok (l'.registers.read l.camera f) := by
      intro f
      rw [← hcamera]
      exact hattached.reads f
    refine ⟨c, l, h.connection, h.world.at', ?_, ?_⟩
    · intro f hf
      rw [hreads, h.reads]
      rcases hregisters with ⟨-, hr⟩ | ⟨-, hr⟩ <;> rw [hr]
      rw [read_switched l.registers l.camera hf]
    · rw [hreads, h.reads, h.state_eq, h.world.commands]
      rcases hregisters with ⟨hreverts, hr⟩ | ⟨hkept, hr⟩ <;> rw [hr]
      · simp only [hreverts, and_true, true_and]
        exact bool_ne_iff l.registers.rateEnabled
      · exact ⟨fun _ hall => hkept hall.2.2, fun _ => rfl⟩

/-- A schedule that refuses the third command: the start after a configuration,
if the first was a start and the second a stop. -/
def thirdRefused (n : Nat) : Option CameraError :=
  if n = 2 then some (.transport "busy") else none

theorem configure_error_reads_pocket :
    let s := pocketSession thirdRefused
    let s' := (configure bench 1 1 .mono8 30.0 s).2
    (configure bench 1 1 .mono8 30.0 s).1 = .error (.transport "busy") ∧
      reads 0 .frameRateEnable s = .ok (.bool false) ∧
      reads 0 .frameRateEnable s' = .ok (.bool true) ∧
      ∃ c l, s.connection = some c ∧ s.world.world.links[c]? = some l ∧
        (∀ f, f ≠ .frameRateEnable → reads c f s' = reads c f s) ∧
        (reads c .frameRateEnable s' = reads c .frameRateEnable s ↔
          ¬(s.state = .streaming ∧ reads c .frameRateEnable s = .ok (.bool false) ∧
            Reverts l.camera thirdRefused s.world.commands ⟨1, 1, .mono8, 30.0⟩)) :=
  ⟨rfl, rfl, rfl,
    configure_error_reads (e := .transport "busy") pocketCamera_canonical
      (.perform .start (.perform _ .start)) (.inr rfl) rfl⟩

end Session
end FrameGrabber
