import FrameGrabber.Pipeline.Stopwatch
import FrameGrabber.Proofs.Publishing
import Mathlib.Data.List.Chain

/-!
# Starts are an interval apart

Both loops wait in the same way: they look at the clock, and what the interval has
left since some instant is slept. When the instant is not in the future, the clock
then shows no less than the interval after it, and it has moved only if it had to.
This is all that is needed of a governor.

The frame loop waits since its last delivery, and a round without a frame leaves
that instant alone. The publishing side waits since it took its frame. In either
case the invariant is that the last start is past, by the interval where the wait
is already over, and so the next start is in time.
-/

namespace FrameGrabber

/-! ## Waiting -/

/-- Somebody came, had to wait for an interval since some instant, and left. -/
structure Waited {W : Type} (c : Clock W) (interval : Span) (since came left : Instant) :
    Prop where
  apart : since + interval ≤ left
  forward : came ≤ left
  prompt : since + interval ≤ came → left = came
  exact : c.Exact → left = max came (since + interval)

theorem Governor.waited_settle {W : Type} {c : Clock W} (hclock : c.Steady) (interval : Span)
    {since : Instant} {w : W} (hsince : since ≤ c.time w) :
    Waited c interval since (c.time w) (c.time (Governor.settle c (some ⟨interval⟩) since w)) := by
  have hnow : (c.now w).1 = c.time w := rfl
  have htime := hclock.time_now w
  have hsleep := hclock.time_sleep (interval - (c.time w - since)) (c.now w).2
  simp only [settle, delayAfter, hnow]
  split
  · constructor <;> intros <;> lia
  · refine ⟨by lia, by lia, by lia, ?_⟩
    intro hexact
    have hslept := hexact (interval - (c.time w - since)) (c.now w).2
    lia

/-! ## The frame loop -/

namespace Pipeline

variable {W : Type} {source : FrameSource W} {p : Pipeline W}

theorem pace_eq_settle {g : Governor} {previous : Instant} (hg : p.governor = some g)
    (hlast : p.lastDelivery = some previous) (c : Clock W) (w : W) :
    p.pace c w = Governor.settle c (some g) previous w := by
  simp only [pace, hg, hlast, Governor.settle]

theorem pace_of_none (hlast : p.lastDelivery = none) (c : Clock W) (w : W) :
    p.pace c w = w := by
  rw [pace, hlast]
  cases p.governor <;> rfl

theorem pace_timed (c : Clock W) (s : Timed W) :
    (p.timed c).pace c.timed s = { s with world := p.pace c s.world } := by
  simp only [pace, timed, Clock.timed]
  split
  · split <;> simp_all
  · rfl

theorem dispatch_timed (consumers : List (Consumer W)) (f : Frame) (s : Timed W) :
    dispatch (consumers.map (·.timed)) f s = { s with world := dispatch consumers f s.world } := by
  induction consumers generalizing s with
  | nil => rfl
  | cons c rest ih => exact ih _

theorem deliver_timed (c : Clock W) (f : Frame) (s : Timed W) :
    (p.timed c).deliver c.timed f s =
      ((p.deliver c f s.world).1.timed c, { s with
        world := (p.deliver c f s.world).2
        deliveries := s.deliveries ++
          [⟨s.arrival, c.time (c.now (p.pace c s.world)).2⟩] }) := by
  simp only [deliver, pace_timed]
  refine Prod.ext rfl ?_
  exact dispatch_timed p.consumers f _

theorem step_of_frame {f : Frame} {w w' : W} (h : source.grab p.grabTimeout w = (.ok f, w')) :
    step source p w = (.ok .delivered, p.deliver source.clock f.normalize w') := by
  rw [step, h]

theorem step_of_failure {e : CameraError} {w w' : W}
    (h : source.grab p.grabTimeout w = (.error e, w')) :
    step source p w = (if e.isTransient then .ok .skipped else .error e, p, w') := by
  simp only [step, h]
  split <;> rfl

/-- The delivery of a round that begins in this world, if there is one. -/
def delivery (source : FrameSource W) (p : Pipeline W) (w : W) : Delivery :=
  let w := (source.grab p.grabTimeout w).2
  ⟨source.clock.time w, source.clock.time (source.clock.now (p.pace source.clock w)).2⟩

/-- The stopwatch changes nothing, and it notes each delivery. -/
theorem step_timed (source : FrameSource W) (p : Pipeline W) (s : Timed W) :
    step source.timed (p.timed source.clock) s =
      ((step source p s.world).1, (step source p s.world).2.1.timed source.clock, {
        world := (step source p s.world).2.2
        arrival := (delivery source p s.world).arrived
        deliveries := s.deliveries ++
          if delivers (step source p s.world).1 then [delivery source p s.world] else [] }) := by
  have htimed : source.timed.grab p.grabTimeout s =
      ((source.grab p.grabTimeout s.world).1, { s with
        world := (source.grab p.grabTimeout s.world).2
        arrival := (delivery source p s.world).arrived }) := rfl
  rcases hgrab : source.grab p.grabTimeout s.world with ⟨e | f, w⟩
  · rw [hgrab] at htimed
    have hnone : delivers (if e.isTransient then .ok .skipped else .error e) = false := by
      split <;> rfl
    rw [step_of_failure (p := p.timed source.clock) htimed, step_of_failure hgrab]
    simp [hnone]
  · rw [hgrab] at htimed
    rw [step_of_frame (p := p.timed source.clock) htimed, step_of_frame hgrab]
    show (_, (p.timed source.clock).deliver source.clock.timed _ _) = _
    rw [deliver_timed]
    simp only [delivery, hgrab, delivers, if_true]

theorem dispatch_advances {c : Clock W} {consumers : List (Consumer W)}
    (h : ∀ x ∈ consumers, ∀ f i, c.Advances fun w => (x.onFrame f i w).2) (f : Frame) :
    c.Advances (dispatch consumers f) := by
  induction consumers with
  | nil => exact fun w => Nat.le_refl _
  | cons x rest ih =>
      intro w
      have hhead := h x List.mem_cons_self f f.timestamp w
      exact Nat.le_trans hhead (ih (fun y hy => h y (List.mem_cons_of_mem x hy)) _)

theorem step_of_delivers {w : W} (hclock : source.clock.Steady)
    (hconsumers : ∀ x ∈ p.consumers, ∀ f i, source.clock.Advances fun w => (x.onFrame f i w).2)
    (h : delivers (step source p w).1 = true) :
    (step source p w).2.1 = { p with lastDelivery := some (delivery source p w).started } ∧
      (delivery source p w).started ≤ source.clock.time (step source p w).2.2 := by
  rcases hgrab : source.grab p.grabTimeout w with ⟨e | f, w'⟩
  · rw [step_of_failure hgrab] at h
    split at h <;> cases h
  · have hstarted : (delivery source p w).started =
        source.clock.time (source.clock.now (p.pace source.clock w')).2 := by
      rw [delivery, hgrab]
    rw [step_of_frame hgrab, hstarted]
    constructor
    · rw [hclock.time_now]
      rfl
    · exact dispatch_advances hconsumers f.normalize _

/-- A round without a frame is one grab. -/
theorem step_of_not_delivers {w : W} (h : delivers (step source p w).1 = false) :
    (step source p w).2 = (p, (source.grab p.grabTimeout w).2) := by
  rcases hgrab : source.grab p.grabTimeout w with ⟨e | f, w'⟩
  · rw [step_of_failure hgrab]
  · rw [step_of_frame hgrab] at h
    cases h

theorem delivery_first (hclock : source.clock.Steady) (hlast : p.lastDelivery = none) (w : W) :
    (delivery source p w).started = (delivery source p w).arrived := by
  rw [delivery, pace_of_none hlast, hclock.time_now]

theorem delivery_waited (hclock : source.clock.Steady) {interval : Span} {since : Instant} {w : W}
    (hg : p.governor = some ⟨interval⟩) (hlast : p.lastDelivery = some since)
    (hsince : since ≤ (delivery source p w).arrived) :
    Waited source.clock interval since (delivery source p w).arrived
      (delivery source p w).started := by
  rw [delivery, pace_eq_settle hg hlast, hclock.time_now]
  exact Governor.waited_settle hclock interval hsince

/-- A loop between two rounds that has kept the pace so far. -/
structure Paced (source : FrameSource W) (interval : Span) (p : Pipeline W) (s : Timed W) :
    Prop where
  governor : p.governor = some ⟨interval⟩
  consumers : ∀ x ∈ p.consumers, ∀ f i, source.clock.Advances fun w => (x.onFrame f i w).2
  last : p.lastDelivery = s.deliveries.getLast?.map (·.started)
  past : ∀ d ∈ s.deliveries.getLast?, d.started ≤ source.clock.time s.world
  first : ∀ d ∈ s.deliveries.head?, d.started = d.arrived
  chain : s.deliveries.IsChain fun d e =>
    Waited source.clock interval d.started e.arrived e.started

theorem Paced.step {interval : Span} {s : Timed W} (hclock : source.clock.Steady)
    (hgrab : ∀ timeout, source.clock.Advances fun w => (source.grab timeout w).2)
    (h : Paced source interval p s) :
    Paced source interval (Pipeline.step source p s.world).2.1
      (Pipeline.step source.timed (p.timed source.clock) s).2.2 := by
  have harrived : source.clock.time s.world ≤ (delivery source p s.world).arrived :=
    hgrab p.grabTimeout s.world
  rw [step_timed]
  cases hround : delivers (Pipeline.step source p s.world).1 with
  | false =>
      rw [step_of_not_delivers hround]
      simp only [Bool.false_eq_true, if_false, List.append_nil]
      -- The last start stays what it was, and it is only longer ago.
      refine ⟨h.governor, h.consumers, h.last, ?_, h.first, h.chain⟩
      intro d hd
      exact Nat.le_trans (h.past d hd) harrived
  | true =>
      obtain ⟨hp, hstarted⟩ := step_of_delivers hclock h.consumers hround
      simp only [hp, if_true]
      refine ⟨h.governor, h.consumers, by simp, by simpa using hstarted, ?_, ?_⟩
      · intro d hd
        rcases hdeliveries : s.deliveries with _ | ⟨e, rest⟩
        · -- The first delivery of all: there is nothing yet to wait since.
          have hlast : p.lastDelivery = none := by rw [h.last, hdeliveries]; rfl
          rw [hdeliveries] at hd
          obtain rfl : delivery source p s.world = d := by simpa using hd
          exact delivery_first hclock hlast s.world
        · rw [hdeliveries] at hd
          exact h.first d (by rw [hdeliveries]; exact hd)
      · rw [List.isChain_append]
        refine ⟨h.chain, List.isChain_singleton _, ?_⟩
        intro d hd e he
        obtain rfl : delivery source p s.world = e := by simpa using he
        have hlast : p.lastDelivery = some d.started := by rw [h.last, hd]; rfl
        exact delivery_waited hclock h.governor hlast (Nat.le_trans (h.past d hd) harrived)

/-- The loop under the stopwatch is the loop, and a note is made for each frame that is
reported as delivered. -/
theorem rounds_timed (source : FrameSource W) (n : Nat) (p : Pipeline W) (s : Timed W) :
    let x := rounds source.timed n (p.timed source.clock) s
    x.1 = (rounds source n p s.world).1 ∧
      x.2.1 = (rounds source n p s.world).2.1.timed source.clock ∧
      x.2.2.world = (rounds source n p s.world).2.2 ∧
      x.2.2.deliveries.length =
        s.deliveries.length + (rounds source n p s.world).1.countP delivers := by
  induction n generalizing p s with
  | zero => exact ⟨rfl, rfl, rfl, rfl⟩
  | succ n ih =>
      have htimed := step_timed source p s
      rcases hstep : Pipeline.step source p s.world with ⟨r, p', w'⟩
      rw [hstep] at htimed
      simp only [rounds, hstep, htimed]
      obtain ⟨hanswers, hp, hworld, hlength⟩ := ih p' {
        world := w'
        arrival := (delivery source p s.world).arrived
        deliveries := s.deliveries ++ if delivers r then [delivery source p s.world] else [] }
      refine ⟨by rw [hanswers], hp, hworld, ?_⟩
      rw [hlength, List.countP_cons, List.length_append]
      cases delivers r with
      | false => rfl
      | true => simp only [if_true, List.length_singleton]; omega

theorem Paced.rounds {interval : Span} {s : Timed W} (hclock : source.clock.Steady)
    (hgrab : ∀ timeout, source.clock.Advances fun w => (source.grab timeout w).2)
    (h : Paced source interval p s) (n : Nat) :
    Paced source interval (Pipeline.rounds source n p s.world).2.1
      (Pipeline.rounds source.timed n (p.timed source.clock) s).2.2 := by
  induction n generalizing p s with
  | zero => exact h
  | succ n ih =>
      have hstep := ih (h.step hclock hgrab)
      simp only [Pipeline.rounds, step_timed] at hstep ⊢
      exact hstep

end Pipeline

/-! ## The publishing side -/

namespace Publication

variable {S : Type} {t : Track S} {clock : Clock S} {interval : Span} {p : Publication S}

/-- A publishing side that has kept the pace so far. -/
structure Paced (clock : Clock S) (interval : Span) (p : Publication S) : Prop where
  chain : p.taken.IsChain fun a b => a + interval ≤ b
  past : ∀ a ∈ p.taken.getLast?, a + interval ≤ clock.time p.side.world
  count : p.taken.length = p.side.captures.length

theorem Paced.take (hclock : clock.Steady)
    (hcapture : ∀ f, clock.Advances fun s => (t.capture f s).2) (h : Paced clock interval p) :
    Paced clock interval (p.take t clock (some ⟨interval⟩)) := by
  rcases hwaiting : p.queue.waiting with _ | ⟨f, rest⟩
  · rwa [take_of_nil hwaiting]
  · obtain ⟨accepted, hpass, -⟩ :=
      t.publish_noted_singleton clock (some ⟨interval⟩) f p.side
    rw [take_of_cons hwaiting, hpass]
    refine ⟨?_, ?_, ?_⟩
    · rw [List.isChain_append]
      refine ⟨h.chain, List.isChain_singleton _, ?_⟩
      intro a ha b hb
      obtain rfl : clock.time p.side.world = b := by simpa using hb
      exact h.past a ha
    · intro a ha
      obtain rfl : clock.time p.side.world = a := by simpa using ha
      have hcame : clock.time p.side.world ≤
          clock.time (t.capture (.ofFrame f) (clock.now p.side.world).2).2 := by
        rw [← hclock.time_now]
        exact hcapture _ _
      exact (Governor.waited_settle hclock interval hcame).apart
    · rw [List.length_append, List.length_append, h.count]
      rfl

theorem Paced.move (hclock : clock.Steady)
    (hcapture : ∀ f, clock.Advances fun s => (t.capture f s).2) (h : Paced clock interval p)
    (m : PublisherMove) : Paced clock interval (p.move t clock (some ⟨interval⟩) m) := by
  cases m with
  | offer f => exact ⟨h.chain, h.past, h.count⟩
  | take => exact h.take hclock hcapture
  | wait span =>
      refine ⟨h.chain, ?_, h.count⟩
      intro a ha
      -- An idle publishing side comes to its next frame only later.
      have hslept := hclock.time_sleep span p.side.world
      exact Nat.le_trans (h.past a ha) (Nat.le_trans (Nat.le_add_right _ _) hslept)

theorem Paced.run (hclock : clock.Steady)
    (hcapture : ∀ f, clock.Advances fun s => (t.capture f s).2) (h : Paced clock interval p)
    (moves : List PublisherMove) :
    Paced clock interval (p.run t clock (some ⟨interval⟩) moves) := by
  induction moves generalizing p with
  | nil => exact h
  | cons m rest ih => exact ih (h.move hclock hcapture m)

end Publication

/-! ## Both loops -/

/-- A loop whose governor asks for an interval between deliveries goes through any
number of rounds, in a world where nothing turns the clock back. The first delivery
starts when its frame comes in, and every other one an interval after the one
before or when its frame comes in, whichever is later; rounds without a frame in
between are but their grabs. A publishing side with such a governor takes each frame
an interval after the one before at least. Where sleeps may be too long, the interval
is still kept, and no delivery waits that comes late enough. -/
theorem rounds_keep_pace {W S : Type} (source : FrameSource W) (p : Pipeline W)
    (interval : Span) (w : W) (n : Nat) (t : Track S) (clock : Clock S) (depth : Nat) (s : S)
    (moves : List PublisherMove) (hclock : source.clock.Steady)
    (hgrab : ∀ timeout, source.clock.Advances fun w => (source.grab timeout w).2)
    (hconsumers : ∀ x ∈ p.consumers, ∀ f i,
      source.clock.Advances fun w => (x.onFrame f i w).2)
    (hgovernor : p.governor = some ⟨interval⟩) (hfresh : p.lastDelivery = none)
    (hsteady : clock.Steady) (hcapture : ∀ f, clock.Advances fun s => (t.capture f s).2) :
    let plain := p.rounds source n w
    let watched := (p.timed source.clock).rounds source.timed n { world := w }
    let ds := watched.2.2.deliveries
    let q := ((Publication.new depth s).run t clock (some ⟨interval⟩) moves).finish t clock
      (some ⟨interval⟩)
    (watched.1 = plain.1 ∧ watched.2.1 = plain.2.1.timed source.clock ∧
      watched.2.2.world = plain.2.2 ∧ ds.length = plain.1.countP delivers) ∧
    ((∀ d ∈ ds.head?, d.started = d.arrived) ∧
      ds.IsChain fun d e => Waited source.clock interval d.started e.arrived e.started) ∧
    (∀ (p : Pipeline W) (w : W), delivers (p.step source w).1 = false →
      (p.step source w).2 = (p, (source.grab p.grabTimeout w).2)) ∧
    q.taken.length = q.accepted.length ∧ q.taken.IsChain fun a b => a + interval ≤ b := by
  intro plain watched ds q
  have hstart : Pipeline.Paced source interval p { world := w } :=
    ⟨hgovernor, hconsumers, hfresh, by simp, by simp, List.isChain_nil⟩
  have hpaced := hstart.rounds hclock hgrab n
  obtain ⟨hanswers, hp, hworld, hlength⟩ := Pipeline.rounds_timed source n p { world := w }
  have hq : Publication.Paced clock interval q := by
    refine Publication.Paced.run hsteady hcapture (Publication.Paced.run hsteady hcapture ?_ _) _
    exact ⟨List.isChain_nil, by simp [Publication.new], rfl⟩
  have hbooks : Publication.Balanced depth q :=
    ((Publication.balanced_new depth s).run moves).run _
  have hdone : q.queue.waiting = [] := by
    rw [(Publication.finish_eq ..).1]
  refine ⟨⟨hanswers, hp, hworld, ?_⟩, ⟨hpaced.first, hpaced.chain⟩, ?_, ?_, hq.chain⟩
  · rw [hlength]
    exact Nat.zero_add _
  · intro p w hround
    exact Pipeline.step_of_not_delivers hround
  · rw [hq.count, (hbooks.shows hdone).length_eq]

/-- Of five rounds the second has no frame, the fourth begins too early for its
delivery and the last one late; and two frames are published. -/
theorem rounds_keep_pace_scripted :
    let f : Frame := ⟨1, 1, .gray8, #[7], 0, 0⟩
    let clock : Clock Nat := ⟨fun w => (w, w), fun span w => w + span, fun _ _ => 0⟩
    let source : FrameSource Nat := {
      grab := fun _ w =>
        if w = 4 then (.error (.timeout 5), 9) else (.ok f, if w = 24 then 64 else w + 3)
      clock
      stopped := fun _ => false }
    let p : Pipeline Nat := {
      consumers := [⟨"slow", fun _ _ w => (.ok (), w + 1)⟩]
      governor := some ⟨10⟩ }
    let ds := ((p.timed clock).rounds source.timed 5 { world := 0 }).2.2.deliveries
    let t : Track Nat := ⟨"slow", fun _ s => (.ok (), s + 2)⟩
    let q := ((Publication.new 2 0).run t clock (some ⟨10⟩)
      [.offer f, .offer f, .take, .wait 5]).finish t clock (some ⟨10⟩)
    ds = [⟨3, 3⟩, ⟨12, 13⟩, ⟨17, 23⟩, ⟨64, 64⟩] ∧
      (ds.IsChain fun d e => Waited clock 10 d.started e.arrived e.started) ∧
      q.taken = [0, 15] ∧ q.taken.IsChain fun a b => a + 10 ≤ b := by
  intro f clock source p ds t q
  have hsteady : clock.Steady := ⟨fun _ => rfl, fun _ _ => Nat.le_refl _⟩
  have hgrab : ∀ timeout, clock.Advances fun w => (source.grab timeout w).2 := by
    intro timeout w
    show w ≤ (if w = 4 then (_, 9) else (_, if w = 24 then 64 else w + 3) : _ × Nat).2
    split
    · omega
    · dsimp only
      split <;> omega
  have hconsumers : ∀ x ∈ p.consumers, ∀ f i, clock.Advances fun w => (x.onFrame f i w).2 := by
    intro x hx f i w
    obtain rfl := List.mem_singleton.1 hx
    exact Nat.le_add_right w 1
  have hcapture : ∀ f, clock.Advances fun s => (t.capture f s).2 := fun _ s => Nat.le_add_right s 2
  obtain ⟨-, ⟨-, hchain⟩, -, -, htaken⟩ := rounds_keep_pace source p 10 0 5 t clock 2 0
    [.offer f, .offer f, .take, .wait 5] hsteady hgrab hconsumers rfl rfl hsteady hcapture
  exact ⟨by decide, hchain, by decide, htaken⟩

end FrameGrabber
