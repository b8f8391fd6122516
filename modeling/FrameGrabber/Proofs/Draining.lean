import FrameGrabber.Proofs.Circulation
import FrameGrabber.Proofs.Reclaiming

/-!
# A drain accounts for every buffer

The loop that drains a stream has no bound of its own. It is `Drains` here: pass
after pass until a flush leaves nothing outside, or a look at the clock says that it
is too late. `drain` counts passes only because it has to stop somewhere, and where
the clock passes the deadline in some pass, more passes than that one change
nothing.

The stream may give anything back, any number of times. What counts is the ledger,
and of all that came back it knows just which ids of its ring were among it: that is
the invariant, and a buffer that comes again, or is not of the ring, leaves it as it
was. No pass puts a buffer on the stream, so the record of a drain has only flushes
and waits in it.
-/

namespace FrameGrabber

/-- The ids of the buffers that the stream handed out. -/
def Passing.handedOut : Passing → List BufferId
  | given _ => []
  | taken r => r.toOption.toList.map (·.id)
  | flushed bs => bs.map (·.id)

/-! ## The ledger while buffers come back -/

namespace Pool

/-- The ledger of a ring that was all outside, after these ids came back. -/
structure Returned (g : UInt32) (n : Nat) (back : List BufferId) (p : Pool) : Prop where
  generation : p.generation = g
  slots_eq : p.slots = (List.range n).map fun i => if ⟨g, i⟩ ∈ back then .held else .queued

variable {g : UInt32} {n : Nat} {back : List BufferId} {p : Pool}

theorem Full.returned (h : p.Full n) (hg : p.generation = g) : p.Returned g n [] := by
  refine ⟨hg, ?_⟩
  rw [h]
  simp [List.map_const']

theorem Returned.state?_eq (h : p.Returned g n back) {i : Nat} (hi : i < n) :
    p.state? ⟨g, i⟩ = some (if ⟨g, i⟩ ∈ back then .held else .queued) := by
  rw [state?, if_pos h.generation.symm, h.slots_eq]
  simp [hi]

theorem Returned.mem_of_state? (h : p.Returned g n back) {id : BufferId}
    (hs : p.state? id = some .queued) :
    id.generation = g ∧ id.index < n ∧ id ∉ back := by
  obtain ⟨hg, hslot⟩ := state?_eq_some_iff.1 hs
  obtain ⟨hi, -⟩ := List.getElem?_eq_some_iff.1 hslot
  rw [h.generation] at hg
  rw [h.slots_eq, List.length_map, List.length_range] at hi
  refine ⟨hg, hi, fun hmem => ?_⟩
  rcases id with ⟨_, i⟩
  subst hg
  rw [h.state?_eq hi, if_pos hmem] at hs
  cases hs

/-- A buffer that came back leaves the ledger knowing that it did, whatever its id. -/
theorem Returned.reclaim (h : p.Returned g n back) (b : Buffer) :
    (p.reclaim b).Returned g n (back ++ [b.id]) := by
  by_cases hs : p.state? b.id = some .queued
  · obtain ⟨hg, hi, -⟩ := h.mem_of_state? hs
    rw [Pool.reclaim, checkOut_eq_ok hs]
    refine ⟨h.generation, ?_⟩
    apply List.ext_getElem?
    intro i
    rw [List.getElem?_set, h.slots_eq]
    by_cases hindex : b.id.index = i
    · have hid : (⟨g, i⟩ : BufferId) = b.id := by rw [← hg, ← hindex]
      have hlt : i < n := hindex ▸ hi
      simp [hindex, hlt, hid]
    · have hid : (⟨g, i⟩ : BufferId) ≠ b.id := fun heq => hindex (by rw [← heq])
      by_cases hi : i < n <;> simp [hindex, hi, hid]
  · obtain ⟨e, he⟩ := checkOut_eq_error hs
    rw [Pool.reclaim, he]
    refine ⟨h.generation, h.slots_eq.trans (List.map_congr_left fun i hi => ?_)⟩
    by_cases hid : (⟨g, i⟩ : BufferId) = b.id
    -- The slot of this buffer is held already, so its id came back before.
    · have hheld : (⟨g, i⟩ : BufferId) ∈ back := Classical.byContradiction fun hout => by
        rw [← hid, h.state?_eq (List.mem_range.1 hi), if_neg hout] at hs
        exact hs rfl
      simp [hheld]
    · simp [hid]

theorem Returned.reclaimAll (h : p.Returned g n back) (bs : List Buffer) :
    (bs.foldl Pool.reclaim p).Returned g n (back ++ bs.map (·.id)) := by
  induction bs generalizing p back with
  | nil => simpa using h
  | cons b rest ih =>
      have hrest := ih (h.reclaim b)
      rwa [List.append_assoc] at hrest

theorem Returned.held_eq (h : p.Returned g n back) :
    p.held = (ids g n).countP (· ∈ back) := by
  rw [held, h.slots_eq, ids, List.count, List.countP_map, List.countP_map]
  refine List.countP_congr fun i _ => ?_
  by_cases hmem : (⟨g, i⟩ : BufferId) ∈ back <;> simp [hmem]

theorem Returned.held_add_queued (h : p.Returned g n back) : p.held + p.queued = n := by
  rw [Pool.held_add_queued, size, h.slots_eq, List.length_map, List.length_range]

/-- Nothing is outside if all ids of the ring came back. -/
theorem Returned.queued_eq_zero (h : p.Returned g n back) (hall : ∀ id ∈ ids g n, id ∈ back) :
    p.queued = 0 := by
  have hheld : p.held = n := by
    rw [h.held_eq, List.countP_eq_length.2 (by simpa using hall), ids_length]
  have htotal := h.held_add_queued
  omega

end Pool

namespace Engine

variable {W : Type} (ch : Channel W) (clock : Clock W) (deadline : Instant)

/-! ## The loop -/

/-- A drain, as many passes as it takes. -/
inductive Drains : Pool → W → Pool → W → Prop
  /-- All buffers are back after a flush. -/
  | back {p : Pool} {w w₁ : W} {bs : List Buffer} (hflush : ch.flush w = (bs, w₁))
      (hback : (bs.foldl Pool.reclaim p).queued = 0) :
      Drains p w (bs.foldl Pool.reclaim p) w₁
  /-- Some are not, and it is too late to wait for them. -/
  | late {p : Pool} {w w₁ w₂ : W} {bs : List Buffer} {now : Instant}
      (hflush : ch.flush w = (bs, w₁)) (hout : (bs.foldl Pool.reclaim p).queued ≠ 0)
      (hnow : clock.now w₁ = (now, w₂)) (hlate : deadline ≤ now) :
      Drains p w (bs.foldl Pool.reclaim p) w₂
  /-- Some are not. One may come in a while, and then there is another pass. -/
  | again {p p' : Pool} {w w₁ w₂ w₃ w' : W} {bs : List Buffer} {now : Instant}
      {r : Except CameraError Buffer} (hflush : ch.flush w = (bs, w₁))
      (hout : (bs.foldl Pool.reclaim p).queued ≠ 0) (hnow : clock.now w₁ = (now, w₂))
      (hearly : now < deadline)
      (hwait : ch.dequeue (min drainPoll (deadline - now)) w₂ = (r, w₃))
      (hrest : Drains (r.toOption.toList.foldl Pool.reclaim (bs.foldl Pool.reclaim p)) w₃
        p' w') :
      Drains p w p' w'

/-- The world at the next pass, if there is one. -/
def nextPass (w : W) : W :=
  let (_, w) := ch.flush w
  let (now, w) := clock.now w
  (ch.dequeue (min drainPoll (deadline - now)) w).2

/-- What the clock shows in a pass, the first having number zero, if it comes to that. -/
def reading : Nat → W → Instant
  | 0, w => (clock.now (ch.flush w).2).1
  | k + 1, w => reading k (nextPass ch clock deadline w)

variable {ch clock deadline}

section Passes

variable {p : Pool} {w w₁ w₂ w₃ : W} {bs : List Buffer} {now : Instant}
  {r : Except CameraError Buffer} {passes : Nat}

theorem drain_of_back (hpasses : 0 < passes) (hflush : ch.flush w = (bs, w₁))
    (hback : (bs.foldl Pool.reclaim p).queued = 0) :
    drain ch clock deadline passes p w = (bs.foldl Pool.reclaim p, w₁) := by
  obtain ⟨passes, rfl⟩ := Nat.exists_eq_add_one_of_ne_zero (Nat.ne_of_gt hpasses)
  simp only [drain, hflush, hback, if_true]

theorem drain_of_late (hpasses : 0 < passes) (hflush : ch.flush w = (bs, w₁))
    (hout : (bs.foldl Pool.reclaim p).queued ≠ 0) (hnow : clock.now w₁ = (now, w₂))
    (hlate : deadline ≤ now) :
    drain ch clock deadline passes p w = (bs.foldl Pool.reclaim p, w₂) := by
  obtain ⟨passes, rfl⟩ := Nat.exists_eq_add_one_of_ne_zero (Nat.ne_of_gt hpasses)
  simp only [drain, hflush, hout, if_false, hnow, hlate, if_true]

theorem drain_of_early (hflush : ch.flush w = (bs, w₁))
    (hout : (bs.foldl Pool.reclaim p).queued ≠ 0) (hnow : clock.now w₁ = (now, w₂))
    (hearly : ¬deadline ≤ now)
    (hwait : ch.dequeue (min drainPoll (deadline - now)) w₂ = (r, w₃)) :
    drain ch clock deadline (passes + 1) p w =
      drain ch clock deadline passes
        (r.toOption.toList.foldl Pool.reclaim (bs.foldl Pool.reclaim p)) w₃ := by
  simp only [drain, hflush, hout, if_false, hnow, hearly, hwait]
  cases r <;> rfl

end Passes

/-- If the clock passes the deadline in some pass, the drain ends, and `drain` comes to the
same as soon as it may make that many passes. -/
theorem exists_drains {k : Nat} {w : W} (hlate : deadline ≤ reading ch clock deadline k w)
    (p : Pool) :
    ∃ p' w', Drains ch clock deadline p w p' w' ∧
      ∀ passes, k < passes → drain ch clock deadline passes p w = (p', w') := by
  induction k generalizing p w with
  | zero =>
      rcases hflush : ch.flush w with ⟨bs, w₁⟩
      rcases hnow : clock.now w₁ with ⟨now, w₂⟩
      have hover : deadline ≤ now := by simpa [reading, hflush, hnow] using hlate
      by_cases hout : (bs.foldl Pool.reclaim p).queued = 0
      · exact ⟨_, _, .back hflush hout, fun _ hpasses => drain_of_back hpasses hflush hout⟩
      · exact ⟨_, _, .late hflush hout hnow hover,
          fun _ hpasses => drain_of_late hpasses hflush hout hnow hover⟩
  | succ k ih =>
      rcases hflush : ch.flush w with ⟨bs, w₁⟩
      rcases hnow : clock.now w₁ with ⟨now, w₂⟩
      rcases hwait : ch.dequeue (min drainPoll (deadline - now)) w₂ with ⟨r, w₃⟩
      by_cases hout : (bs.foldl Pool.reclaim p).queued = 0
      · exact ⟨_, _, .back hflush hout,
          fun _ hpasses => drain_of_back (Nat.zero_lt_of_lt hpasses) hflush hout⟩
      by_cases hover : deadline ≤ now
      · exact ⟨_, _, .late hflush hout hnow hover,
          fun _ hpasses => drain_of_late (Nat.zero_lt_of_lt hpasses) hflush hout hnow hover⟩
      have hnext : deadline ≤ reading ch clock deadline k w₃ := by
        simpa [reading, nextPass, hflush, hnow, hwait] using hlate
      obtain ⟨p', w', hdrains, hdrain⟩ :=
        ih hnext (r.toOption.toList.foldl Pool.reclaim (bs.foldl Pool.reclaim p))
      refine ⟨p', w', .again hflush hout hnow (Nat.lt_of_not_le hover) hwait hdrains, ?_⟩
      intro passes hpasses
      obtain ⟨m, rfl⟩ := Nat.exists_eq_add_one_of_ne_zero (Nat.ne_zero_of_lt hpasses)
      rw [drain_of_early hflush hout hnow hover hwait]
      exact hdrain m (Nat.lt_of_succ_lt_succ hpasses)

/-! ## With the record and without -/

section Recording

variable {v v₁ : Recorded W}

theorem recorded_flush {bs : List Buffer} (h : ch.recorded.flush v = (bs, v₁)) :
    ch.flush v.world = (bs, v₁.world) ∧ v₁.record = v.record ++ [.flushed bs] := by
  cases h
  exact ⟨rfl, rfl⟩

theorem recorded_now {now : Instant} (h : clock.recorded.now v = (now, v₁)) :
    clock.now v.world = (now, v₁.world) ∧ v₁.record = v.record := by
  cases h
  exact ⟨rfl, rfl⟩

theorem recorded_dequeue {timeout : Span} {r : Except CameraError Buffer}
    (h : ch.recorded.dequeue timeout v = (r, v₁)) :
    ch.dequeue timeout v.world = (r, v₁.world) ∧ v₁.record = v.record ++ [.taken r] := by
  cases h
  exact ⟨rfl, rfl⟩

theorem reading_recorded (k : Nat) (v : Recorded W) :
    reading ch.recorded clock.recorded deadline k v =
      reading ch clock deadline k v.world := by
  induction k generalizing v with
  | zero => rfl
  | succ k ih => exact ih _

theorem drain_recorded (passes : Nat) (p : Pool) (v : Recorded W) :
    drain ch clock deadline passes p v.world =
      ((drain ch.recorded clock.recorded deadline passes p v).1,
        (drain ch.recorded clock.recorded deadline passes p v).2.world) := by
  induction passes generalizing p v with
  | zero => rfl
  | succ passes ih =>
      rcases hflush : ch.recorded.flush v with ⟨bs, v₁⟩
      rcases hnow : clock.recorded.now v₁ with ⟨now, v₂⟩
      rcases hwait : ch.recorded.dequeue (min drainPoll (deadline - now)) v₂ with ⟨r, v₃⟩
      have hflushed := (recorded_flush hflush).1
      have hread := (recorded_now hnow).1
      have htaken := (recorded_dequeue hwait).1
      by_cases hout : (bs.foldl Pool.reclaim p).queued = 0
      · rw [drain_of_back (Nat.succ_pos _) hflush hout,
          drain_of_back (Nat.succ_pos _) hflushed hout]
      by_cases hover : deadline ≤ now
      · rw [drain_of_late (Nat.succ_pos _) hflush hout hnow hover,
          drain_of_late (Nat.succ_pos _) hflushed hout hread hover]
      · rw [drain_of_early hflush hout hnow hover hwait,
          drain_of_early hflushed hout hread hover htaken]
        exact ih _ _

theorem stop_recorded (e : Engine) (wait : Span) (v : Recorded W) :
    e.stop ch clock wait v.world =
      ((e.stop ch.recorded clock.recorded wait v).1,
        (e.stop ch.recorded clock.recorded wait v).2.world) := by
  rcases hnow : clock.recorded.now v with ⟨now, v₁⟩
  have hread := (recorded_now hnow).1
  have hpatience : clock.recorded.patience wait v₁ = clock.patience wait v₁.world := rfl
  simp only [stop, hnow, hread, hpatience, drain_recorded]

end Recording

/-! ## What a drain comes to -/

/-- What a drain did to a ring that was all outside, and to the stream. -/
structure Accounts (ch : Channel W) (clock : Clock W) (deadline : Instant) (g : UInt32)
    (n : Nat) (v v' : Recorded W) (report : DrainReport) : Prop where
  /-- Every buffer counts as the one or the other. -/
  total : report.reclaimed + report.abandoned = n
  /-- Nothing was put on the stream, and an id of the ring is counted if it came back. -/
  returned : ∃ passed, v'.record = v.record ++ passed ∧ (∀ b, Passing.given b ∉ passed) ∧
    report.reclaimed = (Pool.ids g n).countP (· ∈ passed.flatMap Passing.handedOut)
  /-- If some are missing, the last thing was to see that it is too late. -/
  punctual : report.abandoned = 0 ∨ ∃ w now, clock.now w = (now, v'.world) ∧ deadline ≤ now
  /-- If the first flush brings all there was nothing else. -/
  at_once : (∀ id ∈ Pool.ids g n, id ∈ (ch.flush v.world).1.map (·.id)) →
    v'.record = v.record ++ [.flushed (ch.flush v.world).1]

/-- The ledger at the end knows what came back, in whatever passes. -/
theorem Drains.returned {p p' : Pool} {v v' : Recorded W} {g : UInt32} {n : Nat}
    {back : List BufferId} (hd : Drains ch.recorded clock.recorded deadline p v p' v')
    (hp : p.Returned g n back) :
    ∃ passed, v'.record = v.record ++ passed ∧ (∀ b, Passing.given b ∉ passed) ∧
      p'.Returned g n (back ++ passed.flatMap Passing.handedOut) := by
  induction hd generalizing back with
  | @back p v v₁ bs hflush hback =>
      refine ⟨[.flushed bs], (recorded_flush hflush).2, by simp, ?_⟩
      simpa [Passing.handedOut] using hp.reclaimAll bs
  | @late p v v₁ v₂ bs now hflush hout hnow hlate =>
      refine ⟨[.flushed bs], ?_, by simp, ?_⟩
      · rw [(recorded_now hnow).2, (recorded_flush hflush).2]
      · simpa [Passing.handedOut] using hp.reclaimAll bs
  | @again p p' v v₁ v₂ v₃ v' bs now r hflush hout hnow hearly hwait hrest ih =>
      obtain ⟨passed, hrecord, hgiven, hreturned⟩ :=
        ih ((hp.reclaimAll bs).reclaimAll r.toOption.toList)
      refine ⟨.flushed bs :: .taken r :: passed, ?_, by simpa using hgiven, ?_⟩
      · rw [hrecord, (recorded_dequeue hwait).2, (recorded_now hnow).2,
          (recorded_flush hflush).2]
        simp
      · simpa [Passing.handedOut] using hreturned

theorem Drains.punctual {p p' : Pool} {w w' : W} (hd : Drains ch clock deadline p w p' w') :
    p'.queued = 0 ∨ ∃ u now, clock.now u = (now, w') ∧ deadline ≤ now := by
  induction hd with
  | back hflush hback => exact .inl hback
  | late hflush hout hnow hlate => exact .inr ⟨_, _, hnow, hlate⟩
  | again hflush hout hnow hearly hwait hrest ih => exact ih

/-- A drain whose first flush brings all is that flush. -/
theorem Drains.of_back {p p' : Pool} {w w' : W} (hd : Drains ch clock deadline p w p' w')
    (hback : ((ch.flush w).1.foldl Pool.reclaim p).queued = 0) : w' = (ch.flush w).2 := by
  cases hd with
  | back hflush _ => rw [hflush]
  | late hflush hout | again hflush hout =>
      rw [hflush] at hback
      exact absurd hback hout

theorem Drains.accounts {p p' : Pool} {v v' : Recorded W} {g : UInt32} {n : Nat}
    (hd : Drains ch.recorded clock.recorded deadline p v p' v') (hfull : p.Full n)
    (hg : p.generation = g) : Accounts ch clock deadline g n v v' ⟨p'.held, p'.queued⟩ := by
  have hbegun := hfull.returned hg
  obtain ⟨passed, hrecord, hgiven, hreturned⟩ := hd.returned hbegun
  refine ⟨hreturned.held_add_queued, ⟨passed, hrecord, hgiven, hreturned.held_eq⟩, ?_, ?_⟩
  · rcases hd.punctual with hback | ⟨u, now, hnow, hlate⟩
    · exact .inl hback
    · exact .inr ⟨u.world, now, (recorded_now hnow).1, hlate⟩
  · intro hall
    have hback := (hbegun.reclaimAll (ch.flush v.world).1).queued_eq_zero hall
    rw [hd.of_back hback]
    rfl

/-- A ring of any size that was put on a stream and used is drained until a deadline. If
the clock passes the deadline in some pass, the drain ends: it leaves before that only
when all of the ring is back, a buffer that came back is reclaimed and counts once,
strangers count for nothing, the others are abandoned, and no buffer was put on the
stream meanwhile. If the first flush brings them all, nobody waits. Stopping, as long as
its patience reaches that pass, is this drain, with the record and without. -/
theorem stop_accounts (ch : Channel W) (clock : Clock W) (stream : StreamId)
    (geometry : Geometry) (counters : Counters) (g : Generations) (w : W) {n size : Nat}
    (hn : 0 < n) (hsize : 0 < size) :
    ∃ e g' v, start ch stream n size geometry counters g w = (.ok e, g', v.world) ∧
      start ch.recorded stream n size geometry counters g ⟨w, []⟩ = (.ok e, g', v) ∧
      ∀ timeouts wait k,
        let run := grabs ch.recorded clock.recorded timeouts e v
        let begun := clock.recorded.now run.2
        begun.1 + wait ≤ reading ch clock (begun.1 + wait) k begun.2.world →
        ∃ p v',
          Drains ch.recorded clock.recorded (begun.1 + wait) run.1.pool begun.2 p v' ∧
          Accounts ch clock (begun.1 + wait) g.next n begun.2 v' ⟨p.held, p.queued⟩ ∧
          (k ≤ clock.patience wait begun.2.world →
            run.1.stop ch.recorded clock.recorded wait run.2 = (⟨p.held, p.queued⟩, v') ∧
            run.1.stop ch clock wait run.2.world = (⟨p.held, p.queued⟩, v'.world)) := by
  obtain ⟨e, g', v, hplain, hstart, -, hmoored⟩ :=
    start_moored ch stream geometry counters g w hn hsize
  refine ⟨e, g', v, hplain, hstart, fun timeouts wait k => ?_⟩
  intro run begun hlate
  have hrun : Moored g.next n run.1 run.2 := hmoored.grabs ch clock timeouts
  rw [← reading_recorded] at hlate
  obtain ⟨p, v', hdrains, hdrain⟩ := exists_drains hlate run.1.pool
  refine ⟨p, v', hdrains, hdrains.accounts hrun.ring hrun.generation, fun hpatience => ?_⟩
  have hstop : run.1.stop ch.recorded clock.recorded wait run.2 =
      (⟨p.held, p.queued⟩, v') := by
    have hdrained := hdrain (clock.patience wait begun.2.world + 1)
      (Nat.lt_succ_of_le hpatience)
    have hdef : run.1.stop ch.recorded clock.recorded wait run.2 =
        let out := drain ch.recorded clock.recorded (begun.1 + wait)
          (clock.patience wait begun.2.world + 1) run.1.pool begun.2
        (⟨out.1.held, out.1.queued⟩, out.2) := rfl
    rw [hdef, hdrained]
  exact ⟨hstop, by rw [stop_recorded, hstop]⟩

/-- A stream over a counter of calls. Up to the second call a flush gives one buffer of
the ring twice, one of an older ring, and one from beyond the ring; later it gives
nothing, and a wait brings the first buffer once more. -/
def unrulyChannel : Channel Nat where
  enqueue _ w := w
  dequeue _ w := (.ok (.new ⟨1, 0⟩ 4), w + 1)
  flush w :=
    (if w < 2 then
      [.new ⟨1, 0⟩ 4, .new ⟨1, 0⟩ 4, .new ⟨0, 1⟩ 4, .new ⟨1, 7⟩ 4]
    else [], w + 1)

/-- Each call takes one unit of time. -/
def countingClock : Clock Nat where
  now w := (w, w + 1)
  sleep span w := w + span
  patience span _ := span

/-- Of two buffers the one comes back, four times, and the other never. -/
theorem stop_accounts_unruly :
    0 < 2 ∧ 0 < 4 ∧ ∃ e g' v,
      start unrulyChannel.recorded 0 2 4 default {} {} ⟨0, []⟩ = (.ok e, g', v) ∧
      let begun := countingClock.recorded.now v
      begun.1 + 5 ≤ reading unrulyChannel countingClock (begun.1 + 5) 1 begun.2.world ∧
        1 ≤ countingClock.patience 5 begun.2.world ∧
        ∃ p v', Drains unrulyChannel.recorded countingClock.recorded (begun.1 + 5) e.pool
            begun.2 p v' ∧
          Accounts unrulyChannel countingClock (begun.1 + 5) 1 2 begun.2 v' ⟨1, 1⟩ ∧
          e.stop unrulyChannel countingClock 5 v.world = (⟨1, 1⟩, v'.world) := by
  obtain ⟨e, g', v, -, hstart, hrun⟩ :=
    stop_accounts unrulyChannel countingClock 0 default {} {} 0 (by decide : 0 < 2)
      (by decide : 0 < 4)
  refine ⟨by decide, by decide, e, g', v, hstart, ?_⟩
  have hstopped := hrun [] 5 1
  cases hstart
  obtain ⟨p, v', hdrains, haccounts, hstop⟩ := hstopped (by decide)
  obtain ⟨-, hplain⟩ := hstop (by decide)
  have hreport : (⟨p.held, p.queued⟩ : DrainReport) = ⟨1, 1⟩ :=
    (congrArg Prod.fst hplain).symm.trans (by decide)
  rw [hreport] at haccounts hplain
  exact ⟨by decide, by decide, p, v', hdrains, haccounts, hplain⟩

end Engine
end FrameGrabber
