import FrameGrabber.Proofs.EngineFrame
import FrameGrabber.Rehearsal.Script
import FrameGrabber.Transport.Custody

/-!
# The buffers of a running ring go round

Nothing is assumed of the stream here: it may hand out any buffer in any state,
the same one twice, or one that never was on it. The ledger of the engine is
full between two grabs all the same, because a grab puts back exactly what it
took out; what it put on the stream meanwhile can be read off the record. That
part needs no induction beyond the one that says a step keeps the ledger. The
record is an onlooker: a run over the stream itself is the same one without it.

Where the buffers really are is another matter, and there the stream has to be
honest. If it hands out only what it has, then a grab takes one id from it and
gives the same id back, so the stream has the ids of the ring between two grabs,
each once.
-/

namespace FrameGrabber

namespace Engine

variable {W : Type}

/-- What goes back to the stream after a wait that brought `r`: a buffer of the
ring, with its last frame forgotten. -/
def requeued (ring : List BufferId) : Except CameraError Buffer → List Passing
  | .ok b =>
    if b.id ∈ ring then [.given { b with length := 0, status := .success, info := none }]
    else []
  | .error _ => []

/-- The ledger of a ring of `n` buffers that are all on the stream, and where
they are if the stream is honest. -/
structure Circulates (g : UInt32) (n : Nat) (e : Engine) (v : Recorded W) : Prop where
  size_eq : e.pool.size = n
  queued_eq : e.pool.queued = n
  held_eq : e.pool.held = 0
  custody_perm : HonestFrom [] v.record → (custody v.record).Perm (Pool.ids g n)

/-- What a grab with the outcome `out` does to the stream. -/
structure Passes (ch : Channel W) (clock : Clock W) (ring : List BufferId) (timeout : Span)
    (e : Engine) (v : Recorded W) (out : Except CameraError Frame × Engine × Recorded W) :
    Prop where
  /-- Without the record the grab is the same. -/
  plain : e.grab ch clock timeout v.world = (out.1, out.2.1, out.2.2.world)
  /-- One buffer is waited for, and at most one goes back. -/
  record_eq : out.2.2.record = v.record ++
    .taken (ch.dequeue timeout v.world).1 :: requeued ring (ch.dequeue timeout v.world).1
  /-- A buffer that is not of the ring is dropped unseen. -/
  foreign : ∀ b w, ch.dequeue timeout v.world = (.ok b, w) → b.id ∉ ring →
    out = (.error (.acquisition (.buffer .aborted)), e.dropFrame,
      ⟨w, v.record ++ [.taken (.ok b)]⟩)

/-- The ledger is full, and an honest stream has the ring. -/
structure Moored (g : UInt32) (n : Nat) (e : Engine) (v : Recorded W) : Prop where
  generation : e.pool.generation = g
  ring : e.pool.Full n
  custody_perm : HonestFrom [] v.record → (custody v.record).Perm (Pool.ids g n)

variable {g : UInt32} {n : Nat} {e : Engine} {v : Recorded W}

theorem Moored.circulates (h : Moored g n e v) : Circulates g n e v where
  size_eq := h.ring.size_eq
  queued_eq := h.ring.queued_eq
  held_eq := h.ring.held_eq
  custody_perm := h.custody_perm

/-! ## With the record and without -/

theorem grab_recorded (ch : Channel W) (clock : Clock W) (e : Engine) (timeout : Span)
    (v : Recorded W) :
    e.grab ch clock timeout v.world =
      let out := e.grab ch.recorded clock.recorded timeout v
      (out.1, out.2.1, out.2.2.world) := by
  simp only [grab_eq, Channel.recorded_dequeue, Channel.recorded_enqueue,
    Clock.recorded_now]
  rcases ch.dequeue timeout v.world with ⟨err | b, w⟩
  · cases err <;> rfl
  · simp only
    split
    · split
      · rfl
      · cases e.decode b (clock.now w).1 <;> rfl
    · rfl

theorem grabs_recorded (ch : Channel W) (clock : Clock W) (timeouts : List Span)
    (e : Engine) (v : Recorded W) :
    grabs ch clock timeouts e v.world =
      ((grabs ch.recorded clock.recorded timeouts e v).1,
        (grabs ch.recorded clock.recorded timeouts e v).2.world) := by
  induction timeouts generalizing e v with
  | nil => rfl
  | cons timeout rest ih =>
      have hgrab := grab_recorded ch clock e timeout v
      simp only [grabs, hgrab]
      exact ih _ _

theorem enqueues_recorded (ch : Channel W) (bs : List Buffer) (x : Recorded W) :
    bs.foldl (fun x b => ch.recorded.enqueue b x) x =
      ⟨bs.foldl (fun w b => ch.enqueue b w) x.world, x.record ++ bs.map .given⟩ := by
  induction bs generalizing x with
  | nil => simp
  | cons b rest ih =>
      rw [List.foldl_cons, ih]
      simp [Channel.recorded_enqueue]

/-! ## One grab -/

theorem Moored.passes (ch : Channel W) (clock : Clock W) (h : Moored g n e v)
    (timeout : Span) :
    Passes ch clock (Pool.ids g n) timeout e v
      (e.grab ch.recorded clock.recorded timeout v) := by
  have hring : ∀ id, e.pool.state? id = some .queued ↔ id ∈ Pool.ids g n := by
    intro id
    rw [h.ring.state?_eq_queued_iff, h.generation]
  refine ⟨grab_recorded ch clock e timeout v, ?_, fun b w hb hforeign => ?_⟩
  · rw [grab_eq, Channel.recorded_dequeue]
    rcases ch.dequeue timeout v.world with ⟨err | b, w⟩
    · cases err <;> rfl
    · simp only [hring, requeued]
      by_cases hmem : b.id ∈ Pool.ids g n
      · rw [if_pos hmem, if_pos hmem]
        split
        · exact List.append_assoc ..
        · cases e.decode b _ <;> exact List.append_assoc ..
      · rw [if_neg hmem, if_neg hmem]
  · simp only [grab_eq, Channel.recorded_dequeue, hb, hring, if_neg hforeign]

/-! ## Where the buffers are -/

theorem custody_append (record more : List Passing) :
    custody (record ++ more) = more.foldl Passing.custody (custody record) :=
  List.foldl_append ..

theorem honestFrom_append {ids : List BufferId} {record more : List Passing} :
    HonestFrom ids (record ++ more) ↔
      HonestFrom ids record ∧ HonestFrom (record.foldl Passing.custody ids) more := by
  induction record generalizing ids with
  | nil => simp [HonestFrom]
  | cons p rest ih => simp only [List.cons_append, HonestFrom, List.foldl_cons, ih, and_assoc]

/-- Queueing buffers gives them to the stream. -/
theorem custody_given (bs : List Buffer) (ids : List BufferId) :
    (bs.map Passing.given).foldl Passing.custody ids = (bs.map (·.id)).reverse ++ ids := by
  induction bs generalizing ids with
  | nil => rfl
  | cons b rest ih =>
      rw [List.map_cons, List.foldl_cons, ih]
      simp [Passing.custody]

theorem Moored.grab (ch : Channel W) (clock : Clock W) (h : Moored g n e v)
    (timeout : Span) :
    Moored g n (e.grab ch.recorded clock.recorded timeout v).2.1
      (e.grab ch.recorded clock.recorded timeout v).2.2 := by
  obtain ⟨-, hpool⟩ := grab_ring ch.recorded clock.recorded e timeout v
  have hrecord := (h.passes ch clock timeout).record_eq
  refine ⟨by rw [hpool, h.generation], by rw [hpool]; exact h.ring, ?_⟩
  rw [hrecord]
  intro hhonest
  obtain ⟨hbefore, htaken, -⟩ := honestFrom_append.1 hhonest
  replace hbefore := h.custody_perm hbefore
  rw [custody_append]
  rcases hd : (ch.dequeue timeout v.world).1 with err | b <;> rw [hd] at htaken
  · exact hbefore
  -- What was handed out is of the ring, and goes back.
  · have hmem : b.id ∈ custody v.record := htaken
    rw [requeued, if_pos (hbefore.mem_iff.1 hmem)]
    exact (List.perm_cons_erase hmem).symm.trans hbefore

/-! ## From the start on -/

/-- A ring that was just queued is on the stream, each buffer given once. -/
theorem start_moored (ch : Channel W) (stream : StreamId) (geometry : Geometry)
    (counters : Counters) (g : Generations) (w : W) {n size : Nat} (hn : 0 < n)
    (hsize : 0 < size) :
    ∃ e g' v, start ch stream n size geometry counters g w = (.ok e, g', v.world) ∧
      start ch.recorded stream n size geometry counters g ⟨w, []⟩ = (.ok e, g', v) ∧
      v.record = (Pool.allocate g n size).1.2.map .given ∧ Moored g.next n e v := by
  rw [start_eq, start_eq, if_neg (by omega), if_neg (by omega), enqueues_recorded]
  refine ⟨_, _, _, rfl, rfl, List.nil_append _, rfl, rfl, fun _ => ?_⟩
  rw [custody, List.nil_append, custody_given, List.append_nil, Pool.allocate_ids]
  exact List.reverse_perm _

theorem Moored.grabs (ch : Channel W) (clock : Clock W) (h : Moored g n e v)
    (timeouts : List Span) :
    Moored g n (Engine.grabs ch.recorded clock.recorded timeouts e v).1
      (Engine.grabs ch.recorded clock.recorded timeouts e v).2 := by
  induction timeouts generalizing e v with
  | nil => exact h
  | cons timeout rest ih => exact ih (h.grab ch clock timeout)

/-- A ring of some buffers of some size is queued in whole. From then on, after
any grabs and whatever the stream does, the ledger has all of the ring with the
stream, and the next grab puts back just the buffer of the ring that it took. If
the stream hands out only what it has, it has the buffers of the ring, each once. -/
theorem grabs_circulate (ch : Channel W) (clock : Clock W) (stream : StreamId)
    (geometry : Geometry) (counters : Counters) (g : Generations) (w : W) {n size : Nat}
    (hn : 0 < n) (hsize : 0 < size) :
    ∃ e g' v, start ch stream n size geometry counters g w = (.ok e, g', v.world) ∧
      start ch.recorded stream n size geometry counters g ⟨w, []⟩ = (.ok e, g', v) ∧
      v.record = (Pool.allocate g n size).1.2.map .given ∧
      ∀ timeouts timeout,
        let run := grabs ch.recorded clock.recorded timeouts e v
        grabs ch clock timeouts e v.world = (run.1, run.2.world) ∧
          Circulates g.next n run.1 run.2 ∧
          Passes ch clock (Pool.ids g.next n) timeout run.1 run.2
            (run.1.grab ch.recorded clock.recorded timeout run.2) := by
  obtain ⟨e, g', v, hplain, hstart, hrecord, hmoored⟩ :=
    start_moored ch stream geometry counters g w hn hsize
  refine ⟨e, g', v, hplain, hstart, hrecord, fun timeouts timeout => ?_⟩
  have hrun := hmoored.grabs ch clock timeouts
  exact ⟨grabs_recorded ch clock timeouts e v, hrun.circulates, hrun.passes ch clock timeout⟩

/-- A stream that gives a frame, then a buffer that was never on it, then nothing.
It is honest at first and not afterwards. -/
theorem grabs_circulate_scripted :
    0 < 2 ∧ 0 < 4 ∧
    ∃ e g' v, start (Stage.channel 0).recorded 0 2 4 default {} {}
        ⟨{ script := [.frame none none none, .forge 0 4 true], streams := [{}] }, []⟩ =
          (.ok e, g', v) ∧
      v.record = (Pool.allocate {} 2 4).1.2.map .given ∧
      (∀ timeouts timeout,
        let run := grabs (Stage.channel 0).recorded Stage.clock.recorded timeouts e v
        grabs (Stage.channel 0) Stage.clock timeouts e v.world = (run.1, run.2.world) ∧
          Circulates 1 2 run.1 run.2 ∧
          Passes (Stage.channel 0) Stage.clock (Pool.ids 1 2) timeout run.1 run.2
            (run.1.grab (Stage.channel 0).recorded Stage.clock.recorded timeout run.2)) ∧
      HonestFrom [] (grabs (Stage.channel 0).recorded Stage.clock.recorded [5] e v).2.record ∧
      ¬ HonestFrom [] (grabs (Stage.channel 0).recorded Stage.clock.recorded [5, 5] e v).2.record := by
  refine ⟨by decide, by decide, ?_⟩
  obtain ⟨e, g', v, -, hstart, hrecord, hrun⟩ :=
    grabs_circulate (Stage.channel 0) Stage.clock 0 default {} {}
      { script := [.frame none none none, .forge 0 4 true], streams := [{}] }
      (by decide : 0 < 2) (by decide : 0 < 4)
  refine ⟨e, g', v, hstart, hrecord, hrun, ?_⟩
  cases hstart
  decide

end Engine
end FrameGrabber
