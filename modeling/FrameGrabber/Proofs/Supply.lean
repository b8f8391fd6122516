import FrameGrabber.Proofs.Exposure
import FrameGrabber.Proofs.LinkCalls
import FrameGrabber.Proofs.Projection

/-!
# What an engine gets from a simulated camera

An engine that runs over a simulated camera has its whole ring on one stream, and
that stream belongs to the connection it was started on. So what comes out of the
stream are the exposures of one camera with one set of registers, in the order of
their ticks, and a grab answers with the next of them: with a frame decoded from
the picture of its tick, or with the word that it arrived incomplete. Otherwise it
keeps silent, because the wait was too short or because the camera broke down.

The invariant is `Engine.Supplied`. A start establishes it with nothing served
yet, a grab moves one tick from those that wait to those that were served, and
while time passes more ticks join those that wait.
-/

namespace FrameGrabber

/-! ## A stream of a connection -/

namespace Network

variable {c : ConnectionId} {l : Link} {id : StreamId} {ring : List BufferId}
  {served pending : List Nat} {n : Network}

/-- The stream is one of the connection, whose link this is. -/
structure Feeds (c : ConnectionId) (l : Link) (id : StreamId) (ring : List BufferId)
    (served pending : List Nat) (n : Network) : Prop where
  link : n.links[c]? = some l
  stream : ∃ s, n.streams[id]? = some s ∧ s.connection = c ∧
    s.Loaded l.camera l.registers ring served pending

theorem Feeds.advance (h : n.Feeds c l id ring served pending) (until' : Instant) :
    ∃ more, (n.advance until').Feeds c l id ring served (pending ++ more) := by
  obtain ⟨s, hs, hc, hloaded⟩ := h.stream
  obtain ⟨more, hmore⟩ := hloaded.advance until'
  refine ⟨more, h.link, s.advance l.camera l.registers until', ?_, ?_, hmore⟩
  · simp [Network.advance, hs, hc, h.link]
  · rw [SimStream.advance_connection, hc]

theorem Feeds.overlong (h : n.Feeds c l id ring served pending)
    (hbroken : n.broken id = true) : l.registers.payloadSize.toNat < l.registers.pictureSize := by
  obtain ⟨s, hs, -, hloaded⟩ := h.stream
  apply hloaded.overlong
  simpa [broken, hs] using hbroken

/-- The stream with something done to it that leaves it with its connection. -/
theorem Feeds.set (h : n.Feeds c l id ring served pending) {s : SimStream}
    {served' pending' : List Nat} (hc : s.connection = c)
    (hs : s.Loaded l.camera l.registers ring served' pending') :
    Feeds c l id ring served' pending' { n with streams := n.streams.set id s } := by
  obtain ⟨s₀, hs₀, -, -⟩ := h.stream
  obtain ⟨hlt, -⟩ := List.getElem?_eq_some_iff.1 hs₀
  exact ⟨h.link, s, List.getElem?_set_self hlt, hc, hs⟩

theorem Feeds.take (h : n.Feeds c l id ring served pending) :
    (∃ n', n.take id = (none, n') ∧ pending = [] ∧ n'.Feeds c l id ring served []) ∨
      ∃ tick rest b n', n.take id = (some b, n') ∧ pending = tick :: rest ∧
        SimStream.Fits l.registers ring b ∧ l.camera.Developed l.registers tick b ∧
        n'.Feeds c l id ring (served ++ [tick]) rest := by
  obtain ⟨s, hs, hc, hloaded⟩ := h.stream
  unfold Network.take
  rw [hs]
  rcases hloaded.take with ⟨hnone, htake⟩ | ⟨tick, rest, b, s', hpending, htake, hc', hb⟩
  · subst hnone
    simp only [htake]
    exact .inl ⟨_, rfl, trivial, h.set hc hloaded⟩
  · simp only [htake]
    exact .inr ⟨tick, rest, b, _, rfl, hpending, hb.1, hb.2.1, h.set (hc'.trans hc) hb.2.2⟩

/-- Why nothing came out of a stream. -/
inductive Silence (l : Link) : CameraError → Prop
  | waited (span : Span) : Silence l (.timeout span)
  | broken (h : l.registers.payloadSize.toNat < l.registers.pictureSize) :
      Silence l (.acquisition .streamClosed)

/-- What a wait for a buffer ends with. -/
inductive Dequeued (c : ConnectionId) (l : Link) (id : StreamId) (ring : List BufferId)
    (served : List Nat) : Except CameraError Buffer → Network → Prop
  | silent {e : CameraError} {n : Network} (pending : List Nat) (he : Silence l e)
      (h : n.Feeds c l id ring served pending) : Dequeued c l id ring served (.error e) n
  | buffer {b : Buffer} {n : Network} (tick : Nat) (rest : List Nat)
      (hb : SimStream.Fits l.registers ring b) (hdeveloped : l.camera.Developed l.registers tick b)
      (h : n.Feeds c l id ring (served ++ [tick]) rest) :
      Dequeued c l id ring served (.ok b) n

theorem Feeds.dequeue (h : n.Feeds c l id ring served pending) (timeout : Span) :
    Dequeued c l id ring served (n.dequeue id timeout).1 (n.dequeue id timeout).2 := by
  -- The stream is looked at twice: at once, and when the next buffer is filled or the
  -- wait is over.
  obtain ⟨more, hnow⟩ := h.advance n.now
  unfold Network.dequeue
  simp only
  rcases hnow.take with ⟨n₁, htake, -, h₁⟩ | ⟨tick, rest, b, n₁, htake, -, hb, hdeveloped, h₁⟩
  · rw [htake]
    simp only
    cases hbroken : n₁.broken id with
    | true => exact .silent [] (.broken (h₁.overlong hbroken)) h₁
    | false =>
        obtain ⟨more', hlater⟩ := h₁.advance
          (((n₁.streams[id]?.bind (·.nextFill?)).filter (· ≤ n₁.now + timeout)).getD
            (n₁.now + timeout))
        simp only [Bool.false_eq_true, if_false]
        rcases hlater.take with
          ⟨n₂, htake', -, h₂⟩ | ⟨tick, rest, b, n₂, htake', -, hb, hdeveloped, h₂⟩
        · rw [htake']
          simp only
          cases hbroken' : n₂.broken id with
          | true => exact .silent [] (.broken (h₂.overlong hbroken')) h₂
          | false => exact .silent [] (.waited timeout) h₂
        · rw [htake']
          exact .buffer tick rest hb hdeveloped h₂
  · rw [htake]
    exact .buffer tick rest hb hdeveloped h₁

theorem Feeds.enqueue (h : n.Feeds c l id ring served pending) {b : Buffer}
    (hb : SimStream.Fits l.registers ring b) :
    (n.enqueue id b).Feeds c l id ring served pending := by
  obtain ⟨s, hs, hc, hloaded⟩ := h.stream
  refine ⟨h.link, s.enqueue b, ?_, hc, hloaded.enqueue hb⟩
  rw [Network.enqueue, List.getElem?_modify_eq, hs]
  rfl

theorem Feeds.enqueueAll (bs : List Buffer) (h : n.Feeds c l id ring served pending)
    (hbs : ∀ b ∈ bs, SimStream.Fits l.registers ring b) :
    (bs.foldl (fun n b => n.enqueue id b) n).Feeds c l id ring served pending := by
  induction bs generalizing n with
  | nil => exact h
  | cons b rest ih =>
      exact ih (h.enqueue (hbs b List.mem_cons_self))
        fun b' hb' => hbs b' (List.mem_cons_of_mem _ hb')

/-- A new stream has nothing on it. -/
theorem feeds_createStream (hl : n.links[c]? = some l) (ring : List BufferId) :
    ∃ n', Network.createStream c n = (.ok n.streams.length, n') ∧
      n'.Feeds c l n.streams.length ring [] [] :=
  ⟨_, rfl, hl, _, List.getElem?_concat_length, rfl, by simp, .nil, rfl, .nil, by simp, by simp⟩

/-- Turning the acquisition on or off does nothing to what is on the streams. -/
theorem Feeds.setAcquiring (h : n.Feeds c l id ring served pending) (acquiring : Bool) :
    (n.setAcquiring c acquiring).Feeds c { l with acquiring } id ring served pending := by
  obtain ⟨s, hs, hc, hloaded⟩ := h.stream
  refine ⟨?_, { s with due := if acquiring then some (s.due.getD n.now) else none }, ?_, hc,
    { hloaded with }⟩
  · simp only [Network.setAcquiring, List.getElem?_modify_eq, h.link]
    rfl
  · simp [Network.setAcquiring, hs, hc]

end Network

/-! ## An engine on such a stream -/

/-- What a grab answers where it gets the exposure of a tick. -/
def Camera.shot (c : Camera) (r : Registers) (tick sequence : Nat) (now : Instant) :
    Except CameraError Frame :=
  if c.fails tick then .error (.acquisition (.buffer .timeout))
  else decodeFrame (Pattern.payload r.format r.width.toNat r.height.toNat tick) r.width r.height
    r.format sequence now

namespace Engine

variable {c : ConnectionId} {l : Link} {served pending : List Nat} {e : Engine} {n : Network}

/-- The ring of the engine is out, on a stream of the connection. -/
structure Supplied (c : ConnectionId) (l : Link) (served pending : List Nat) (e : Engine)
    (n : Network) : Prop where
  full : e.pool.Full e.pool.size
  feeds : n.Feeds c l e.stream (Pool.ids e.pool.generation e.pool.size) served pending

theorem Supplied.sleep (h : e.Supplied c l served pending n) (span : Span) :
    ∃ more, e.Supplied c l served (pending ++ more) (Network.transport.clock.sleep span n) := by
  obtain ⟨more, hmore⟩ := h.feeds.advance (n.now + span)
  exact ⟨more, h.full, hmore⟩

theorem Supplied.setAcquiring (h : e.Supplied c l served pending n) (acquiring : Bool) :
    e.Supplied c { l with acquiring } served pending (n.setAcquiring c acquiring) :=
  ⟨h.full, h.feeds.setAcquiring acquiring⟩

/-- What a grab ends with. -/
inductive Grabbed (c : ConnectionId) (l : Link) (served : List Nat) (e : Engine) :
    Except CameraError Frame → Engine → Network → Prop
  | silent {error : CameraError} {e' : Engine} {n : Network} (pending : List Nat)
      (he : Network.Silence l error) (hsequence : e'.sequence = e.sequence)
      (h : e'.Supplied c l served pending n) : Grabbed c l served e (.error error) e' n
  | shot {r : Except CameraError Frame} {e' : Engine} {n : Network} (tick : Nat)
      (rest : List Nat) (now : Instant)
      (hr : r = l.camera.shot l.registers tick e.sequence now)
      (hwhole : l.camera.fails tick = false →
        l.registers.pictureSize = l.registers.payloadSize.toNat)
      (hsequence : e'.sequence = e.sequence + r.isOk.toNat)
      (h : e'.Supplied c l (served ++ [tick]) rest n) : Grabbed c l served e r e' n

theorem Grabbed.supplied {r : Except CameraError Frame} {e' : Engine}
    (h : Grabbed c l served e r e' n) :
    ∃ served' pending', e'.Supplied c l served' pending' n := by
  cases h with
  | silent pending he hsequence h => exact ⟨_, _, h⟩
  | shot tick rest now hr hwhole hsequence h => exact ⟨_, _, h⟩

theorem decode_of_complete {tick : Nat} {b : Buffer}
    (hinfo : b.info = some ⟨l.registers.width, l.registers.height, l.registers.format⟩)
    (hpayload : b.payload = Pattern.payload l.registers.format l.registers.width.toNat
      l.registers.height.toNat tick)
    (hfails : l.camera.fails tick = false) (e : Engine) (now : Instant) :
    e.decode b now = l.camera.shot l.registers tick e.sequence now := by
  simp only [decode, hinfo, hpayload, Camera.shot, hfails, Bool.false_eq_true, if_false]

/-- A grab takes the exposure of the next tick that waits, and puts the buffer
back behind those that are to be filled. -/
theorem Supplied.grab (h : e.Supplied c l served pending n) (timeout : Span) :
    Grabbed c l served e
      (e.grab (Network.transport.channel e.stream) Network.transport.clock timeout n).1
      (e.grab (Network.transport.channel e.stream) Network.transport.clock timeout n).2.1
      (e.grab (Network.transport.channel e.stream) Network.transport.clock timeout n).2.2 := by
  have hdequeue := h.feeds.dequeue timeout
  have hchannel : (Network.transport.channel e.stream).dequeue timeout n =
      n.dequeue e.stream timeout := by rfl
  rw [grab_eq, hchannel]
  rcases hout : n.dequeue e.stream timeout with ⟨r, n₁⟩
  rw [hout] at hdequeue
  cases hdequeue with
  | silent pending' he h₁ =>
      cases he with
      | waited span => exact .silent pending' (.waited span) rfl ⟨h.full, h₁⟩
      | broken hlong => exact .silent pending' (.broken hlong) rfl ⟨h.full, h₁⟩
  | @buffer b _ tick rest hb hdeveloped h₁ =>
      have hstate : e.pool.state? b.id = some .queued :=
        h.full.state?_eq_queued_iff.2 hb.mem
      -- The buffer goes back whatever its exposure came to.
      have hback := h₁.enqueue (b := b.recycle) ⟨hb.mem, hb.capacity⟩
      simp only
      rw [if_pos hstate]
      cases hdeveloped with
      | incomplete hfails hstatus =>
          rw [if_pos (by rw [hstatus]; decide), hstatus]
          refine .shot tick rest n₁.now ?_ (fun h => absurd (h.symm.trans hfails) (by decide))
            rfl ⟨h.full, hback⟩
          rw [Camera.shot, if_pos hfails]
      | complete hfails hstatus hinfo hpayload hwhole =>
          have hshot := decode_of_complete hinfo hpayload hfails e n₁.now
          rw [if_neg (by rw [hstatus]; decide)]
          simp only [Network.transport, Network.clock]
          cases hdecoded : e.decode b n₁.now with
          | ok f =>
              exact .shot tick rest n₁.now (hdecoded.symm.trans hshot) (fun _ => hwhole) rfl
                ⟨h.full, hback⟩
          | error err =>
              exact .shot tick rest n₁.now (hdecoded.symm.trans hshot) (fun _ => hwhole) rfl
                ⟨h.full, hback⟩

end Engine

/-! ## From a start on -/

namespace Session

variable {c : ConnectionId} {l : Link} {e : Engine}

/-- An engine that was started has its ring on a stream of the connection. -/
theorem startEngine_supplied {s s' : Session Network} {g : Geometry}
    (hl : s.world.links[c]? = some l)
    (h : startEngine Network.transport c g s = (.ok e, s')) :
    e.Supplied c l [] [] s'.world ∧ e.sequence = 0 ∧
      ∃ generations world panicked, s' = { s with
        generations, world, panicked
        overflowed := s.overflowed || Network.transport.overflows c s.world } := by
  have hsize := Network.payloadSize_at hl
  obtain ⟨n, hcreate, hfeeds⟩ := Network.feeds_createStream hl
    (Pool.ids s.generations.next s.options.bufferCount)
  have hstream : Network.transport.createStream c s.world = (.ok s.world.streams.length, n) :=
    hcreate
  rw [startEngine_eq, hsize] at h
  simp only [hstream, Engine.start_eq] at h
  by_cases hbad : s.options.bufferCount = 0 ∨ l.registers.payloadSize.toNat = 0
  · rw [if_pos hbad] at h
    cases h
  · rw [if_neg hbad] at h
    cases h
    have hfits : ∀ b ∈ (Pool.allocate s.generations s.options.bufferCount
        l.registers.payloadSize.toNat).1.2, SimStream.Fits l.registers
          (Pool.ids s.generations.next s.options.bufferCount) b := by
      intro b hb
      refine ⟨?_, ?_⟩
      · rw [← Pool.allocate_ids s.generations s.options.bufferCount l.registers.payloadSize.toNat]
        exact List.mem_map_of_mem hb
      · obtain ⟨i, -, rfl⟩ := List.mem_map.1 hb
        exact Array.size_replicate
    have hlength : (List.replicate s.options.bufferCount SlotState.queued).length =
        s.options.bufferCount := List.length_replicate
    refine ⟨⟨?_, ?_⟩, rfl, _, _, _, rfl⟩
    · simp only [Pool.Full, Pool.size, hlength]
    · simp only [Pool.size, hlength]
      exact hfeeds.enqueueAll _ hfits

end Session

/-! ## On a bench -/

/-- But for its commands a bench is the network behind it. -/
theorem bench_mirrors : bench.Mirrors Refusing.world Network.transport where
  now _ := rfl
  patience _ _ := rfl
  connect _ _ := rfl
  getFeature _ _ _ := rfl
  setFeature _ _ _ _ := rfl
  featureOptions _ _ _ := rfl
  payloadSize _ _ := rfl
  overflows _ _ := rfl
  createStream _ _ := rfl
  enqueue _ _ _ := rfl
  dequeue _ _ _ := rfl
  flush _ _ := rfl
  releaseStream _ _ := rfl
  releaseConnection _ _ := rfl

namespace Bench

variable {c : ConnectionId} {l : Link} {served pending : List Nat} {e : Engine}

theorem execute_world {x : Command} {b b' : Bench}
    (h : bench.execute c x.name b = (.ok (), b')) :
    b'.world = b.world.setAcquiring c x.acquires := by
  rw [execute_eq] at h
  split at h
  · cases h
  · cases h
    rfl

theorem startEngine_supplied {s s' : Session Bench} {g : Geometry} (hat : s.world.At c l)
    (h : Session.startEngine bench c g s = (.ok e, s')) :
    e.Supplied c l [] [] s'.world.world := by
  have hfollows := Session.startEngine_follows bench_mirrors c g s
  rw [h] at hfollows
  have hl : (s.map Refusing.world).world.links[c]? = some l := hat
  exact (Session.startEngine_supplied hl hfollows).1

theorem grab_supplied {b : Bench} (h : e.Supplied c l served pending b.world) (timeout : Span) :
    e.Grabbed c l served (e.grab (bench.channel e.stream) bench.clock timeout b).1
      (e.grab (bench.channel e.stream) bench.clock timeout b).2.1
      (e.grab (bench.channel e.stream) bench.clock timeout b).2.2.world := by
  have hgrab := h.grab timeout
  rw [Engine.grab_commutes bench_mirrors] at hgrab
  exact hgrab

end Bench
end FrameGrabber
