import FrameGrabber.Proofs.FullRing
import FrameGrabber.Proofs.SessionRun
import FrameGrabber.Transport.Trace

/-!
# A session sees its world through the answers only

Let one world be seen through another: a function `f` takes a state of the first
to a state of the second, and every call on the one does to the image what the
same call does on the other, with the same answer. Then so does every operation
of a session, and every life of one. The proof is that the property passes from
the parts of a program to the whole, and that operations look at nothing of the
world but what calls answer.

A transport with a trace is the case that is used: the trace is part of its
world, forgetting the trace is `f`, and what a session does over it is what it
does without.
-/

namespace FrameGrabber

variable {V W α β : Type}

/-- Acting on `V` and seeing the result through `f` is seeing it and acting on
`W`. -/
abbrev Commutes (f : V → W) (x : V → α × V) (y : W → α × W) : Prop :=
  ∀ v, y (f v) = ((x v).1, f (x v).2)

/-- Through `f` the worlds of `u` look like those of `t`, as long as no command is
given. -/
structure Transport.Mirrors (f : V → W) (u : Transport V) (t : Transport W) :
    Prop where
  now : Commutes f u.clock.now t.clock.now
  patience : ∀ span v, t.clock.patience span (f v) = u.clock.patience span v
  connect : ∀ d, Commutes f (u.connect d) (t.connect d)
  getFeature : ∀ c name, Commutes f (u.getFeature c name) (t.getFeature c name)
  setFeature : ∀ c name x,
    Commutes f (u.setFeature c name x) (t.setFeature c name x)
  featureOptions : ∀ c name,
    Commutes f (u.featureOptions c name) (t.featureOptions c name)
  payloadSize : ∀ c, Commutes f (u.payloadSize c) (t.payloadSize c)
  overflows : ∀ c v, t.overflows c (f v) = u.overflows c v
  createStream : ∀ c, Commutes f (u.createStream c) (t.createStream c)
  enqueue : ∀ id b v,
    (t.channel id).enqueue b (f v) = f ((u.channel id).enqueue b v)
  dequeue : ∀ id span,
    Commutes f ((u.channel id).dequeue span) ((t.channel id).dequeue span)
  flush : ∀ id, Commutes f (u.channel id).flush (t.channel id).flush
  releaseStream : ∀ id v, t.releaseStream id (f v) = f (u.releaseStream id v)
  releaseConnection : ∀ c v,
    t.releaseConnection c (f v) = f (u.releaseConnection c v)

/-- Through `f` the worlds of `u` look like those of `t`. -/
structure Transport.Projects (f : V → W) (u : Transport V) (t : Transport W) :
    Prop extends Transport.Mirrors f u t where
  execute : ∀ c name, Commutes f (u.execute c name) (t.execute c name)

theorem Transport.traced_projects (t : Transport W) :
    t.traced.Projects Traced.world t where
  now _ := rfl
  patience _ _ := rfl
  connect _ _ := rfl
  getFeature _ _ _ := rfl
  setFeature _ _ _ _ := rfl
  featureOptions _ _ _ := rfl
  execute _ _ _ := rfl
  payloadSize _ _ := rfl
  overflows _ _ := rfl
  createStream _ _ := rfl
  enqueue _ _ _ := rfl
  dequeue _ _ _ := rfl
  flush _ _ := rfl
  releaseStream _ _ := rfl
  releaseConnection _ _ := rfl

/-- The session with its world seen through `f`. -/
def Session.map (f : V → W) (s : Session V) : Session W :=
  { s with world := f s.world }

/-! ## Settings and engines -/

section

variable {f : V → W} {u : Transport V} {t : Transport W}

theorem Transport.peek_commutes (h : u.Mirrors f t) (c : ConnectionId)
    (x : Feature) : Commutes f (u.peek c x) (t.peek c x) := by
  intro v
  unfold peek
  rw [h.getFeature]
  rcases u.getFeature c x.name v with ⟨_ | _, _⟩ <;> rfl

theorem Transport.readSettings_commutes (h : u.Mirrors f t) (c : ConnectionId) :
    Commutes f (u.readSettings c) (t.readSettings c) := by
  intro v
  simp only [readSettings, peek_commutes h]

theorem Transport.replace_commutes (h : u.Mirrors f t) (c : ConnectionId)
    (x : Feature) (value : FeatureValue) :
    Commutes f (u.replace c x value) (t.replace c x value) := by
  intro v
  unfold replace
  rw [h.getFeature]
  rcases u.getFeature c x.name v with ⟨_ | _, v₁⟩
  · rfl
  · simp only [h.setFeature]
    rcases u.setFeature c x.name value v₁ with ⟨_ | _, _⟩ <;> rfl

theorem Transport.putBack_commutes (h : u.Mirrors f t) (c : ConnectionId) :
    ∀ (replaced : List (Feature × FeatureValue)) (v : V),
    t.putBack c replaced (f v) = f (u.putBack c replaced v) := by
  intro replaced
  induction replaced with
  | nil => intro v; rfl
  | cons x rest ih =>
      intro v
      simp only [putBack, h.setFeature, ih]

theorem Transport.applyWrites_commutes (h : u.Mirrors f t) (c : ConnectionId) :
    ∀ (writes : List FeatureWrite) (replaced : List (Feature × FeatureValue)),
    Commutes f (u.applyWrites c writes replaced) (t.applyWrites c writes replaced) := by
  intro writes
  induction writes with
  | nil => intro replaced v; rfl
  | cons x rest ih =>
      intro replaced v
      unfold applyWrites
      rw [replace_commutes h]
      rcases u.replace c x.feature x.value v with ⟨e | old, v₁⟩
      · simp only [putBack_commutes h]
        split
        · exact ih replaced v₁
        · rfl
      · exact ih _ v₁

theorem Engine.queueAll_commutes (h : u.Mirrors f t) (id : StreamId) :
    ∀ (bs : List Buffer) (p : Pool),
    Commutes f (queueAll (u.channel id) bs p) (queueAll (t.channel id) bs p) := by
  intro bs
  induction bs with
  | nil => intro p v; rfl
  | cons b rest ih =>
      intro p v
      unfold queueAll
      cases p.checkIn b.id with
      | error e => rfl
      | ok p₁ =>
          simp only [h.enqueue]
          exact ih p₁ _

theorem Engine.start_commutes (h : u.Mirrors f t) (id : StreamId) (n size : Nat)
    (geometry : Geometry) (counters : Counters) (g : Generations) (v : V) :
    start (t.channel id) id n size geometry counters g (f v) =
      let out := start (u.channel id) id n size geometry counters g v
      (out.1, out.2.1, f out.2.2) := by
  unfold start
  split
  · rfl
  · simp only [queueAll_commutes h]
    rcases queueAll (u.channel id) (Pool.allocate g n size).1.2
      (Pool.allocate g n size).1.1 v with ⟨_ | _, _⟩ <;> rfl

theorem Engine.grab_commutes (h : u.Mirrors f t) (id : StreamId) (timeout : Span)
    (e : Engine) (v : V) :
    e.grab (t.channel id) t.clock timeout (f v) =
      let out := e.grab (u.channel id) u.clock timeout v
      (out.1, out.2.1, f out.2.2) := by
  simp only [grab_eq, h.dequeue]
  rcases (u.channel id).dequeue timeout v with ⟨err | b, v₁⟩
  · cases err <;> rfl
  · simp only [h.now, h.enqueue]
    split
    · split
      · rfl
      · cases e.decode b (u.clock.now v₁).1 <;> rfl
    · rfl

theorem Engine.stumbles_eq (h : u.Mirrors f t) (build : Build) (id : StreamId)
    (timeout : Span) (e : Engine) (v : V) :
    e.stumbles build (t.channel id) timeout (f v) = e.stumbles build (u.channel id) timeout v := by
  simp only [stumbles, h.dequeue]

theorem Engine.drain_commutes (h : u.Mirrors f t) (id : StreamId)
    (deadline : Instant) : ∀ (passes : Nat) (p : Pool),
    Commutes f (drain (u.channel id) u.clock deadline passes p)
      (drain (t.channel id) t.clock deadline passes p) := by
  intro passes
  induction passes with
  | zero => intro p v; rfl
  | succ n ih =>
      intro p v
      simp only [drain, h.flush, h.now, h.dequeue]
      split
      · rfl
      · split
        · rfl
        · rcases (u.channel id).dequeue _ _ with ⟨_ | b, v₁⟩
          · exact ih _ v₁
          · exact ih _ v₁

theorem Engine.stop_commutes (h : u.Mirrors f t) (id : StreamId) (wait : Span)
    (e : Engine) :
    Commutes f (e.stop (u.channel id) u.clock wait) (e.stop (t.channel id) t.clock wait) := by
  intro v
  simp only [stop, h.now, h.patience, drain_commutes h]

end

/-! ## Programs

`Follows` is the property of a program of a session that is to be shown; each of
the lemmas here passes it from parts to a whole. -/

namespace SessionM

/-- The program `y` does to the image of a session what `x` does to the session. -/
def Follows (f : V → W) (x : SessionM V α) (y : SessionM W α) : Prop :=
  ∀ s, y (s.map f) = ((x s).1, (x s).2.map f)

variable {f : V → W}

theorem follows_pure (a : α) :
    Follows f (pure a : SessionM V α) (pure a) := fun _ => rfl

theorem follows_throw (e : CameraError) :
    Follows f (throw e : SessionM V α) (throw e) := fun _ => rfl

theorem Follows.bind {x : SessionM V α} {y : SessionM W α}
    {k : α → SessionM V β} {l : α → SessionM W β} (h : Follows f x y)
    (hk : ∀ a, Follows f (k a) (l a)) : Follows f (x >>= k) (y >>= l) := by
  intro s
  rw [run_bind, run_bind, h s]
  rcases x s with ⟨e | a, s₁⟩
  · rfl
  · exact hk a s₁

theorem Follows.map {x : SessionM V α} {y : SessionM W α} (g : α → β)
    (h : Follows f x y) : Follows f (g <$> x) (g <$> y) := by
  intro s
  rw [run_map, run_map, h s]

theorem Follows.attempt {x : SessionM V α} {y : SessionM W α}
    (h : Follows f x y) : Follows f (attempt x) (attempt y) := by
  intro s
  rw [run_attempt, run_attempt, h s]

theorem follows_get {k : Session V → SessionM V β} {l : Session W → SessionM W β}
    (hk : ∀ s, Follows f (k s) (l (s.map f))) :
    Follows f (get >>= k) (get >>= l) :=
  fun s => hk s s

theorem follows_modify {g : Session V → Session V} {h : Session W → Session W}
    (hg : ∀ s, h (s.map f) = (g s).map f) :
    Follows f (modify g) (modify h) := by
  intro s
  rw [run_modify, run_modify, hg]

theorem follows_call {x : Call V α} {y : Call W α} (h : Commutes f x y) :
    Follows f (call x) (call y) := by
  intro s
  rw [run_call, run_call]
  simp only [Session.map, h s.world]

theorem follows_act {x : V → α × V} {y : W → α × W} (h : Commutes f x y) :
    Follows f (act x) (act y) := by
  intro s
  rw [run_act, run_act]
  simp only [Session.map, h s.world]

theorem follows_ite {p : Prop} [Decidable p] {x x' : SessionM V α}
    {y y' : SessionM W α} (h : Follows f x y) (h' : Follows f x' y') :
    Follows f (if p then x else x') (if p then y else y') := by
  split
  · exact h
  · exact h'

theorem follows_conclude (r : Except CameraError α) :
    Follows f (conclude r : SessionM V α) (conclude r) := by
  cases r with
  | error e => exact follows_throw e
  | ok a => exact follows_pure a

theorem follows_linked : Follows f (linked : SessionM V ConnectionId) linked := by
  unfold linked
  refine follows_get fun s => ?_
  simp only [Session.map]
  refine follows_ite (follows_throw _) ?_
  cases s.connection with
  | none => exact follows_throw _
  | some c => exact follows_pure c

end SessionM

/-! ## Operations -/

namespace Session

open SessionM

variable {f : V → W} {u : Transport V} {t : Transport W}

theorem connect_follows (h : u.Mirrors f t) (d : Descriptor) :
    Follows f (connect u d) (connect t d) := by
  unfold connect
  refine follows_get fun s => ?_
  simp only [map]
  refine follows_ite (follows_throw _) ?_
  cases s.descriptor with
  | some current => exact follows_throw _
  | none =>
      refine (follows_call (h.connect d)).bind fun c => ?_
      refine (follows_call (h.setFeature _ _ _)).attempt.bind fun _ => ?_
      refine (follows_act (Transport.readSettings_commutes h c)).bind fun x => ?_
      exact follows_modify fun _ => rfl

theorem advertisedFormats_follows (h : u.Mirrors f t) :
    Follows f (advertisedFormats u) (advertisedFormats t) := by
  unfold advertisedFormats
  refine follows_linked.bind fun c => ?_
  refine (follows_call (h.featureOptions _ _)).bind fun names => ?_
  exact follows_pure _

theorem refreshSettings_follows (h : u.Mirrors f t) :
    Follows f (refreshSettings u) (refreshSettings t) := by
  unfold refreshSettings
  refine follows_get fun s => ?_
  simp only [map]
  cases s.connection with
  | none => exact follows_pure _
  | some c =>
      refine (follows_act (Transport.readSettings_commutes h c)).bind fun x => ?_
      exact follows_modify fun _ => rfl

theorem apply_follows (h : u.Mirrors f t) (x : Settings) :
    Follows f (apply u x) (apply t x) := by
  unfold apply
  refine follows_linked.bind fun c => ?_
  exact follows_call (Transport.applyWrites_commutes h c x.writes [])

theorem drainEngine_follows (h : u.Mirrors f t) (e : Engine) :
    Follows f (drainEngine u e) (drainEngine t e) := by
  unfold drainEngine
  refine follows_get fun s => ?_
  refine .bind (follows_modify fun s => ?_) fun _ => ?_
  · simp only [map, Engine.outlasts, h.now]
  refine (follows_act (Engine.stop_commutes h _ _ e)).bind fun report => ?_
  refine (follows_act fun v => by rw [h.releaseStream]).bind fun _ => ?_
  exact follows_pure _

theorem startEngine_follows (h : u.Mirrors f t) (c : ConnectionId) (g : Geometry) :
    Follows f (startEngine u c g) (startEngine t c g) := by
  intro s
  rw [startEngine_eq, startEngine_eq]
  simp only [map, h.payloadSize, h.overflows]
  rcases u.payloadSize c s.world with ⟨_ | size, v⟩
  · rfl
  · simp only [h.createStream]
    rcases u.createStream c v with ⟨_ | stream, v₁⟩
    · rfl
    · simp only [Engine.start_commutes h]
      rcases Engine.start (u.channel stream) stream s.options.bufferCount size g
        s.counters s.generations v₁ with ⟨_ | e, generations, v₂⟩
      · simp only [h.releaseStream]
      · rfl

theorem startAcquisition_follows (h : u.Projects f t) :
    Follows f (startAcquisition u) (startAcquisition t) := by
  unfold startAcquisition
  refine follows_get fun s => ?_
  simp only [map]
  refine follows_ite (follows_throw _) (follows_linked.bind fun c => ?_)
  cases s.settings with
  | none => exact follows_throw _
  | some x =>
      refine (startEngine_follows h.toMirrors c _).bind fun e => ?_
      refine (follows_call (h.execute _ _)).attempt.bind fun r => ?_
      cases r with
      | ok _ => exact follows_modify fun _ => rfl
      | error err =>
          exact (drainEngine_follows h.toMirrors e).bind fun _ => follows_throw err

theorem stopAcquisition_follows (h : u.Projects f t) :
    Follows f (stopAcquisition u) (stopAcquisition t) := by
  have hcommand : ∀ c, Follows f (commandStop u c) (commandStop t c) := by
    rintro (_ | c)
    · exact follows_pure _
    · exact (follows_call (h.execute _ _)).attempt
  have hdismiss : ∀ e, Follows f (dismissEngine u e) (dismissEngine t e) := by
    rintro (_ | e)
    · exact follows_pure _
    · refine .bind (follows_modify fun _ => by rfl) fun _ => ?_
      exact (drainEngine_follows h.toMirrors e).bind fun _ => follows_pure _
  unfold stopAcquisition
  refine follows_get fun s => ?_
  simp only [map]
  refine follows_ite (follows_throw _) (follows_ite ?_ (follows_pure _))
  refine .bind (follows_modify fun _ => by rfl) fun _ => ?_
  refine (hcommand _).bind fun stopped => ?_
  refine (hdismiss _).bind fun _ => ?_
  refine .bind (follows_modify fun _ => by rfl) fun _ => ?_
  exact follows_conclude stopped

theorem resume_follows (h : u.Projects f t) : Follows f (resume u) (resume t) :=
  (startAcquisition_follows h).attempt.bind fun _ => follows_pure _

theorem reconfigure_follows (h : u.Mirrors f t) (x : Settings) :
    Follows f (reconfigure u x) (reconfigure t x) := by
  unfold reconfigure
  refine .bind (follows_modify fun _ => by rfl) fun _ => ?_
  refine (apply_follows h x).attempt.bind fun applied => ?_
  refine .bind (follows_modify fun _ => by rfl) fun _ => ?_
  cases applied with
  | error e => exact follows_pure _
  | ok _ => exact (refreshSettings_follows h).bind fun _ => follows_pure _

theorem restart_follows (h : u.Projects f t) (previous : Option Settings)
    (applied : Except CameraError Unit) :
    Follows f (restart u previous applied) (restart t previous applied) := by
  have hfall : Follows f (fallBack u previous) (fallBack t previous) := by
    cases previous with
    | none => exact follows_pure _
    | some x =>
        refine (apply_follows h.toMirrors x).attempt.bind fun r => ?_
        cases r with
        | error e => exact follows_pure _
        | ok _ => exact refreshSettings_follows h.toMirrors
  unfold restart
  refine (startAcquisition_follows h).attempt.bind fun started => ?_
  cases started <;> cases applied
  · exact follows_throw _
  · refine hfall.bind fun _ => ?_
    exact (resume_follows h).bind fun _ => follows_throw _
  · exact follows_throw _
  · exact follows_pure _

theorem configure_follows (h : u.Projects f t) (width height : UInt32)
    (format : PixelFormat) (rate : Float) :
    Follows f (configure u width height format rate)
      (configure t width height format rate) := by
  unfold configure
  refine (advertisedFormats_follows h.toMirrors).bind fun offered => ?_
  refine follows_ite (follows_get fun s => ?_) (follows_throw _)
  simp only [map]
  refine follows_ite ?_
    ((reconfigure_follows h.toMirrors _).bind fun applied => follows_conclude applied)
  refine (stopAcquisition_follows h).attempt.bind fun r => ?_
  cases r with
  | error e => exact (resume_follows h).bind fun _ => follows_throw e
  | ok _ =>
      refine (reconfigure_follows h.toMirrors _).bind fun applied => ?_
      exact restart_follows h _ applied

theorem disconnect_follows (h : u.Projects f t) :
    Follows f (disconnect u) (disconnect t) := by
  unfold disconnect
  refine follows_get fun s => ?_
  simp only [map]
  refine follows_ite (follows_throw _) ?_
  refine (stopAcquisition_follows h).attempt.bind fun _ => ?_
  refine follows_modify fun s => ?_
  rcases s with ⟨world, options, descriptor, connection, engine, settings,
    acquisition, closed, counters, generations, panicked, overflowed⟩
  cases engine <;> cases connection <;>
    simp only [map, letGo, h.releaseStream, h.releaseConnection]

theorem grab_follows (h : u.Mirrors f t) (timeout : Span) :
    Follows f (grab u timeout) (grab t timeout) := by
  rintro ⟨world, options, descriptor, connection, engine, settings, acquisition,
    closed, counters, generations, panicked, overflowed⟩
  unfold grab
  cases closed with
  | true => rfl
  | false =>
      cases acquisition <;> cases engine <;> try rfl
      simp only [map, Engine.grab_commutes h, Engine.stumbles_eq h, Bool.false_eq_true, if_false]

end Session

theorem Operation.perform_follows {f : V → W} {u : Transport V} {t : Transport W}
    (h : u.Projects f t) (o : Operation) :
    (o.perform u).Follows f (o.perform t) := by
  cases o with
  | connect d => exact (Session.connect_follows h.toMirrors d).map _
  | formats => exact (Session.advertisedFormats_follows h.toMirrors).map _
  | configure width height format rate =>
      exact (Session.configure_follows h width height format rate).map _
  | start => exact (Session.startAcquisition_follows h).map _
  | stop => exact (Session.stopAcquisition_follows h).map _
  | grab timeout => exact (Session.grab_follows h.toMirrors timeout).map _
  | disconnect => exact (Session.disconnect_follows h).map _

/-- A whole life of a session is seen through `f` as the life that the image of
the session leads. -/
theorem Session.after_map {f : V → W} {u : Transport V} {t : Transport W}
    (h : u.Projects f t) (ops : List Operation) : ∀ s : Session V,
    Session.after t (s.map f) ops = (Session.after u s ops).map f := by
  induction ops with
  | nil => intro s; rfl
  | cons o rest ih =>
      intro s
      show Session.after t (o.perform t (s.map f)).2 rest = _
      rw [Operation.perform_follows h o s]
      exact ih (o.perform u s).2

theorem Session.release_map {f : V → W} {u : Transport V} {t : Transport W}
    (h : u.Projects f t) (s : Session V) :
    Session.release t (s.map f) = (Session.release u s).map f := by
  unfold release
  rw [disconnect_follows h s]
  cases hc : s.closed with
  | true => rw [if_pos (by exact hc), if_pos rfl]
  | false => rw [if_neg (by rw [Session.map, hc]; decide), if_neg (by decide)]

end FrameGrabber
