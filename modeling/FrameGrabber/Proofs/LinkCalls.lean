import FrameGrabber.Proofs.EngineFrame
import FrameGrabber.Proofs.NetworkCalls
import FrameGrabber.Proofs.Registers
import FrameGrabber.Proofs.Rollback
import FrameGrabber.Proofs.SessionRun
import FrameGrabber.Transport.Refusing
import FrameGrabber.Transport.ControlRequest

/-!
# Calls on one connection to a simulated camera

A bench is a network of simulated cameras whose commands may be refused. For
what a session does to the settings of its camera three things about a bench
matter: the links, of which the session's own is one; the schedule; and the log
of the commands. They are the `core` of the bench. Buffers, streams and the clock
are not in it, so most calls leave it alone, and the lemmas here say exactly what
the others do to it when the link of the connection is known.
-/

namespace FrameGrabber

/-- Simulated cameras whose commands may be refused. -/
abbrev Bench := Refusing Network

/-- The way to them. -/
abbrev bench : Transport Bench := Network.transport.refusing

namespace Bench

variable {b b' : Bench} {c : ConnectionId} {l l' : Link}

/-- What a bench is, but for streams and clock. -/
def core (b : Bench) : List Link × (Nat → Option CameraError) × List (String × Bool) :=
  (b.world.links, b.schedule, b.commands)

/-- The connection has this link. -/
def At (c : ConnectionId) (l : Link) (b : Bench) : Prop := b.world.links[c]? = some l

/-- The bench with another link for the connection. -/
def putLink (c : ConnectionId) (l : Link) (b : Bench) : Bench :=
  { b with world := { b.world with links := b.world.links.set c l } }

theorem At.of_core (h : b.At c l) (hb : b'.core = b.core) : b'.At c l := by
  injection hb with hlinks _
  unfold At
  rw [hlinks]
  exact h

theorem At.putLink (h : b.At c l) (l' : Link) : (b.putLink c l').At c l' := by
  obtain ⟨hlt, -⟩ := List.getElem?_eq_some_iff.1 h
  exact List.getElem?_set_self hlt

theorem putLink_putLink : (b.putLink c l).putLink c l' = b.putLink c l' := by
  simp [Bench.putLink]

theorem putLink_self (h : b.At c l) : b.putLink c l = b := by
  obtain ⟨hlt, hl⟩ := List.getElem?_eq_some_iff.1 h
  unfold Bench.putLink
  rw [← hl, List.set_getElem_self]

/-! ## Features -/

/-- A bench that is only asked does what its network does. -/
theorem pass_at {α : Type} {f : Call Network α} {r : Except CameraError α} {n : Network}
    (h : f b.world = (r, n)) : Refusing.pass f b = (r, { b with world := n }) := by
  rw [Refusing.pass, h]

theorem getFeature_at (h : b.At c l) (f : Feature) :
    bench.getFeature c f.name b = (.ok (l.registers.read l.camera f), b) :=
  pass_at (Network.getFeature_at h f)

theorem setFeature_at (h : b.At c l) (f : Feature) (v : FeatureValue) :
    bench.setFeature c f.name v b =
      match l.registers.write l.camera l.acquiring f v with
      | .ok registers => (.ok (), b.putLink c { l with registers })
      | .error e => (.error e, b) := by
  have hset := Network.setFeature_at h f v
  rcases hw : l.registers.write l.camera l.acquiring f v with _ | registers <;>
    rw [hw] at hset
  · exact pass_at hset
  · exact pass_at hset

theorem featureOptions_at (h : b.At c l) :
    bench.featureOptions c Feature.pixelFormat.name b =
      (.ok (l.camera.formats.map PixelFormat.name), b) :=
  pass_at (Network.featureOptions_at h)

theorem payloadSize_at (h : b.At c l) :
    bench.payloadSize c b = (.ok l.registers.payloadSize.toNat, b) :=
  pass_at (Network.payloadSize_at h)

theorem overflows_at (h : b.At c l) :
    bench.overflows c b = (l.registers.payloadSize? .checked).isNone :=
  Network.overflows_at h

theorem peek_at (h : b.At c l) (f : Feature) :
    bench.peek c f b = (some (l.registers.read l.camera f), b) := by
  rw [Transport.peek, getFeature_at h]

/-- The settings that are read are those in the registers, the format by its name. -/
theorem readSettings_eq (h : b.At c l) :
    bench.readSettings c b = (⟨l.registers.width, l.registers.height,
      PixelFormat.parse l.registers.format.name, l.registers.rate⟩, b) := by
  simp only [Transport.readSettings, peek_at h, Registers.read, FeatureValue.asInt?,
    FeatureValue.asWord?, FeatureValue.asFloat?, Option.bind_some, size32?_ofSide,
    Option.map_some, Option.getD_some]

theorem readSettings_at (h : b.At c l) (hf : l.registers.format.IsCanonical) :
    bench.readSettings c b = (l.registers.settings, b) := by
  have hparse : PixelFormat.parse l.registers.format.name = l.registers.format := hf
  rw [readSettings_eq h, hparse]
  rfl

/-! ## Configurations -/

/-- What the connection of a session leads to: a link with canonical formats and
registers that can be written back. -/
structure Fit (l : Link) : Prop where
  canonical : l.camera.Canonical
  restorable : l.registers.Restorable l.camera

/-- The connection has a link that is fit. -/
def Sound (c : ConnectionId) (b : Bench) : Prop := ∃ l, b.At c l ∧ Fit l

theorem Fit.write {f : Feature} {v : FeatureValue} {r : Registers} (h : Fit l)
    (hw : l.registers.write l.camera l.acquiring f v = .ok r) :
    Fit { l with registers := r } where
  canonical := h.canonical
  restorable := (Registers.replaced_of_write hw).restorable h.canonical h.restorable

/-- Writes that were all accepted leave the link fit. -/
theorem Fit.writeAll {r : Registers} (hfit : Fit l) (writes : List FeatureWrite)
    (h : Registers.writeAll l.camera l.acquiring writes l.registers = .ok r) :
    Fit { l with registers := r } := by
  induction writes generalizing l with
  | nil =>
      injection h with h
      rw [← h]
      exact hfit
  | cons x rest ih =>
      rw [Registers.writeAll] at h
      cases hw : l.registers.write l.camera l.acquiring x.feature x.value with
      | error e =>
          rw [hw] at h
          cases h
      | ok r₁ =>
          rw [hw] at h
          exact ih (l := { l with registers := r₁ }) (hfit.write hw) h

/-- The camera takes a configuration just if all its writes are accepted. -/
theorem Fit.writeAll_of_takes {x : Settings} (hfit : Fit l) (hrest : l.acquiring = false)
    (hx : l.camera.Takes x) :
    Registers.writeAll l.camera l.acquiring x.writes l.registers =
      .ok (l.registers.configured x) := by
  rw [hrest]
  rcases Registers.writeAll_writes l.registers hfit.canonical hx.format with
    ⟨-, h⟩ | ⟨f, reason, -, h⟩
  · exact h
  · rcases h with ⟨-, h⟩ | ⟨-, -, h⟩ | ⟨-, -, -, h⟩
    · exact absurd hx.width h
    · exact absurd hx.height h
    · exact absurd hx.rate h

theorem Fit.writeAll_of_not_takes {x : Settings} (hfit : Fit l)
    (hf : x.format ∈ l.camera.formats) (hx : ¬l.camera.Takes x) :
    ∃ e, Registers.writeAll l.camera l.acquiring x.writes l.registers = .error e := by
  cases hrest : l.acquiring with
  | true => exact ⟨_, Registers.writeAll_of_acquiring l.registers x⟩
  | false =>
      rcases Registers.writeAll_writes l.registers hfit.canonical hf with
        ⟨h, -⟩ | ⟨f, reason, h, -⟩
      · exact absurd h hx
      · exact ⟨_, h⟩

theorem unknown_at (h : b.At c l) {name : String} (hn : Feature.ofName? name = none)
    (v : FeatureValue) :
    bench.getFeature c name b = (.error (.featureUnsupported name), b) ∧
      bench.setFeature c name v b = (.error (.featureUnsupported name), b) := by
  obtain ⟨hget, hset⟩ := Network.unknown_at h hn v
  exact ⟨pass_at hget, pass_at hset⟩

theorem setFeature_cases (h : b.At c l) (name : String) (v : FeatureValue) :
    (∃ e, bench.setFeature c name v b = (.error e, b)) ∨
      ∃ f r, name = f.name ∧ l.registers.write l.camera l.acquiring f v = .ok r ∧
        bench.setFeature c name v b = (.ok (), b.putLink c { l with registers := r }) := by
  rcases Network.setFeature_cases h name v with ⟨e, hset⟩ | ⟨f, r, hname, hw, hset⟩
  · exact .inl ⟨e, pass_at hset⟩
  · exact .inr ⟨f, r, hname, hw, pass_at hset⟩

/-- Writes to a simulated camera can be undone. -/
theorem undoable (c : ConnectionId) : bench.Undoable c (Sound c) where
  asked := by
    rintro b name ⟨l, hl, -⟩
    cases hn : Feature.ofName? name with
    | none => rw [(unknown_at hl hn (.bool true)).1]
    | some f => rw [Feature.eq_name_of_ofName? hn, getFeature_at hl]
  refused := by
    rintro b b' name v e ⟨l, hl, -⟩ he
    rcases setFeature_cases hl name v with ⟨e', hset⟩ | ⟨f, r, -, -, hset⟩
    · exact (Prod.mk.inj (hset.symm.trans he)).2.symm
    · cases (Prod.mk.inj (hset.symm.trans he)).1
  kept := by
    rintro b b' name v ⟨l, hl, hfit⟩ he
    rcases setFeature_cases hl name v with ⟨e', hset⟩ | ⟨f, r, -, hw, hset⟩
    · cases (Prod.mk.inj (hset.symm.trans he)).1
    · obtain rfl := (Prod.mk.inj (hset.symm.trans he)).2
      exact ⟨_, hl.putLink _, hfit.write hw⟩
  undone := by
    rintro b b' name v old ⟨l, hl, hfit⟩ hold he
    rcases setFeature_cases hl name v with ⟨e', hset⟩ | ⟨f, r, rfl, hw, hset⟩
    · cases (Prod.mk.inj (hset.symm.trans he)).1
    · obtain rfl := (Prod.mk.inj (hset.symm.trans he)).2
      rw [getFeature_at hl] at hold
      injection hold with hold
      have hundo : r.write l.camera l.acquiring f old = .ok l.registers := by
        rw [← hold]
        exact Registers.write_undo hfit.canonical hfit.restorable hw
      rw [setFeature_at (hl.putLink _)]
      simp only [hundo]
      rw [putLink_putLink, putLink_self hl]

theorem replace_at (h : b.At c l) (f : Feature) (v : FeatureValue) :
    bench.replace c f v b =
      match l.registers.write l.camera l.acquiring f v with
      | .ok registers =>
        (.ok (l.registers.read l.camera f), b.putLink c { l with registers })
      | .error e => (.error e, b) := by
  rw [Transport.replace, getFeature_at h]
  simp only
  rw [setFeature_at h]
  rcases l.registers.write l.camera l.acquiring f v with _ | registers <;> rfl

theorem applyWrites_at (h : b.At c l) (writes : List FeatureWrite)
    (replaced : List (Feature × FeatureValue)) :
    match Registers.writeAll l.camera l.acquiring writes l.registers with
    | .ok registers => bench.applyWrites c writes replaced b =
        (.ok (), b.putLink c { l with registers })
    | .error e => (bench.applyWrites c writes replaced b).1 = .error e := by
  induction writes generalizing b l replaced with
  | nil =>
      show _ = _
      rw [show { l with registers := l.registers } = l from rfl, putLink_self h]
      rfl
  | cons x rest ih =>
      rw [Registers.writeAll, Transport.applyWrites, replace_at h]
      cases hw : l.registers.write l.camera l.acquiring x.feature x.value with
      | error e =>
          simp only
          rcases Registers.write_eq_error hw with rfl | ⟨reason, rfl⟩ <;> rfl
      | ok registers =>
          simp only
          have hrest := ih (h.putLink { l with registers })
            ((x.feature, l.registers.read l.camera x.feature) :: replaced)
          simp only [putLink_putLink] at hrest
          exact hrest

/-- A configuration is written to the registers in whole, or the bench stays as
it was. -/
theorem applySettings_at (h : b.At c l) (hfit : Fit l) (x : Settings) :
    bench.applySettings c x b =
      match Registers.writeAll l.camera l.acquiring x.writes l.registers with
      | .ok registers => (.ok (), b.putLink c { l with registers })
      | .error e => (.error e, b) := by
  have hwrites := applyWrites_at h x.writes []
  cases hall : Registers.writeAll l.camera l.acquiring x.writes l.registers with
  | ok registers =>
      rw [hall] at hwrites
      exact hwrites
  | error e =>
      rw [hall] at hwrites
      have hresult : (bench.applySettings c x b).1 = .error e := hwrites
      rcases happly : bench.applySettings c x b with ⟨r, b'⟩
      rw [happly] at hresult
      have hr : r = .error e := hresult
      subst hr
      rw [(undoable c).applySettings_of_error ⟨l, h, hfit⟩ happly]

/-! ## The rest of the calls -/

theorem take_links (id : StreamId) (n : Network) : (n.take id).2.links = n.links := by
  unfold Network.take
  split <;> rfl

theorem flush_links (id : StreamId) (n : Network) : (n.flush id).2.links = n.links := by
  unfold Network.flush
  split <;> rfl

theorem dequeue_links (id : StreamId) (timeout : Span) (n : Network) :
    (Network.dequeue id timeout n).2.links = n.links := by
  have hfirst := take_links id (n.advance n.now)
  unfold Network.dequeue
  simp only
  rcases htake : (n.advance n.now).take id with ⟨_ | b, m⟩ <;> rw [htake] at hfirst
  · simp only
    have hsecond := take_links id (m.advance
      (((m.streams[id]?.bind (·.nextFill?)).filter (· ≤ m.now + timeout)).getD
        (m.now + timeout)))
    split
    · exact hfirst
    · rcases hlater : Network.take id _ with ⟨_ | b, k⟩ <;> rw [hlater] at hsecond <;>
        exact hsecond.trans hfirst
  · exact hfirst

theorem core_pass {α : Type} {f : Network → α × Network}
    (hf : ∀ n, (f n).2.links = n.links) (b : Bench) :
    core (Refusing.pass f b).2 = b.core := by
  show ((f b.world).2.links, _, _) = _
  rw [hf]
  rfl

theorem core_now (b : Bench) : core (bench.clock.now b).2 = b.core := rfl

theorem core_sleep (span : Span) (b : Bench) :
    core (bench.clock.sleep span b) = b.core := rfl

theorem core_flush (id : StreamId) (b : Bench) :
    core ((bench.channel id).flush b).2 = b.core :=
  core_pass (flush_links id) b

theorem core_dequeue (id : StreamId) (timeout : Span) (b : Bench) :
    core ((bench.channel id).dequeue timeout b).2 = b.core :=
  core_pass (dequeue_links id timeout) b

theorem core_enqueue (id : StreamId) (x : Buffer) (b : Bench) :
    core ((bench.channel id).enqueue x b) = b.core := rfl

theorem core_enqueueAll (id : StreamId) (xs : List Buffer) (b : Bench) :
    core (xs.foldl (fun b x => (bench.channel id).enqueue x b) b) = b.core := by
  induction xs generalizing b with
  | nil => rfl
  | cons x rest ih =>
      rw [List.foldl_cons, ih, core_enqueue]

theorem core_drained (e : Engine) (wait : Span) (b : Bench) :
    core (Session.drained bench e wait b) = b.core := by
  show core (e.stop (bench.channel e.stream) bench.clock wait b).2 = _
  exact Engine.stop_frame core_now (core_flush e.stream) (core_dequeue e.stream) wait e b

theorem core_grab (e : Engine) (timeout : Span) (b : Bench) :
    core (e.grab (bench.channel e.stream) bench.clock timeout b).2.2 = b.core := by
  rcases Engine.grab_frame (f := core) (bench.channel e.stream) bench.clock core_now
    (core_dequeue e.stream) e timeout b with h | ⟨x, b', hb', h⟩
  · exact h
  · rw [h, core_enqueue, hb']

/-- A stream can always be opened. -/
theorem createStream_core (c : ConnectionId) (b : Bench) :
    ∃ id b', bench.createStream c b = (.ok id, b') ∧ b'.core = b.core :=
  ⟨_, _, rfl, rfl⟩

/-! ## Commands -/

/-- The connection has this link, and schedule and log of the bench are these. -/
structure Shows (c : ConnectionId) (l : Link) (schedule : Nat → Option CameraError)
    (log : List (String × Bool)) (b : Bench) : Prop where
  at' : b.At c l
  schedule : b.schedule = schedule
  commands : b.commands = log

variable {schedule : Nat → Option CameraError} {log : List (String × Bool)}

theorem Shows.of_core (h : b.Shows c l schedule log) (hb : b'.core = b.core) :
    b'.Shows c l schedule log := by
  refine ⟨h.at'.of_core hb, ?_, ?_⟩
  · injection hb with _ hb
    injection hb with hschedule _
    rw [hschedule, h.schedule]
  · injection hb with _ hb
    injection hb with _ hcommands
    rw [hcommands, h.commands]

theorem Shows.putLink (h : b.Shows c l schedule log) (l' : Link) :
    (b.putLink c l').Shows c l' schedule log :=
  ⟨h.at'.putLink l', h.schedule, h.commands⟩

theorem At.setAcquiring (h : b.At c l) (acquiring : Bool) :
    At c { l with acquiring } (Refusing.act (Network.setAcquiring c acquiring) b) := by
  have hl : b.world.links[c]? = some l := h
  show (b.world.links.modify c fun l => { l with acquiring })[c]? = _
  rw [List.getElem?_modify_eq, hl]
  rfl

theorem execute_eq (c : ConnectionId) (x : Command) (b : Bench) :
    bench.execute c x.name b = match b.schedule b.commands.length with
      | some e => (.error e, b.log x.name false)
      | none => (.ok (),
          (Refusing.act (Network.setAcquiring c x.acquires) b).log x.name true) := by
  have hnetwork : Network.execute c x.name =
      fun n => (.ok (), n.setAcquiring c x.acquires) := by
    funext n
    rw [Network.execute, Command.ofName?_name]
    cases x <;> rfl
  show Refusing.command x.name (Network.execute c x.name) b = _
  rw [hnetwork, Refusing.command]
  cases b.schedule b.commands.length <;> rfl

/-- A command is carried out unless the schedule refuses it. -/
theorem Shows.execute (h : b.Shows c l schedule log) (x : Command) :
    match schedule log.length with
    | none => ∃ b', bench.execute c x.name b = (.ok (), b') ∧
        b'.Shows c { l with acquiring := x.acquires } schedule ((x.name, true) :: log)
    | some e => ∃ b', bench.execute c x.name b = (.error e, b') ∧
        b'.Shows c l schedule ((x.name, false) :: log) := by
  obtain ⟨hat, rfl, rfl⟩ := h
  rw [execute_eq]
  cases b.schedule b.commands.length with
  | none => exact ⟨_, rfl, hat.setAcquiring x.acquires, rfl, rfl⟩
  | some e => exact ⟨_, rfl, hat, rfl, rfl⟩

/-! ## Connecting -/

/-- A new connection leads to one of the cameras, with its first registers; an
attempt that fails leaves the bench as it was. -/
theorem connect_cases (d : Descriptor) (b : Bench) :
    match bench.connect d b with
    | (.ok c, b') => ∃ camera ∈ b.world.cameras,
        b'.Shows c ⟨camera, Registers.initial camera, false⟩ b.schedule b.commands
    | (.error _, b') => b' = b := by
  have hcall : bench.connect d b = Refusing.pass (Network.connect d) b := by rfl
  rw [hcall]
  unfold Refusing.pass Network.connect
  cases hfind : b.world.find? d with
  | none => rfl
  | some camera =>
      simp only
      cases hreach : camera.reachable with
      | false => rfl
      | true =>
          have hmem : camera ∈ b.world.cameras := List.mem_of_find?_eq_some hfind
          exact ⟨camera, hmem, List.getElem?_concat_length, rfl, rfl⟩

end Bench
end FrameGrabber
