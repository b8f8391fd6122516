import FrameGrabber.Proofs.Projection
import FrameGrabber.Proofs.Standing

/-!
# The order of calls on a device

What a device sees of a session, from the first call to the last, is the trace of
a session that was let go of: attempts to connect, the connection, whole
passages, and the release of the connection. That shape is an invariant of the
session; the rules about the order of commands are read off it here.

Each rule is about one command in the trace. The command lies in one of the
passages, and a passage has it in one place only, with the rest of the passage on
either side. So a rule about what comes before or after it is a look at one
passage, except that counting stops up to the next start goes over the passages
that follow. No passage lets go of the connection, so that this comes last.
-/

namespace FrameGrabber

namespace DeviceEvent

/-- The device was told to stop, whatever it answered. -/
def isStop : DeviceEvent → Bool
  | execute _ name _ => name = Command.acquisitionStop.name
  | _ => false

/-- The device was told to start, whatever it answered. -/
def isStart : DeviceEvent → Bool
  | execute _ name _ => name = Command.acquisitionStart.name
  | _ => false

/-- The connection was let go of. -/
def isParting : DeviceEvent → Bool
  | releaseConnection _ => true
  | _ => false

/-- A device that streams should not see this: a feature written, a stream opened or let
go of, the connection let go of, another start. -/
def disturbs : DeviceEvent → Bool
  | write .. | openStream .. | releaseStream _ | releaseConnection _ => true
  | x => x.isStart

end DeviceEvent

/-- The rules for a whole trace, with rings of `n` buffers. -/
structure CallProtocol (n : Nat) (tr : List DeviceEvent) : Prop where
  /-- Before the device is told to start, a stream was opened and a whole ring
  was queued on it. -/
  prepared : ∀ before c accepted after,
    tr = before ++ .execute c Command.acquisitionStart.name accepted :: after →
    ∃ earlier stream, ∃ ids : List BufferId, IsRing n ids ∧
      before = earlier ++ .openStream c (some stream) :: ids.map (.enqueue stream)
  /-- Nothing disturbs a device that streams until it is told to stop. -/
  undisturbed : ∀ before c during x after,
    tr = before ++ .execute c Command.acquisitionStart.name true ::
      (during ++ x :: after) →
    (∀ y ∈ during, y.isStop = false) → x.disturbs = false
  /-- A device that is told to stop has started, and since then it was told
  neither to stop nor to start. -/
  started : ∀ before c accepted after,
    tr = before ++ .execute c Command.acquisitionStop.name accepted :: after →
    ∃ earlier during,
      before = earlier ++ .execute c Command.acquisitionStart.name true :: during ∧
        ∀ y ∈ during, y.isStop = false ∧ y.isStart = false
  /-- A device that started is told to stop once before it starts again, and its
  stream is let go of after that. The connection lasts all the while, and goes last. -/
  settled : ∀ before c after,
    tr = before ++ .execute c Command.acquisitionStart.name true :: after →
    (after.takeWhile fun y => !y.isStarted).countP (·.isStop) = 1 ∧
      ∃ earlier stream, ∃ ids : List BufferId, ∃ during accepted later,
        before = earlier ++ .openStream c (some stream) :: ids.map (.enqueue stream) ∧
          after = during ++ .execute c Command.acquisitionStop.name accepted ::
            .releaseStream stream :: (later ++ [.releaseConnection c]) ∧
          ∀ y ∈ before ++ during ++ later, y.isParting = false
  /-- Nothing comes after the connection was let go of. -/
  parted : ∀ before c after, tr = before ++ .releaseConnection c :: after → after = []

/-! ## Where an event of a list can be -/

/-- An event beyond `xs` is the next one or a later one. -/
theorem append_cons_eq_append_cons {α : Type} {xs ys zs ws : List α} {x y : α}
    (h : xs ++ y :: ys = zs ++ x :: ws) (hx : x ∉ xs) :
    (zs = xs ∧ x = y ∧ ws = ys) ∨ ∃ ms, zs = xs ++ y :: ms ∧ ys = ms ++ x :: ws := by
  rcases List.append_eq_append_iff.1 h with ⟨as, hzs, hys⟩ | ⟨bs, hxs, hws⟩
  · rcases List.cons_eq_append_iff.1 hys with ⟨has, hcons⟩ | ⟨ms, has, hrest⟩
    · injection hcons with hxy hws
      rw [has, List.append_nil] at hzs
      exact .inl ⟨hzs, hxy, hws⟩
    · rw [has] at hzs
      exact .inr ⟨ms, hzs, hrest⟩
  · rcases List.cons_eq_append_iff.1 hws with ⟨hbs, hcons⟩ | ⟨ms, hbs, -⟩
    · injection hcons with hxy hws
      rw [hbs, List.append_nil] at hxs
      exact .inl ⟨hxs.symm, hxy.symm, hws.symm⟩
    · refine absurd ?_ hx
      rw [hxs, hbs]
      simp

/-- An event of joined lists is in one of them. -/
theorem flatten_eq_append_cons {α : Type} {ps : List (List α)} {ys zs : List α} {x : α}
    (h : ps.flatten = ys ++ x :: zs) :
    ∃ qs p₁ p₂ rs, ps = qs ++ (p₁ ++ x :: p₂) :: rs ∧ ys = qs.flatten ++ p₁ ∧
      zs = p₂ ++ rs.flatten := by
  rcases List.flatten_eq_append_iff.1 h with
    ⟨as, bs, rfl, rfl, hbs⟩ | ⟨as, bs, y, cs, ds, rfl, rfl, hzs⟩
  · obtain ⟨qs, p₂, rs, rfl, hnil, rfl⟩ := List.flatten_eq_cons_iff.1 hbs.symm
    refine ⟨as ++ qs, [], p₂, rs, by simp, ?_, rfl⟩
    rw [List.flatten_append, List.flatten_eq_nil_iff.2 hnil, List.append_nil,
      List.append_nil]
  · injection hzs with hxy hzs
    subst hxy
    exact ⟨as, bs, cs, ds, rfl, rfl, hzs⟩

/-! ## Where a command of a passage can be -/

variable {n : Nat} {c : ConnectionId}

theorem execute_notMem_opening {c' : ConnectionId} {name : String} {accepted : Bool}
    {size : Nat} {stream : StreamId} {ids : List BufferId} :
    .execute c' name accepted ∉ opening c size stream ids := by
  simp [opening]

theorem execute_notMem_enqueues {c' : ConnectionId} {name : String} {accepted : Bool}
    {stream : StreamId} {ids : List BufferId} :
    .execute c' name accepted ∉ ids.map (DeviceEvent.enqueue stream) := by
  simp

/-- A command of a passage is the start that was refused, the start that was
accepted, or the stop. -/
theorem Passage.split {p₁ p₂ : List DeviceEvent} {c' : ConnectionId} {name : String}
    {accepted : Bool} (h : Passage n c (p₁ ++ .execute c' name accepted :: p₂)) :
    c' = c ∧ ∃ size stream ids, IsRing n ids ∧
      ((name = Command.acquisitionStart.name ∧ accepted = false ∧
          p₁ = opening c size stream ids ∧ p₂ = [.releaseStream stream]) ∨
        (∃ requeued : List BufferId, ∃ stopped,
          name = Command.acquisitionStart.name ∧ accepted = true ∧
          p₁ = opening c size stream ids ∧
          p₂ = requeued.map (.enqueue stream) ++
            [.execute c Command.acquisitionStop.name stopped, .releaseStream stream]) ∨
        ∃ requeued, name = Command.acquisitionStop.name ∧
          p₁ = opened c size stream ids requeued ∧ p₂ = [.releaseStream stream]) := by
  generalize hp : p₁ ++ .execute c' name accepted :: p₂ = p at h
  have hmem : DeviceEvent.execute c' name accepted ∈ p := by
    rw [← hp]
    simp
  cases h with
  | write feature value accepted => simp at hmem
  | unmeasured => simp at hmem
  | unopened size => simp at hmem
  | unqueued size stream => simp [opening] at hmem
  | refused size stream ring =>
      rcases append_cons_eq_append_cons hp.symm execute_notMem_opening with
        ⟨hp₁, hx, hp₂⟩ | ⟨ms, -, hms⟩
      · injection hx with hc hname haccepted
        exact ⟨hc, size, stream, _, ring, .inl ⟨hname, haccepted, hp₁, hp₂⟩⟩
      · rcases List.singleton_eq_append_iff.1 hms with ⟨-, h⟩ | ⟨-, h⟩ <;> simp at h
  | streamed size stream ring requeued stopped =>
      rw [opened, List.append_assoc, List.cons_append] at hp
      rcases append_cons_eq_append_cons hp.symm execute_notMem_opening with
        ⟨hp₁, hx, hp₂⟩ | ⟨ms, hp₁, hms⟩
      · injection hx with hc hname haccepted
        exact ⟨hc, size, stream, _, ring,
          .inr (.inl ⟨requeued, stopped, hname, haccepted, hp₁, hp₂⟩)⟩
      · rcases append_cons_eq_append_cons hms execute_notMem_enqueues with
          ⟨hms, hx, hp₂⟩ | ⟨ls, -, hls⟩
        · injection hx with hc hname haccepted
          rw [hms] at hp₁
          exact ⟨hc, size, stream, _, ring, .inr (.inr ⟨requeued, hname, hp₁, hp₂⟩)⟩
        · rcases List.singleton_eq_append_iff.1 hls with ⟨-, h⟩ | ⟨-, h⟩ <;> simp at h

/-- A command in the trace of a connection that was released is in one of its
passages. -/
theorem Rested.split {tr xs ys : List DeviceEvent} {c' : ConnectionId} {name : String}
    {accepted : Bool} (h : Rested n c tr)
    (hx : tr ++ [.releaseConnection c] = xs ++ .execute c' name accepted :: ys) :
    ∃ earlier p₁ p₂, ∃ rs : List (List DeviceEvent),
      Passage n c (p₁ ++ .execute c' name accepted :: p₂) ∧
      (∀ p ∈ rs, Passage n c p) ∧ xs = earlier ++ p₁ ∧
      ys = p₂ ++ (rs.flatten ++ [.releaseConnection c]) := by
  obtain ⟨misses, d, passages, hmisses, hpassages, rfl⟩ := h
  have hmiss : DeviceEvent.execute c' name accepted ∉ misses := by
    intro hmem
    obtain ⟨d', hd'⟩ := hmisses _ hmem
    cases hd'
  rw [List.append_assoc, List.cons_append] at hx
  rcases append_cons_eq_append_cons hx hmiss with ⟨-, h, -⟩ | ⟨ms, rfl, hms⟩
  · cases h
  · -- The last event is not a command, so the command is in the joined passages.
    obtain ⟨zs, hflat, hzs⟩ : ∃ zs, passages.flatten = ms ++ .execute c' name accepted :: zs ∧
        ys = zs ++ [.releaseConnection c] := by
      rcases List.append_eq_append_iff.1 hms with ⟨as, -, has⟩ | ⟨bs, hflat, hbs⟩
      · rcases List.singleton_eq_append_iff.1 has with ⟨-, h⟩ | ⟨-, h⟩ <;> simp at h
      · rcases List.cons_eq_append_iff.1 hbs with ⟨-, h⟩ | ⟨zs, rfl, hzs⟩
        · simp at h
        · exact ⟨zs, hflat, hzs⟩
    obtain ⟨qs, p₁, p₂, rs, rfl, rfl, rfl⟩ := flatten_eq_append_cons hflat
    refine ⟨misses ++ .connect d (some c) :: qs.flatten, p₁, p₂, rs, ?_, ?_, ?_, ?_⟩
    · exact hpassages _ (by simp)
    · exact fun p hp => hpassages p (by simp [hp])
    · simp
    · rw [hzs, List.append_assoc]

/-- The same for the trace of a session that is gone. -/
theorem Session.Gone.split {W : Type} {o : SessionOptions} {s : Session (Traced W)}
    {xs ys : List DeviceEvent} {c' : ConnectionId} {name : String} {accepted : Bool}
    (h : Gone o s) (hx : s.world.trace = xs ++ .execute c' name accepted :: ys) :
    ∃ c earlier p₁ p₂, ∃ rs : List (List DeviceEvent),
      Passage o.bufferCount c (p₁ ++ .execute c' name accepted :: p₂) ∧
      (∀ p ∈ rs, Passage o.bufferCount c p) ∧ xs = earlier ++ p₁ ∧
      ys = p₂ ++ (rs.flatten ++ [.releaseConnection c]) := by
  rcases h.trace with hmiss | ⟨c, before, hbefore, htrace⟩
  · obtain ⟨d, hd⟩ := hmiss (.execute c' name accepted) (by rw [hx]; simp)
    cases hd
  · rw [htrace] at hx
    exact ⟨c, hbefore.split hx⟩

/-! ## Letting go of the connection -/

theorem isParting_of_mem_opening {size : Nat} {stream : StreamId} {ids : List BufferId}
    {x : DeviceEvent} (h : x ∈ opening c size stream ids) : x.isParting = false := by
  simp only [opening, List.mem_cons, List.mem_map] at h
  rcases h with rfl | rfl | ⟨id, -, rfl⟩ <;> rfl

/-- No passage lets go of the connection. -/
theorem Passage.isParting {p : List DeviceEvent} (h : Passage n c p) :
    ∀ x ∈ p, x.isParting = false := by
  intro x hx
  cases h with
  | write feature value accepted =>
      rw [List.mem_singleton.1 hx]
      rfl
  | unmeasured =>
      rw [List.mem_singleton.1 hx]
      rfl
  | unopened size =>
      simp only [List.mem_cons, List.not_mem_nil, or_false] at hx
      rcases hx with rfl | rfl <;> rfl
  | unqueued size stream =>
      rcases List.mem_append.1 hx with hx | hx
      · exact isParting_of_mem_opening hx
      · rw [List.mem_singleton.1 hx]
        rfl
  | refused size stream ring =>
      rcases List.mem_append.1 hx with hx | hx
      · exact isParting_of_mem_opening hx
      · simp only [List.mem_cons, List.not_mem_nil, or_false] at hx
        rcases hx with rfl | rfl <;> rfl
  | streamed size stream ring requeued stopped =>
      simp only [opened, List.mem_append, List.mem_cons, List.mem_map, List.not_mem_nil,
        or_false] at hx
      rcases hx with (hx | rfl | ⟨id, -, rfl⟩) | rfl | rfl
      · exact isParting_of_mem_opening hx
      all_goals rfl

theorem isParting_of_mem_flatten {ps : List (List DeviceEvent)} (h : ∀ p ∈ ps, Passage n c p)
    {x : DeviceEvent} (hx : x ∈ ps.flatten) : x.isParting = false := by
  obtain ⟨p, hp, hxp⟩ := List.mem_flatten.1 hx
  exact (h p hp).isParting x hxp

theorem Missed.isParting {tr : List DeviceEvent} (h : Missed tr) :
    ∀ x ∈ tr, x.isParting = false := by
  intro x hx
  obtain ⟨d, rfl⟩ := h x hx
  rfl

/-- Up to its release the connection lasts. -/
theorem Rested.isParting {tr : List DeviceEvent} (h : Rested n c tr) :
    ∀ x ∈ tr, x.isParting = false := by
  obtain ⟨misses, d, passages, hmisses, hpassages, rfl⟩ := h
  intro x hx
  simp only [List.mem_append, List.mem_cons] at hx
  rcases hx with hx | rfl | hx
  · exact hmisses.isParting x hx
  · rfl
  · exact isParting_of_mem_flatten hpassages hx

/-- In the trace of a session that is gone the connection was let go of once, and last. -/
theorem Session.Gone.parted {W : Type} {o : SessionOptions} {s : Session (Traced W)}
    {before after : List DeviceEvent} {c : ConnectionId} (h : Gone o s)
    (htrace : s.world.trace = before ++ .releaseConnection c :: after) :
    after = [] ∧ ∀ x ∈ before, x.isParting = false := by
  rcases h.trace with hmiss | ⟨c', tr, hrested, htr⟩
  · have hkept := hmiss.isParting (.releaseConnection c) (by rw [htrace]; simp)
    exact absurd hkept (by simp [DeviceEvent.isParting])
  · have hnot : DeviceEvent.releaseConnection c ∉ tr := fun hmem =>
      absurd (hrested.isParting _ hmem) (by simp [DeviceEvent.isParting])
    rw [htr] at htrace
    rcases append_cons_eq_append_cons htrace hnot with ⟨rfl, -, hnil⟩ | ⟨ms, -, hms⟩
    · exact ⟨hnil, hrested.isParting⟩
    · simp at hms

/-! ## Counting stops -/

theorem countP_takeWhile_append {α : Type} {p q : α → Bool} {xs ys : List α}
    (hxs : (xs.takeWhile p).countP q = 0) (hys : (ys.takeWhile p).countP q = 0) :
    ((xs ++ ys).takeWhile p).countP q = 0 := by
  rw [List.takeWhile_append]
  split
  · next hlen =>
      rw [(List.takeWhile_prefix p).eq_of_length hlen] at hxs
      rw [List.countP_append, hxs, hys]
  · exact hxs

theorem countP_takeWhile_of_forall {α : Type} {p q : α → Bool} {xs : List α}
    (h : ∀ x ∈ xs, q x = false) : (xs.takeWhile p).countP q = 0 := by
  rw [List.countP_eq_zero]
  intro x hx
  rw [h x (List.takeWhile_subset p hx)]
  decide

theorem isStop_of_mem_opening {size : Nat} {stream : StreamId} {ids : List BufferId}
    {x : DeviceEvent} (h : x ∈ opening c size stream ids) : x.isStop = false := by
  simp only [opening, List.mem_cons, List.mem_map] at h
  rcases h with rfl | rfl | ⟨id, -, rfl⟩ <;> rfl

/-- In a passage no stop comes before a start that was accepted. -/
theorem Passage.countP_takeWhile {p : List DeviceEvent} (h : Passage n c p) :
    (p.takeWhile fun y => !y.isStarted).countP (·.isStop) = 0 := by
  cases h with
  | write feature value accepted => rfl
  | unmeasured => rfl
  | unopened size => rfl
  | unqueued size stream => rfl
  | refused size stream ring =>
      exact countP_takeWhile_append
        (countP_takeWhile_of_forall fun _ => isStop_of_mem_opening) rfl
  | streamed size stream ring requeued stopped =>
      rw [opened, List.append_assoc, List.cons_append]
      exact countP_takeWhile_append
        (countP_takeWhile_of_forall fun _ => isStop_of_mem_opening) rfl

theorem countP_takeWhile_flatten {ps : List (List DeviceEvent)}
    (h : ∀ p ∈ ps, Passage n c p) :
    ((ps.flatten ++ [DeviceEvent.releaseConnection c]).takeWhile
      fun y => !y.isStarted).countP (·.isStop) = 0 := by
  induction ps with
  | nil => rfl
  | cons p rest ih =>
      rw [List.flatten_cons, List.append_assoc]
      exact countP_takeWhile_append (h p (List.mem_cons_self ..)).countP_takeWhile
        (ih fun q hq => h q (List.mem_cons_of_mem p hq))

/-! ## The rules -/

namespace Session

variable {W : Type} {o : SessionOptions} {s : Session (Traced W)}

/-- Around a start that was accepted: the ring before it, and after it buffers
that are queued again, the stop, and the release of the stream. -/
theorem Gone.split_started {before after : List DeviceEvent} {c : ConnectionId}
    (h : Gone o s)
    (htrace : s.world.trace =
      before ++ .execute c Command.acquisitionStart.name true :: after) :
    ∃ earlier size stream, ∃ ids requeued : List BufferId, ∃ stopped,
      ∃ rs : List (List DeviceEvent),
      IsRing o.bufferCount ids ∧ (∀ p ∈ rs, Passage o.bufferCount c p) ∧
        before = earlier ++ opening c size stream ids ∧
        after = requeued.map (.enqueue stream) ++
          .execute c Command.acquisitionStop.name stopped :: .releaseStream stream ::
            (rs.flatten ++ [.releaseConnection c]) := by
  obtain ⟨c', earlier, p₁, p₂, rs, hp, hrs, rfl, rfl⟩ := h.split htrace
  obtain ⟨rfl, size, stream, ids, hids, hcases⟩ := hp.split
  rcases hcases with ⟨-, h, -⟩ | ⟨requeued, stopped, -, -, rfl, rfl⟩ | ⟨-, h, -⟩
  · cases h
  · exact ⟨earlier, size, stream, ids, requeued, stopped, rs, hids, hrs, rfl, by simp⟩
  · exact absurd h (by decide)

/-- The trace of a session that is gone follows the rules. -/
theorem Gone.callProtocol (h : Gone o s) :
    CallProtocol o.bufferCount s.world.trace where
  prepared := by
    intro before c accepted after htrace
    obtain ⟨c', earlier, p₁, p₂, rs, hp, -, rfl, -⟩ := h.split htrace
    obtain ⟨rfl, size, stream, ids, hids, hcases⟩ := hp.split
    have hp₁ : p₁ = opening c size stream ids := by
      rcases hcases with ⟨-, -, h, -⟩ | ⟨-, -, -, -, h, -⟩ | ⟨-, h, -⟩
      · exact h
      · exact h
      · exact absurd h (by decide)
    refine ⟨earlier ++ [.measure c (some size)], stream, ids, hids, ?_⟩
    rw [hp₁, List.append_assoc]
    rfl
  undisturbed := by
    intro before c during x after htrace hduring
    obtain ⟨earlier, size, stream, ids, requeued, stopped, rs, -, -, -, hafter⟩ :=
      h.split_started htrace
    by_cases hx : x ∈ requeued.map (DeviceEvent.enqueue stream)
    · obtain ⟨id, -, rfl⟩ := List.mem_map.1 hx
      rfl
    · rcases append_cons_eq_append_cons hafter.symm hx with ⟨-, rfl, -⟩ | ⟨ms, hms, -⟩
      · rfl
      -- The stop would be among the events after which `x` comes.
      · have hstop := hduring (.execute c Command.acquisitionStop.name stopped)
          (by rw [hms]; simp)
        exact absurd hstop (by simp [DeviceEvent.isStop])
  started := by
    intro before c accepted after htrace
    obtain ⟨c', earlier, p₁, p₂, rs, hp, -, rfl, -⟩ := h.split htrace
    obtain ⟨rfl, size, stream, ids, hids, hcases⟩ := hp.split
    obtain ⟨requeued, hp₁⟩ : ∃ requeued, p₁ = opened c size stream ids requeued := by
      rcases hcases with ⟨h, -⟩ | ⟨-, -, h, -⟩ | ⟨requeued, -, h, -⟩
      · exact absurd h (by decide)
      · exact absurd h (by decide)
      · exact ⟨requeued, h⟩
    refine ⟨earlier ++ opening c size stream ids, requeued.map (.enqueue stream), ?_, ?_⟩
    · rw [hp₁, opened, List.append_assoc]
    · intro y hy
      obtain ⟨id, -, rfl⟩ := List.mem_map.1 hy
      exact ⟨rfl, rfl⟩
  settled := by
    intro before c after htrace
    obtain ⟨earlier, size, stream, ids, requeued, stopped, rs, -, hrs, rfl, rfl⟩ :=
      h.split_started htrace
    refine ⟨?_, earlier ++ [.measure c (some size)], stream, ids,
      requeued.map (.enqueue stream), stopped, rs.flatten, ?_, rfl, ?_⟩
    · have hring : ∀ y ∈ requeued.map (DeviceEvent.enqueue stream),
          (!y.isStarted) = true ∧ y.isStop = false := by
        intro y hy
        obtain ⟨id, -, rfl⟩ := List.mem_map.1 hy
        exact ⟨rfl, rfl⟩
      have hnone : (requeued.map (DeviceEvent.enqueue stream)).countP (·.isStop) = 0 := by
        rw [List.countP_eq_zero]
        intro y hy
        rw [(hring y hy).2]
        decide
      have hlater := countP_takeWhile_flatten hrs
      rw [List.takeWhile_append_of_pos fun y hy => (hring y hy).1, List.countP_append,
        hnone, List.takeWhile_cons_of_pos (by rfl), List.countP_cons_of_pos (by rfl),
        List.takeWhile_cons_of_pos (by rfl),
        List.countP_cons_of_neg (by simp [DeviceEvent.isStop]), hlater]
    · rw [List.append_assoc]
      rfl
    · -- All of these come before the last event of the trace.
      have hbefore : s.world.trace = (earlier ++ opening c size stream ids ++
          .execute c Command.acquisitionStart.name true ::
            (requeued.map (.enqueue stream) ++ .execute c Command.acquisitionStop.name stopped ::
              .releaseStream stream :: rs.flatten)) ++ .releaseConnection c :: [] := by
        rw [htrace]
        simp
      intro y hy
      refine (h.parted hbefore).2 y ?_
      simp only [List.mem_append, List.mem_cons] at hy ⊢
      grind
  parted := fun before c after htrace => (h.parted htrace).1

/-- A session that was disconnected or let go of has called its device in order,
whatever was asked of it before and whatever the device answered. -/
theorem release_after_callProtocol (t : Transport W) (w : W) (o : SessionOptions)
    (ops : List Operation) :
    let s := release t.traced (after t.traced (new { world := w } o) ops)
    CallProtocol o.bufferCount s.world.trace ∧
      s.map Traced.world = release t (after t (new w o) ops) := by
  intro s
  refine ⟨((standing_new w o).after ops).release.callProtocol, ?_⟩
  have hafter := after_map t.traced_projects ops (new { world := w } o)
  have hrelease := release_map t.traced_projects (after t.traced (new { world := w } o) ops)
  rw [← hafter] at hrelease
  exact hrelease.symm

end Session
end FrameGrabber
