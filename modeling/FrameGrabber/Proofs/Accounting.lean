import FrameGrabber.Proofs.Counting
import FrameGrabber.Proofs.Keeping
import FrameGrabber.Sim.Network

/-!
# The counters of a session are right

Of all that can be asked of a session only a grab counts, be it one of its own or
one that a round of a frame loop makes. So with the answers of all grabs since
the session was made, the counters are the numbers of answers of each kind, and
the number of a frame is the number of frames since the last start that
succeeded. Sessions are over traced worlds here, which is where such starts are
found; the invariant is about the answers so far, and each request adds at most
one to them.
-/

namespace FrameGrabber

namespace Session

variable {W : Type} {t : Transport W} {o : SessionOptions} {c : ConnectionId} {e : Engine}
  {s s' s'' : Session (Traced W)}

/-! ## A grab of a session -/

/-- What an answer does to a session, in the words of `Engine.Counted`. -/
structure Counted (a : Answer) (s s' : Session (Traced W)) : Prop where
  delivered : s'.stats.delivered = s.stats.delivered + a.isFrame.toNat
  dropped : s'.stats.dropped = s.stats.dropped + a.isTransient.toNat
  timeouts : s'.stats.timeouts = s.stats.timeouts + a.isTimeout.toNat
  starts : s'.world.starts = s.world.starts
  sequence : ∀ e', s'.engine = some e' →
    ∃ e, s.engine = some e ∧ e'.sequence = e.sequence + a.isFrame.toNat
  numbered : ∀ f, a.result = .ok f → ∃ e, s.engine = some e ∧ f.sequence = e.sequence
  fatal : a.isFrame = false → a.isTransient = false → s'.stats = s.stats

theorem counted_of_refused {n : Nat} {err : CameraError} (hfatal : err.isTransient = false) :
    Counted ⟨n, .error err⟩ s s := by
  have htimeout : (⟨n, .error err⟩ : Answer).isTimeout = false :=
    Answer.isTimeout_of_fatal hfatal
  refine ⟨rfl, ?_, ?_, rfl, fun e he => ⟨e, he, rfl⟩, fun _ h => (nomatch h), fun _ _ => rfl⟩
  · show _ = _ + err.isTransient.toNat
    rw [hfatal]
    rfl
  · rw [htimeout]
    rfl

theorem grab_counted (hplain : ∀ id, (t.channel id).Plain) (h : Standing o s)
    (timeout : Span) :
    Counted ⟨s.world.starts, (grab t.traced timeout s).1⟩ s
      (grab t.traced timeout s).2 := by
  rcases grab_of_standing (t := t) h timeout with ⟨c, e, h⟩ | ⟨err, hfatal, hsame⟩
  · have htraced : (t.traced.channel e.stream).Plain :=
      fun timeout w => hplain e.stream timeout w.world
    have hcounted := Engine.grab_counted t.traced.clock htraced e timeout s.world
      s.world.starts
    obtain ⟨ids, htrace⟩ := grab_trace (t := t) (w := s.world) e timeout
    have hstarts := Traced.starts_of_append htrace (enqueues_notStarted e.stream ids)
    rw [grab_eq timeout h.closed h.acquisition h.engine]
    have hstats : s.stats = e.counters := stats_of_engine h.engine
    refine ⟨?_, ?_, ?_, hstarts, fun e' he => ?_, fun f hf => ?_,
      fun hframe htransient => ?_⟩
    · rw [hstats]
      exact hcounted.delivered
    · rw [hstats]
      exact hcounted.dropped
    · rw [hstats]
      exact hcounted.timeouts
    · cases he
      exact ⟨e, h.engine, hcounted.sequence⟩
    · exact ⟨e, h.engine, hcounted.numbered f hf⟩
    · rw [hstats]
      exact hcounted.fatal hframe htransient
  · rw [hsame]
    exact counted_of_refused hfatal

/-! ## A round of a frame loop -/

/-- Only time went by. -/
def Later (s s' : Session (Traced W)) : Prop :=
  ∃ world, s' = { s with world } ∧ world.trace = s.world.trace

theorem Later.trans (h : Later s s') (h' : Later s' s'') : Later s s'' := by
  obtain ⟨world, rfl, htrace⟩ := h
  obtain ⟨world', rfl, htrace'⟩ := h'
  exact ⟨world', rfl, htrace'.trans htrace⟩

theorem Later.keeps (h : Later s s') : Keeps s s' := by
  obtain ⟨world, rfl, htrace⟩ := h
  exact Idles.keeps ⟨rfl, rfl, rfl, rfl, by rw [Traced.starts, htrace, Traced.starts]⟩

theorem Standing.later (h : Standing o s) (hl : Later s s') : Standing o s' := by
  obtain ⟨world, rfl, htrace⟩ := hl
  rcases h with h | ⟨c, h⟩ | ⟨c, e, h⟩ | h
  · exact .apart { h with
      trace := by
        show Missed world.trace
        rw [htrace]
        exact h.trace }
  · exact (Engaged.asked (.inl h) htrace).standing
  · exact (Engaged.asked (.inr ⟨e, h⟩) htrace).standing
  · exact .gone { h with
      trace := by
        show Missed world.trace ∨ _
        rw [htrace]
        exact h.trace }

theorem clock_now_later : Later s ((clock t.traced).now s).2 := ⟨_, rfl, rfl⟩

theorem clock_sleep_later (span : Span) : Later s ((clock t.traced).sleep span s) :=
  ⟨_, rfl, rfl⟩

end Session

open Session

variable {W : Type} {t : Transport W} {o : SessionOptions}

theorem Pipeline.dispatch_source {consumers : List (Consumer (Studio (Session (Traced W))))}
    (hspares : ∀ c ∈ consumers, ∀ f i w, (c.onFrame f i w).2.source = w.source)
    (f : Frame) (w : Studio (Session (Traced W))) :
    (dispatch consumers f w).source = w.source := by
  induction consumers generalizing w with
  | nil => rfl
  | cons c rest ih =>
      have hrest : ∀ c ∈ rest, ∀ f i w, (c.onFrame f i w).2.source = w.source :=
        fun c hc => hspares c (List.mem_cons_of_mem _ hc)
      exact (ih hrest _).trans (hspares c List.mem_cons_self f f.timestamp w)

/-- Delivering a frame takes time, and nothing else of the session. -/
theorem Pipeline.deliver_later {p : Pipeline (Studio (Session (Traced W)))}
    (hspares : ∀ c ∈ p.consumers, ∀ f i w, (c.onFrame f i w).2.source = w.source)
    (f : Frame) (w : Studio (Session (Traced W))) :
    Later w.source (p.deliver (Request.source t).clock f w).2.source := by
  have hpace : Later w.source (p.pace (Request.source t).clock w).source := by
    unfold pace
    split
    · simp only
      split
      · exact clock_now_later
      · exact clock_now_later.trans (clock_sleep_later _)
    · exact ⟨_, rfl, rfl⟩
  have hstamp := hpace.trans (clock_now_later (t := t))
  unfold deliver
  simp only [dispatch_source hspares]
  exact hstamp

theorem Pipeline.step_eq (p : Pipeline (Studio (Session (Traced W))))
    (w : Studio (Session (Traced W))) :
    p.step (Request.source t) w = match Session.grab t.traced p.grabTimeout w.source with
      | (.ok f, source) =>
        let (p, w) := p.deliver (Request.source t).clock f.normalize { w with source }
        (.ok .delivered, p, w)
      | (.error e, source) =>
        if e.isTransient then (.ok .skipped, p, { w with source })
        else (.error e, p, { w with source }) := by
  have hgrab : (Request.source t).grab p.grabTimeout w =
      ((Session.grab t.traced p.grabTimeout w.source).1,
        { w with source := (Session.grab t.traced p.grabTimeout w.source).2 }) := rfl
  rw [step, hgrab]
  rcases Session.grab t.traced p.grabTimeout w.source with ⟨_ | _, _⟩ <;> rfl

/-- A round is delivered, skipped or failed as the grab in it says. -/
theorem Pipeline.step_round (p : Pipeline (Studio (Session (Traced W))))
    (w : Studio (Session (Traced W))) (n : Nat) :
    (p.step (Request.source t) w).1 =
      (⟨n, (Session.grab t.traced p.grabTimeout w.source).1⟩ : Answer).round := by
  rw [step_eq]
  rcases Session.grab t.traced p.grabTimeout w.source with ⟨err | f, s⟩
  · cases htransient : err.isTransient <;> simp [Answer.round, htransient]
  · rfl

theorem Pipeline.step_later {p : Pipeline (Studio (Session (Traced W)))}
    (hspares : ∀ c ∈ p.consumers, ∀ f i w, (c.onFrame f i w).2.source = w.source)
    (w : Studio (Session (Traced W))) :
    Later (Session.grab t.traced p.grabTimeout w.source).2
      (p.step (Request.source t) w).2.2.source := by
  rw [step_eq]
  rcases Session.grab t.traced p.grabTimeout w.source with ⟨err | f, s⟩
  · simp only
    split
    · exact ⟨_, rfl, rfl⟩
    · exact ⟨_, rfl, rfl⟩
  · exact deliver_later hspares f.normalize { w with source := s }

/-! ## Whole chronicles -/

/-- The counters agree with the answers so far, and a running engine has the
number of the frame that comes next. -/
structure Audited (o : SessionOptions) (answers : List Answer) (s : Session (Traced W)) :
    Prop extends Staffed o s where
  delivered : s.stats.delivered = answers.countP (·.isFrame)
  dropped : s.stats.dropped = answers.countP (·.isTransient)
  timeouts : s.stats.timeouts = answers.countP (·.isTimeout)
  earlier : ∀ a ∈ answers, a.starts ≤ s.world.starts
  sequence : ∀ e, s.engine = some e → e.sequence = framesSince s.world.starts answers

variable {answers : List Answer} {s s' : Session (Traced W)}

theorem audited_new (w : W) (o : SessionOptions) :
    Audited o [] (Session.new { world := w } o) where
  toStaffed := staffed_new w o
  delivered := rfl
  dropped := rfl
  timeouts := rfl
  earlier _ ha := (nomatch ha)
  sequence _ he := (nomatch he)

theorem countP_concat (p : Answer → Bool) (answers : List Answer) (a : Answer) :
    (answers ++ [a]).countP p = answers.countP p + (p a).toNat := by
  rw [List.countP_append, List.countP_singleton]
  cases p a <;> rfl

theorem Audited.keeps (h : Audited o answers s) (hk : Keeps s s') (hs : Standing o s') :
    Audited o answers s' where
  toStaffed := h.toStaffed.keeps hk hs
  delivered := by rw [hk.stats, h.delivered]
  dropped := by rw [hk.stats, h.dropped]
  timeouts := by rw [hk.stats, h.timeouts]
  earlier a ha := Nat.le_trans (h.earlier a ha) hk.starts_le
  sequence e' he' := by
    rcases hk.engine e' he' with ⟨hsame, e, he, hsequence⟩ | ⟨hmore, hzero, -⟩
    · rw [hsequence, h.sequence e he, hsame]
    -- No answer so far came after the start that the engine is from.
    · rw [hzero, framesSince, eq_comm, List.countP_eq_zero]
      intro a ha
      have hold : a.starts ≠ s'.world.starts :=
        Nat.ne_of_lt (Nat.lt_of_le_of_lt (h.earlier a ha) hmore)
      simp [hold]

theorem Audited.counted {a : Answer} (h : Audited o answers s) (ha : a.starts = s.world.starts)
    (hc : Session.Counted a s s') (hs : Staffed o s') : Audited o (answers ++ [a]) s' where
  toStaffed := hs
  delivered := by rw [hc.delivered, h.delivered, countP_concat]
  dropped := by rw [hc.dropped, h.dropped, countP_concat]
  timeouts := by rw [hc.timeouts, h.timeouts, countP_concat]
  earlier b hb := by
    rw [hc.starts]
    rcases List.mem_append.1 hb with hb | hb
    · exact h.earlier b hb
    · exact Nat.le_of_eq (by rw [List.mem_singleton.1 hb, ha])
  sequence e' he' := by
    obtain ⟨e, he, hsequence⟩ := hc.sequence e' he'
    rw [hsequence, h.sequence e he, framesSince, framesSince, countP_concat, hc.starts, ha]
    simp

theorem Audited.grab (hplain : ∀ id, (t.channel id).Plain) (h : Audited o answers s)
    (timeout : Span) :
    Audited o (answers ++ [⟨s.world.starts, (Session.grab t.traced timeout s).1⟩])
      (Session.grab t.traced timeout s).2 :=
  h.counted rfl (grab_counted hplain h.standing timeout) (h.toStaffed.grab timeout)

theorem Audited.later (h : Audited o answers s) (hl : Later s s') : Audited o answers s' :=
  h.keeps hl.keeps (h.standing.later hl)

/-- One request, whatever is asked. -/
theorem Audited.serve {w : Studio (Session (Traced W))} (hplain : ∀ id, (t.channel id).Plain)
    (h : Audited o answers w.source) (r : Request W) (hspares : r.Spares) :
    Audited o (answers ++ (r.answer? t w).toList) (r.serve t w).source := by
  cases r with
  | operation x =>
      by_cases hx : ∃ timeout, x = .grab timeout
      · obtain ⟨timeout, rfl⟩ := hx
        have hgrab := h.grab hplain timeout
        show Audited o _ (Operation.perform t.traced (.grab timeout) w.source).2
        rw [Operation.perform, SessionM.run_map]
        exact hgrab
      · have hnone : (Request.operation x).answer? t w = none := by
          cases x with
          | grab timeout => exact absurd ⟨timeout, rfl⟩ hx
          | _ => rfl
        rw [hnone, Option.toList_none, List.append_nil]
        exact h.keeps
          (perform_keeps h.standing h.fresh x fun timeout he => hx ⟨timeout, he⟩)
          (h.standing.perform x)
  | round p =>
      have hgrab := h.grab hplain p.grabTimeout
      exact hgrab.later (Pipeline.step_later hspares w)

theorem Audited.chronicle (hplain : ∀ id, (t.channel id).Plain) (requests : List (Request W))
    {w : Studio (Session (Traced W))} (h : Audited o answers w.source)
    (hspares : ∀ r ∈ requests, r.Spares) :
    Audited o (answers ++ (chronicle t requests w).1) (chronicle t requests w).2.source := by
  induction requests generalizing answers w with
  | nil =>
      rw [FrameGrabber.chronicle, List.append_nil]
      exact h
  | cons r rest ih =>
      have hfirst := h.serve hplain r (hspares r List.mem_cons_self)
      have hrest := ih hfirst fun r' hr' => hspares r' (List.mem_cons_of_mem _ hr')
      rw [List.append_assoc] at hrest
      exact hrest

/-- The counters of the session in a studio are the numbers of answers of each
kind. -/
structure Accounts (answers : List Answer) (w : Studio (Session (Traced W))) : Prop where
  delivered : w.source.stats.delivered = answers.countP (·.isFrame)
  dropped : w.source.stats.dropped = answers.countP (·.isTransient)
  timeouts : w.source.stats.timeouts = answers.countP (·.isTimeout)
  timeouts_le : w.source.stats.timeouts ≤ w.source.stats.dropped

/-- What one more request does, after these answers. -/
structure Continues (t : Transport W) (answers : List Answer) (w : Studio (Session (Traced W)))
    (r : Request W) : Prop where
  /-- Only a grab counts. -/
  uncounted : r.answer? t w = none → (r.serve t w).source.stats = w.source.stats
  /-- A failure for good does not count. -/
  fatal : ∀ a, r.answer? t w = some a → a.isFrame = false → a.isTransient = false →
    (r.serve t w).source.stats = w.source.stats
  /-- A frame carries the number of frames since the last start, also into a
  frame loop. -/
  numbered : ∀ a f, r.answer? t w = some a → a.result = .ok f →
    f.sequence = framesSince a.starts answers ∧ f.normalize.sequence = f.sequence
  /-- A frame loop delivers, skips or fails as the answer says. -/
  round : ∀ p a, r = .round p → r.answer? t w = some a →
    (p.step (Request.source t) w).1 = a.round

theorem Audited.accounts {w : Studio (Session (Traced W))} (h : Audited o answers w.source) :
    Accounts answers w where
  delivered := h.delivered
  dropped := h.dropped
  timeouts := h.timeouts
  timeouts_le := by
    rw [h.timeouts, h.dropped]
    exact List.countP_mono_left fun a _ ha => a.isTransient_of_isTimeout ha

theorem Request.answer?_eq_some {w : Studio (Session (Traced W))} {r : Request W}
    {a : Answer} (h : r.answer? t w = some a) :
    ∃ timeout, r.wait? = some timeout ∧
      a = ⟨w.source.world.starts, (Session.grab t.traced timeout w.source).1⟩ := by
  obtain ⟨timeout, hwait, rfl⟩ := Option.map_eq_some_iff.1 h
  exact ⟨timeout, hwait, rfl⟩

theorem Audited.continues {w : Studio (Session (Traced W))} (hplain : ∀ id, (t.channel id).Plain)
    (h : Audited o answers w.source) (r : Request W) : Continues t answers w r where
  uncounted hnone := by
    cases r with
    | operation x =>
        have hx : ∀ timeout, x ≠ .grab timeout := by
          rintro timeout rfl
          cases hnone
        exact (perform_keeps h.standing h.fresh x hx).stats
    | round p => cases hnone
  fatal a ha hframe htransient := by
    obtain ⟨timeout, hwait, rfl⟩ := Request.answer?_eq_some ha
    have hsame := (grab_counted hplain h.standing timeout).fatal hframe htransient
    cases r with
    | operation x =>
        cases x with
        | grab timeout' =>
            cases hwait
            show (Operation.perform t.traced (.grab timeout) w.source).2.stats = _
            rw [Operation.perform, SessionM.run_map]
            exact hsame
        | _ => cases hwait
    | round p =>
        cases hwait
        show (p.step (Request.source t) w).2.2.source.stats = _
        rw [Pipeline.step_eq]
        rcases hg : Session.grab t.traced p.grabTimeout w.source with ⟨err | f, s⟩ <;>
          rw [hg] at hframe hsame
        · simp only
          split
          · exact hsame
          · exact hsame
        · cases hframe
  numbered a f ha hf := by
    obtain ⟨timeout, -, rfl⟩ := Request.answer?_eq_some ha
    obtain ⟨e, he, hnumber⟩ := (grab_counted hplain h.standing timeout).numbered f hf
    exact ⟨hnumber.trans (h.sequence e he), f.normalize_sequence⟩
  round p a hr ha := by
    subst hr
    obtain ⟨timeout, hwait, rfl⟩ := Request.answer?_eq_some ha
    cases hwait
    exact Pipeline.step_round p w w.source.world.starts

/-! ## What may be asked and what may be streamed -/

theorem Studio.install_spares {S : Type} (sink : Sink) (studio w : Studio S) (f : Frame)
    (i : Instant) : ((install sink studio).1.onFrame f i w).2.source = w.source := by
  show (deliver studio.sinks.length f w).2.source = w.source
  unfold deliver
  split <;> rfl

theorem Studio.recorder_spares {S : Type} (name : String) (refuse halt : Nat → Bool)
    (f : Frame) (i : Instant) (w : Studio S) :
    ((recorder name refuse halt).onFrame f i w).2.source = w.source := by
  simp only [recorder]
  split <;> rfl

/-- A simulated stream fails by letting a wait pass, or else for good. -/
theorem Network.channel_plain (id : StreamId) : (Network.transport.channel id).Plain := by
  intro timeout n e he htransient
  have hdequeue : (Network.transport.channel id).dequeue timeout n =
      Network.dequeue id timeout n := rfl
  rw [hdequeue, Network.dequeue] at he
  simp only at he
  split at he
  · cases he
  · split at he
    · cases he
      cases htransient
    · split at he
      · cases he
      · cases he
        split at htransient
        · cases htransient
        · next hwell => exact ⟨timeout, if_neg hwell⟩

/-! ## Accounts -/

/-- A session is made, and anything is asked of it in any order, grabs of its own
and rounds of frame loops among the rest. Its counters are then the numbers of
frames, of failures that concern one frame, and of timeouts that the grabs
brought, and each further request goes on from there. -/
theorem chronicle_accounts (t : Transport W) (hplain : ∀ id, (t.channel id).Plain) (w : W)
    (o : SessionOptions) (requests : List (Request W)) (hspares : ∀ r ∈ requests, r.Spares) :
    let run := chronicle t requests { source := Session.new { world := w } o }
    Accounts run.1 run.2 ∧ ∀ r, Continues t run.1 run.2 r := by
  have haudited : Audited o ([] ++ _) _ :=
    (audited_new w o).chronicle hplain requests
      (w := { source := Session.new { world := w } o }) hspares
  exact ⟨haudited.accounts, haudited.continues hplain⟩

/-- A session with a small camera is asked for a frame too early, then feeds a
round of a loop, and is started anew before it is asked again. -/
def shortRun : List (Request Network) :=
  [.operation (.connect ({} : Camera).descriptor), .operation (.grab 5), .operation .start,
    .round { consumers := [Studio.recorder "minutes" (fun _ => false) fun _ => false] },
    .operation .stop, .operation .start, .operation (.grab 5)]

theorem chronicle_accounts_short :
    (∀ id, (Network.transport.channel id).Plain) ∧ (∀ r ∈ shortRun, r.Spares) ∧
    let run := chronicle Network.transport shortRun
      { source := Session.new
          { world := { cameras := [{ sensorWidth := 2, sensorHeight := 1 }] } }
          { bufferCount := 1 } }
    Accounts run.1 run.2 ∧ (∀ r, Continues Network.transport run.1 run.2 r) ∧
      run.1.map (fun a => (a.starts, a.isFrame)) = [(0, false), (1, true), (2, true)] := by
  have hspares : ∀ r ∈ shortRun, r.Spares := by
    intro r hr
    cases r with
    | operation x => trivial
    | round p =>
        have hp : p.consumers = [Studio.recorder "minutes" (fun _ => false) fun _ => false] := by
          simp only [shortRun, List.mem_cons, List.not_mem_nil, reduceCtorEq, false_or,
            or_false, Request.round.injEq] at hr
          rw [hr]
        intro c hc
        rw [hp] at hc
        rw [List.mem_singleton.1 hc]
        exact Studio.recorder_spares "minutes" _ _
  obtain ⟨haccounts, hnext⟩ := chronicle_accounts Network.transport Network.channel_plain
    { cameras := [{ sensorWidth := 2, sensorHeight := 1 }] } { bufferCount := 1 } shortRun
    hspares
  exact ⟨Network.channel_plain, hspares, haccounts, hnext, by decide +kernel⟩

end FrameGrabber
