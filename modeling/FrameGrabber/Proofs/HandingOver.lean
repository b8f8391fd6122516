import FrameGrabber.Proofs.EngineFrame
import FrameGrabber.Proofs.Exposure
import FrameGrabber.Proofs.Reclaiming
import FrameGrabber.Proofs.TestPattern
import FrameGrabber.Sim.Handover

/-!
# What two parties can do to one stream

The buffers of a stream stand in a line: the filled ones first, then the one in
the camera's hand, then the empty ones, each kind with the oldest at the front.
No step of the camera changes the line, it only moves the two boundaries in it.
The caller adds at its end, and takes from its front or, when it takes an empty
buffer back, from somewhere in the middle. So nothing is lost or doubled however
the two are interleaved, and without the third kind of move the line is a queue.

A flush ends with no empty buffer left, since nobody adds one meanwhile, and
then with no filled one at its last look; what may have escaped it is in the
camera's hand. The ledger tracks the line through the whole drain, hence at most
one buffer is abandoned, and none if a flush found the hand empty throughout.

The line needs a camera that goes on: its pictures must be of a length that a word can
say, or it breaks down with the buffer in its hand. And it is a drain at all only if the
wait ends at an instant that the clock can name; over any other the program panics.
-/

namespace FrameGrabber

theorem Camera.exposing_id (c : Camera) (registers : Nat → Registers) (tick : Nat)
    (b : Buffer) : (c.exposing registers tick b).id = b.id := by
  unfold exposing expose Buffer.grant?
  by_cases hfails : c.fails tick
  · rw [if_pos hfails]
    rfl
  · rw [if_neg hfails]
    by_cases hfits : (registers tick).payloadSize.toNat ≤ b.capacity
    · rw [if_pos hfits]
      rfl
    · rw [if_neg hfits]
      rfl

namespace Handover

variable {expose : Nat → Buffer → Buffer}

def line (h : Handover) : List BufferId :=
  (h.output ++ h.hand.toList ++ h.input).map (·.id)

theorem inside_perm_line (h : Handover) : (h.inside.map (·.id)).Perm h.line := by
  refine List.Perm.map _ ?_
  rw [inside, List.append_assoc]
  exact List.perm_append_comm.trans (List.perm_append_comm.append_right _)

theorem inside_length (h : Handover) : h.inside.length = h.line.length := by
  rw [← h.inside_perm_line.length_eq, List.length_map]

/-! ## The camera moves no buffer in the line -/

section Camera

variable (hid : ∀ tick b, (expose tick b).id = b.id)
include hid

theorem cameraStep_line (h : Handover) : (h.cameraStep expose).line = h.line := by
  unfold cameraStep
  split
  · next hposture =>
      split <;> simp [line, hand, hposture, Posture.hand]
  · next hposture =>
      split
      · simp [line, hand, hposture, Posture.hand]
      · next hinput => simp [line, hand, hposture, hinput, Posture.hand]
  · next b hposture =>
      have hkept : (if h.acquiring then expose h.ticks b
          else (expose h.ticks b).setStatus .aborted).id = b.id := by
        split
        · exact hid _ _
        · exact hid _ _
      simp [line, hand, hposture, Posture.hand, hkept]
  · next hposture => simp [line, hand, hposture, Posture.hand]

theorem stir_line (h : Handover) (s : Stir) : (h.stir expose s).line = h.line := by
  cases s with
  | camera => exact cameraStep_line hid h
  | switch on => rfl

theorem stirs_line (h : Handover) (stirs : List Stir) :
    (stirs.foldl (stir expose) h).line = h.line := by
  induction stirs generalizing h with
  | nil => rfl
  | cons s rest ih => exact (ih _).trans (stir_line hid h s)

theorem turn_line (h : Handover) : (h.turn expose).line = h.line := by
  unfold turn
  split
  · rfl
  · next t rest _ => exact stirs_line hid h t.stirs

/-! ## Taking buffers -/

/-- The caller, who gave nothing meanwhile, got these buffers from the stream. -/
structure Takes (h : Handover) (bs : List Buffer) (h' : Handover) : Prop where
  line_perm : h.line.Perm (bs.map (·.id) ++ h'.line)
  input_nil : h.input = [] → h'.input = []
  busy : (h.hand.isSome → h.busy) → h'.hand.isSome → h'.busy
  quiet_eq : h'.quiet = h.quiet
  now_le : h.now ≤ h'.now

omit hid in
theorem Takes.rfl {h : Handover} : Takes h [] h where
  line_perm := List.Perm.refl _
  input_nil := id
  busy := id
  quiet_eq := Eq.refl _
  now_le := Nat.le_refl _

omit hid in
theorem Takes.trans {h h₁ h₂ : Handover} {bs cs : List Buffer} (hb : Takes h bs h₁)
    (hc : Takes h₁ cs h₂) : Takes h (bs ++ cs) h₂ where
  line_perm := by
    rw [List.map_append, List.append_assoc]
    exact hb.line_perm.trans (hc.line_perm.append_left _)
  input_nil hin := hc.input_nil (hb.input_nil hin)
  busy hbusy := hc.busy (hb.busy hbusy)
  quiet_eq := hc.quiet_eq.trans hb.quiet_eq
  now_le := Nat.le_trans hb.now_le hc.now_le

/-- The camera takes nothing out, puts nothing empty in, and counts as busy from
when it has a buffer. -/
theorem stir_takes (h : Handover) (s : Stir) : Takes h [] (h.stir expose s) := by
  have hline : h.line.Perm ([].map Buffer.id ++ (h.stir expose s).line) := by
    rw [stir_line hid h s]
    exact List.Perm.refl _
  cases s with
  | switch on => exact ⟨hline, id, id, rfl, Nat.le_refl _⟩
  | camera =>
      refine ⟨hline, ?_, ?_, ?_, ?_⟩
      -- One case for each posture, which is where the camera's round is.
      all_goals
        simp only [stir, cameraStep]
        split
        · split <;> simp_all [hand, Posture.hand]
        · split <;> simp_all [hand, Posture.hand]
        · simp_all [hand, Posture.hand]
        · simp_all [hand, Posture.hand]

theorem stirs_takes (h : Handover) (stirs : List Stir) :
    Takes h [] (stirs.foldl (stir expose) h) := by
  induction stirs generalizing h with
  | nil => exact .rfl
  | cons s rest ih => exact (stir_takes hid h s).trans (ih _)

theorem turn_takes (h : Handover) : Takes h [] (h.turn expose) := by
  unfold turn
  split
  · exact .rfl
  · next t rest _ =>
      have hstirs := stirs_takes hid h t.stirs
      exact { hstirs with now_le := Nat.le_trans hstirs.now_le (Nat.le_add_right _ _) }

omit hid in
theorem line_of_input {h : Handover} {b : Buffer} {rest : List Buffer}
    (hin : h.input = b :: rest) : h.line.Perm (b.id :: { h with input := rest }.line) := by
  have hmiddle : h.line =
      (h.output ++ h.hand.toList).map (·.id) ++ b.id :: rest.map (·.id) := by
    rw [line, hin, List.map_append, List.map_cons]
  rw [hmiddle]
  refine List.perm_middle.trans (List.Perm.cons _ ?_)
  rw [← List.map_append]
  exact List.Perm.refl _

omit hid in
theorem line_of_output {h : Handover} {b : Buffer} {rest : List Buffer}
    (hout : h.output = b :: rest) : h.line = b.id :: { h with output := rest }.line := by
  simp [line, hand, hout]

theorem takeInput_takes (h : Handover) :
    Takes h (h.takeInput expose).1.toList (h.takeInput expose).2 := by
  have hturn := turn_takes hid h
  simp only [takeInput]
  split
  · exact hturn
  · next b rest hin =>
      have htake : Takes (h.turn expose) [b] { h.turn expose with input := rest } :=
        { line_perm := line_of_input hin
          input_nil := fun hnil => by rw [hin] at hnil; cases hnil
          busy := id
          quiet_eq := rfl
          now_le := Nat.le_refl _ }
      exact hturn.trans htake

theorem takeOutput_takes (h : Handover) :
    Takes h (h.takeOutput expose).1.toList (h.takeOutput expose).2 := by
  have hturn := turn_takes hid h
  simp only [takeOutput]
  split
  · exact hturn
  · next b rest hout =>
      have htake : Takes (h.turn expose) [b] { h.turn expose with output := rest } :=
        { line_perm := List.Perm.of_eq (line_of_output hout)
          input_nil := id
          busy := id
          quiet_eq := rfl
          now_le := Nat.le_refl _ }
      exact hturn.trans htake

/-! ## Every interleaving -/

theorem enqueue_line (b : Buffer) (h : Handover) :
    (h.enqueue expose b).line = h.line ++ [b.id] := by
  rw [← turn_line hid h]
  simp [enqueue, line, hand]

theorem takeOutput_line (h : Handover) :
    h.line = (h.takeOutput expose).1.toList.map (·.id) ++ (h.takeOutput expose).2.line := by
  rw [← turn_line hid h]
  simp only [takeOutput]
  split
  · rfl
  · next hout => exact line_of_output hout

theorem access_line (h : Handover) {a : Access} (ha : a ≠ .takeInput) :
    h.line ++ a.given?.toList.map (·.id) =
      (h.access expose a).1.toList.map (·.id) ++ (h.access expose a).2.line := by
  cases a with
  | give b => simp [access, Access.given?, enqueue_line hid]
  | takeInput => exact absurd rfl ha
  | takeOutput =>
      rw [Access.given?, Option.toList_none, List.map_nil, List.append_nil]
      exact takeOutput_line hid h

theorem access_perm (h : Handover) (a : Access) :
    (h.line ++ a.given?.toList.map (·.id)).Perm
      ((h.access expose a).1.toList.map (·.id) ++ (h.access expose a).2.line) := by
  by_cases ha : a = .takeInput
  · rw [ha, Access.given?, Option.toList_none, List.map_nil, List.append_nil]
    exact (takeInput_takes hid h).line_perm
  · rw [access_line hid h ha]

omit hid in
theorem given_cons (a : Access) (rest : List Access) :
    ((a :: rest).filterMap Access.given?).map (·.id) =
      a.given?.toList.map (·.id) ++ (rest.filterMap Access.given?).map (·.id) := by
  cases a <;> rfl

omit hid in
theorem accesses_cons (h : Handover) (a : Access) (rest : List Access) :
    (accesses expose (a :: rest) h).1.map (·.id) ++ (accesses expose (a :: rest) h).2.line =
      (h.access expose a).1.toList.map (·.id) ++
        ((accesses expose rest (h.access expose a).2).1.map (·.id) ++
          (accesses expose rest (h.access expose a).2).2.line) := by
  rw [← List.append_assoc, ← List.map_append]
  rfl

theorem accesses_perm (h : Handover) (as : List Access) :
    (h.line ++ (as.filterMap Access.given?).map (·.id)).Perm
      ((accesses expose as h).1.map (·.id) ++ (accesses expose as h).2.line) := by
  induction as generalizing h with
  | nil => simp [accesses]
  | cons a rest ih =>
      rw [given_cons, accesses_cons, ← List.append_assoc h.line]
      refine ((access_perm hid h a).append_right _).trans ?_
      rw [List.append_assoc]
      exact (ih _).append_left _

theorem accesses_line (h : Handover) (as : List Access) (hout : Access.takeInput ∉ as) :
    h.line ++ (as.filterMap Access.given?).map (·.id) =
      (accesses expose as h).1.map (·.id) ++ (accesses expose as h).2.line := by
  induction as generalizing h with
  | nil => simp [accesses]
  | cons a rest ih =>
      rw [List.mem_cons, not_or] at hout
      rw [given_cons, accesses_cons, ← List.append_assoc h.line,
        access_line hid h (Ne.symm hout.1), List.append_assoc, ih _ hout.2]

/-! ## A flush -/

omit hid in
theorem untilNone_takes {move : Handover → Option Buffer × Handover}
    (hmove : ∀ h, Takes h (move h).1.toList (move h).2) (most : Nat) (h : Handover) :
    Takes h (untilNone move most h).1 (untilNone move most h).2 := by
  induction most generalizing h with
  | zero => exact .rfl
  | succ most ih =>
      have hfirst := hmove h
      rw [untilNone]
      rcases hm : move h with ⟨_ | b, h₁⟩ <;> rw [hm] at hfirst
      · exact hfirst
      · exact hfirst.trans (ih h₁)

omit hid in
/-- Every move but the last shortens the line, so the moves do not run out. -/
theorem untilNone_ends {move : Handover → Option Buffer × Handover} {P : Handover → Prop}
    (hmove : ∀ h, Takes h (move h).1.toList (move h).2)
    (hnone : ∀ h, (move h).1 = none → P (move h).2) (most : Nat) (h : Handover)
    (hmost : h.line.length < most) : P (untilNone move most h).2 := by
  induction most generalizing h with
  | zero => exact absurd hmost (Nat.not_lt_zero _)
  | succ most ih =>
      have hfirst := (hmove h).line_perm.length_eq
      have hlast := hnone h
      rw [untilNone]
      rcases hm : move h with ⟨_ | b, h₁⟩ <;> rw [hm] at hfirst hlast
      · exact hlast rfl
      · simp only [Option.toList_some, List.map_cons, List.map_nil, List.length_append,
          List.length_cons, List.length_nil] at hfirst
        exact ih h₁ (by omega)

omit hid in
/-- As many moves as a flush makes are enough. -/
theorem untilNone_all {move : Handover → Option Buffer × Handover} {P : Handover → Prop}
    (hmove : ∀ h, Takes h (move h).1.toList (move h).2)
    (hnone : ∀ h, (move h).1 = none → P (move h).2) (h : Handover) :
    Takes h (untilNone move (h.inside.length + 1) h).1
        (untilNone move (h.inside.length + 1) h).2 ∧
      P (untilNone move (h.inside.length + 1) h).2 := by
  have hmost : h.line.length < h.inside.length + 1 := by
    rw [inside_length]
    exact Nat.lt_succ_self _
  exact ⟨untilNone_takes hmove _ h, untilNone_ends hmove hnone _ h hmost⟩

omit hid in
theorem takeInput_none (h : Handover) (hnone : (h.takeInput expose).1 = none) :
    (h.takeInput expose).2.input = [] := by
  revert hnone
  simp only [takeInput]
  split
  · next hin => exact fun _ => hin
  · intro hsome
    cases hsome

omit hid in
theorem takeOutput_none (h : Handover) (hnone : (h.takeOutput expose).1 = none) :
    (h.takeOutput expose).2.output = [] := by
  revert hnone
  simp only [takeOutput]
  split
  · next hout => exact fun _ => hout
  · intro hsome
    cases hsome

/-- A flush that brought `bs`. Only the camera's hand can have escaped it. -/
structure Flushed (h : Handover) (bs : List Buffer) (h' : Handover) : Prop where
  line_perm : h.line.Perm (bs.map (·.id) ++ h'.line)
  line_eq : h'.line = h'.hand.toList.map (·.id)
  quiet : ∃ quiet, h'.quiet = h.quiet ++ [quiet] ∧ (quiet = true → h'.line = [])
  now_le : h.now ≤ h'.now

theorem flush_flushed (h : Handover) :
    Flushed h (h.flush expose).1 (h.flush expose).2 := by
  -- The empty ones first. They stay gone while the filled ones are looked for.
  obtain ⟨hempty, hin⟩ := untilNone_all (P := fun h => h.input = []) (takeInput_takes hid)
    takeInput_none { h with busy := h.hand.isSome }
  obtain ⟨hfilled, hout⟩ := untilNone_all (P := fun h => h.output = []) (takeOutput_takes hid)
    takeOutput_none (untilNone (takeInput expose) (h.inside.length + 1)
      { h with busy := h.hand.isSome }).2
  have hboth := hempty.trans hfilled
  have hhand : (h.flush expose).2.line = (h.flush expose).2.hand.toList.map (·.id) := by
    have hnil : (h.flush expose).2.input = [] := hfilled.input_nil hin
    have hnone : (h.flush expose).2.output = [] := hout
    rw [line, hnil, hnone, List.nil_append, List.append_nil]
  have hidle : (h.flush expose).2.hand.isSome → (h.flush expose).2.busy := hboth.busy id
  refine ⟨hboth.line_perm, hhand, ⟨!(h.flush expose).2.busy, ?_, fun hquiet => ?_⟩,
    hboth.now_le⟩
  · exact congrArg (· ++ _) hboth.quiet_eq
  · rw [hhand]
    cases hh : (h.flush expose).2.hand with
    | none => rfl
    | some b =>
        rw [hidle (by rw [hh]; rfl)] at hquiet
        cases hquiet

/-! ## A drain -/

/-- What a part of a drain did to the ledger and to the stream. -/
structure Drained (p : Pool) (h : Handover) (p' : Pool) (h' : Handover) : Prop where
  tracks : p'.Tracks h'.line
  size_eq : p'.size = p.size
  queued_le : p'.queued ≤ p.queued
  quiet : ∃ flushes, h'.quiet = h.quiet ++ flushes ∧ (true ∈ flushes → p'.queued = 0)

omit hid in
theorem Drained.trans {p p₁ p₂ : Pool} {h h₁ h₂ : Handover} (hone : Drained p h p₁ h₁)
    (htwo : Drained p₁ h₁ p₂ h₂) : Drained p h p₂ h₂ where
  tracks := htwo.tracks
  size_eq := htwo.size_eq.trans hone.size_eq
  queued_le := Nat.le_trans htwo.queued_le hone.queued_le
  quiet := by
    obtain ⟨first, hfirst, hnone⟩ := hone.quiet
    obtain ⟨second, hsecond, hnone'⟩ := htwo.quiet
    refine ⟨first ++ second, by rw [hsecond, hfirst, List.append_assoc], fun hmem => ?_⟩
    rcases List.mem_append.1 hmem with hmem | hmem
    · exact Nat.le_zero.1 (hnone hmem ▸ htwo.queued_le)
    · exact hnone' hmem

omit hid in
/-- The ledger goes with the buffers that came back. -/
theorem drained_of_perm {p : Pool} {h h' : Handover} {bs : List Buffer} {flushes : List Bool}
    (ht : p.Tracks h.line) (hperm : h.line.Perm (bs.map (·.id) ++ h'.line))
    (hquiet : h'.quiet = h.quiet ++ flushes) (hnone : true ∈ flushes → h'.line = []) :
    Drained p h (bs.foldl Pool.reclaim p) h' := by
  have hafter := (ht.perm hperm).reclaimAll
  refine ⟨hafter, Pool.reclaimAll_size bs p, ?_, flushes, hquiet, fun hmem => ?_⟩
  · rw [hafter.queued_eq, ht.queued_eq, hperm.length_eq, List.length_append]
    exact Nat.le_add_left _ _
  · rw [hafter.queued_eq, hnone hmem, List.length_nil]

omit hid in
theorem Flushed.drained {p : Pool} {h h' : Handover} {bs : List Buffer}
    (hflush : Flushed h bs h') (ht : p.Tracks h.line) :
    Drained p h (bs.foldl Pool.reclaim p) h' ∧ (bs.foldl Pool.reclaim p).queued ≤ 1 := by
  obtain ⟨quiet, hquiet, hnone⟩ := hflush.quiet
  have hdrained : Drained p h (bs.foldl Pool.reclaim p) h' :=
    drained_of_perm ht hflush.line_perm hquiet fun hmem =>
      hnone (List.mem_singleton.1 hmem).symm
  refine ⟨hdrained, ?_⟩
  rw [hdrained.tracks.queued_eq, hflush.line_eq, List.length_map]
  cases h'.hand with
  | none => exact Nat.zero_le 1
  | some b => exact Nat.le_refl 1

omit hid in
theorem Takes.drained {p : Pool} {h h' : Handover} {bs : List Buffer} (htake : Takes h bs h')
    (ht : p.Tracks h.line) : Drained p h (bs.foldl Pool.reclaim p) h' :=
  drained_of_perm ht htake.line_perm (by rw [htake.quiet_eq, List.append_nil])
    (fun hmem => absurd hmem List.not_mem_nil)

theorem dequeue_takes (timeout : Span) (h : Handover) :
    Takes h (dequeue expose timeout h).1.toOption.toList (dequeue expose timeout h).2 := by
  have htake := takeOutput_takes hid h
  unfold dequeue
  rcases ho : h.takeOutput expose with ⟨_ | b, h₁⟩ <;> rw [ho] at htake
  · exact { htake with now_le := Nat.le_trans htake.now_le (Nat.le_add_right _ _) }
  · exact htake

omit hid in
theorem drain_succ (deadline : Instant) (passes : Nat) (p : Pool) (h : Handover) :
    Engine.drain (channel expose) clock deadline (passes + 1) p h =
      let (bs, h₁) := h.flush expose
      let p₁ := bs.foldl Pool.reclaim p
      if p₁.queued = 0 ∨ deadline ≤ h₁.now then (p₁, h₁)
      else
        let (r, h₂) := dequeue expose (min drainPoll (deadline - h₁.now)) h₁
        Engine.drain (channel expose) clock deadline passes
          (r.toOption.toList.foldl Pool.reclaim p₁) h₂ := by
  have hflush : (channel expose).flush h = h.flush expose := rfl
  have hdequeue : (channel expose).dequeue = dequeue expose := rfl
  have hnow : ∀ h : Handover, clock.now h = (h.now, h) := fun _ => rfl
  simp only [Engine.drain, hflush, hdequeue, hnow]
  rcases h.flush expose with ⟨bs, h₁⟩
  by_cases hnone : (bs.foldl Pool.reclaim p).queued = 0
  · simp only [hnone, true_or, if_true]
  · by_cases hover : deadline ≤ h₁.now
    · simp only [hnone, hover, or_true, if_true, if_false]
    · simp only [hnone, hover, or_self, if_false]
      rcases dequeue expose (min drainPoll (deadline - h₁.now)) h₁ with ⟨e | b, h₂⟩
      · rfl
      · rfl

/-- However long a drain goes on, the ledger tracks what is left; after its first
flush that is at most one buffer. -/
theorem drain_drained (deadline : Instant) (passes : Nat) (p : Pool) (h : Handover)
    (ht : p.Tracks h.line) :
    Drained p h (Engine.drain (channel expose) clock deadline passes p h).1
        (Engine.drain (channel expose) clock deadline passes p h).2 ∧
      (0 < passes →
        (Engine.drain (channel expose) clock deadline passes p h).1.queued ≤ 1) := by
  induction passes generalizing p h with
  | zero =>
      exact ⟨Takes.rfl.drained ht, fun h => absurd h (Nat.lt_irrefl 0)⟩
  | succ passes ih =>
      have hflush := flush_flushed hid h
      rw [drain_succ]
      rcases hf : h.flush expose with ⟨bs, h₁⟩
      rw [hf] at hflush
      obtain ⟨hfirst, hone⟩ := hflush.drained ht
      dsimp only
      -- The bound is there after the first flush; what follows only takes more back.
      split
      · exact ⟨hfirst, fun _ => hone⟩
      · have hpoll := dequeue_takes hid (min drainPoll (deadline - h₁.now)) h₁
        rcases hd : dequeue expose (min drainPoll (deadline - h₁.now)) h₁ with ⟨r, h₂⟩
        rw [hd] at hpoll
        have hsecond := hpoll.drained hfirst.tracks
        have hrest := hsecond.trans (ih _ h₂ hsecond.tracks).1
        exact ⟨hfirst.trans hrest, fun _ => Nat.le_trans hrest.queued_le hone⟩

/-- A wait brings a buffer, or it takes its time. -/
theorem dequeue_progress {timeout : Span} {deadline : Instant} (h : Handover)
    (htimeout : 0 < timeout) (hdeadline : h.now < deadline) :
    deadline - (dequeue expose timeout h).2.now + (dequeue expose timeout h).2.line.length <
      deadline - h.now + h.line.length := by
  have htake := takeOutput_takes hid h
  have hlength := htake.line_perm.length_eq
  have hnow := htake.now_le
  unfold dequeue
  rcases ho : h.takeOutput expose with ⟨_ | b, h₁⟩ <;> rw [ho] at hlength hnow
  · have hline : h.line.length = h₁.line.length := by simpa using hlength
    show deadline - (h₁.now + timeout) + h₁.line.length < deadline - h.now + h.line.length
    simp only [Instant, Span] at hnow htimeout hdeadline ⊢
    omega
  · have hline : h.line.length = h₁.line.length + 1 := by simpa [Nat.add_comm] using hlength
    show deadline - h₁.now + h₁.line.length < deadline - h.now + h.line.length
    simp only [Instant] at hnow ⊢
    omega

/-- The clock has patience enough: a drain that may go on for longer ends where
it ends, at its deadline or with nothing left. -/
theorem drain_patience (deadline : Instant) (passes more : Nat) (p : Pool) (h : Handover)
    (hpasses : deadline - h.now + h.line.length < passes) :
    Engine.drain (channel expose) clock deadline (passes + more) p h =
      Engine.drain (channel expose) clock deadline passes p h := by
  induction passes generalizing p h with
  | zero => exact absurd hpasses (Nat.not_lt_zero _)
  | succ passes ih =>
      have hflush := flush_flushed hid h
      rw [Nat.add_right_comm, drain_succ, drain_succ]
      rcases hf : h.flush expose with ⟨bs, h₁⟩
      rw [hf] at hflush
      have hlength := hflush.line_perm.length_eq
      have hnow := hflush.now_le
      rw [List.length_append] at hlength
      dsimp only at hlength hnow ⊢
      split
      · rfl
      · next hgoes =>
          rw [not_or, Nat.not_le] at hgoes
          have hspan : 0 < min drainPoll (deadline - h₁.now) :=
            Nat.lt_min.2 ⟨by decide, Nat.sub_pos_of_lt hgoes.2⟩
          have hless := dequeue_progress hid h₁ hspan hgoes.2
          refine ih _ _ ?_
          simp only [Instant] at hnow hpasses hless ⊢
          omega

/-! ## An engine on the stream -/

omit hid in
/-- Between two grabs the stream has the ring, and the ledger says so. -/
structure Afloat (g : UInt32) (n : Nat) (e : Engine) (h : Handover) : Prop where
  generation : e.pool.generation = g
  ring : e.pool.Full n
  line_perm : h.line.Perm (Pool.ids g n)

theorem enqueueAll_line (bs : List Buffer) (h : Handover) :
    (bs.foldl (fun h b => (channel expose).enqueue b h) h).line =
      h.line ++ bs.map (·.id) := by
  induction bs generalizing h with
  | nil => simp
  | cons b rest ih =>
      rw [List.foldl_cons, ih]
      show (h.enqueue expose b).line ++ _ = _
      rw [enqueue_line hid, List.append_assoc, List.map_cons, List.singleton_append]

theorem start_afloat (stream : StreamId) (geometry : Geometry) (counters : Counters)
    (g : Generations) (h : Handover) {n size : Nat} (hn : 0 < n) (hsize : 0 < size)
    (hempty : h.line = []) :
    ∃ e g' h', Engine.start (channel expose) stream n size geometry counters g h =
      (.ok e, g', h') ∧ Afloat g.next n e h' := by
  rw [Engine.start_eq, if_neg (by omega)]
  refine ⟨_, _, _, rfl, rfl, rfl, ?_⟩
  rw [enqueueAll_line hid, hempty, List.nil_append, Pool.allocate_ids]

theorem Afloat.grab {g : UInt32} {n : Nat} {e : Engine} {h : Handover}
    (ha : Afloat g n e h) (timeout : Span) :
    Afloat g n (e.grab (channel expose) clock timeout h).2.1
      (e.grab (channel expose) clock timeout h).2.2 := by
  obtain ⟨-, hpool⟩ := Engine.grab_ring (channel expose) clock e timeout h
  refine ⟨by rw [hpool, ha.generation], by rw [hpool]; exact ha.ring, ?_⟩
  have htake := (dequeue_takes hid timeout h).line_perm
  have hdequeue : (channel expose).dequeue timeout h = dequeue expose timeout h := rfl
  rw [Engine.grab_eq, hdequeue]
  rcases hd : dequeue expose timeout h with ⟨err | b, h₁⟩ <;> rw [hd] at htake
  · have hkept : h₁.line.Perm (Pool.ids g n) := htake.symm.trans ha.line_perm
    cases err <;> exact hkept
  -- The buffer is of the ring, and goes back to the end of the line.
  · have hring : (b.id :: h₁.line).Perm (Pool.ids g n) := htake.symm.trans ha.line_perm
    have hout : e.pool.state? b.id = some .queued := by
      rw [ha.ring.state?_eq_queued_iff, ha.generation]
      exact hring.mem_iff.1 List.mem_cons_self
    have hback : (h₁.enqueue expose b.recycle).line.Perm (Pool.ids g n) := by
      rw [enqueue_line hid]
      exact (List.perm_append_singleton _ _).trans hring
    simp only [if_pos hout]
    split
    · exact hback
    · split
      · exact hback
      · exact hback

theorem Afloat.grabs {g : UInt32} {n : Nat} {e : Engine} {h : Handover}
    (ha : Afloat g n e h) (timeouts : List Span) :
    Afloat g n (Engine.grabs (channel expose) clock timeouts e h).1
      (Engine.grabs (channel expose) clock timeouts e h).2 := by
  induction timeouts generalizing e h with
  | nil => exact ha
  | cons timeout rest ih => exact ih (ha.grab hid timeout)

theorem Afloat.stop {g : UInt32} {n : Nat} {e : Engine} {h : Handover}
    (ha : Afloat g n e h) (wait : Span) :
    let stopped := e.stop (channel expose) clock wait h
    stopped.1.reclaimed + stopped.1.abandoned = n ∧ stopped.1.abandoned ≤ 1 ∧
      ∃ flushes, stopped.2.quiet = h.quiet ++ flushes ∧
        (true ∈ flushes → stopped.1.abandoned = 0) := by
  have htracks : e.pool.Tracks h.line := by
    refine ha.ring.tracks.perm ?_
    rw [ha.generation]
    exact ha.line_perm.symm
  obtain ⟨hdrained, hone⟩ := drain_drained hid (h.now + wait)
    (clock.patience wait h + 1) e.pool h htracks
  refine ⟨?_, hone (Nat.succ_pos _), hdrained.quiet⟩
  have hsize := hdrained.size_eq
  rw [ha.ring.size_eq, ← Pool.held_add_queued] at hsize
  exact hsize

end Camera

/-- Take a camera whose pictures have no more bytes than a word can say: it makes every
exposure. Then between any moves of the camera and the caller, every buffer that the caller
gave is in one place: empty in the stream, in the camera's hand, filled in the
stream, or with the caller again. If no empty buffers are taken back, the caller
gets them in the order in which it gave them.

A ring of any size that was put on the stream and used can be taken back at any time, with
any wait that ends at an instant that the clock can name: all of it save for at most one
buffer, and save for none if the camera had an empty hand throughout some flush. Over any
other wait the program panics. -/
theorem keeps_and_returns (c : Camera) (registers : Nat → Registers)
    (hword : ∀ tick, (registers tick).pictureSize < UInt64.size) (plan : List Turn)
    (acquiring : Bool) :
    (∀ tick b, c.exposure? (registers tick) tick b = some (c.exposing registers tick b)) ∧
    (∀ as,
      let run := accesses (c.exposing registers) as { plan, acquiring }
      ((as.filterMap Access.given?).map (·.id)).Perm
          ((run.1 ++ run.2.input ++ run.2.hand.toList ++ run.2.output).map (·.id)) ∧
        (Access.takeInput ∉ as →
          (as.filterMap Access.given?).map (·.id) =
            (run.1 ++ run.2.output ++ run.2.hand.toList ++ run.2.input).map (·.id))) ∧
    ∀ stream n size geometry counters g timeouts wait, 0 < n → 0 < size → size ≤ memoryLimit →
      ∃ e g' h, Engine.start? (channel (c.exposing registers)) stream n size geometry counters
          g { plan, acquiring } = some (.ok e, g', h) ∧
        let run := Engine.grabs (channel (c.exposing registers)) clock timeouts e h
        let stopped? := run.1.stop? (channel (c.exposing registers)) clock wait run.2
        (stopped? = none ↔ Instant.latest < run.2.now + wait) ∧
        ∀ report h', stopped? = some (report, h') →
          report.reclaimed + report.abandoned = n ∧ report.abandoned ≤ 1 ∧
          ∃ flushes, h'.quiet = run.2.quiet ++ flushes ∧
            (true ∈ flushes → report.abandoned = 0) := by
  have hid := c.exposing_id registers
  refine ⟨fun tick b => Camera.exposure?_of_lt (hword tick), fun as => ⟨?_, fun hout => ?_⟩, ?_⟩
  · have hperm := accesses_perm hid { plan, acquiring } as
    have hinside := (accesses (c.exposing registers) as { plan, acquiring }).2.inside_perm_line
    rw [List.append_assoc, List.append_assoc, ← List.append_assoc _ _ (Handover.output _),
      List.map_append]
    exact hperm.trans (hinside.symm.append_left _)
  · have hline := accesses_line hid { plan, acquiring } as hout
    rw [List.append_assoc, List.append_assoc, ← List.append_assoc _ _ (Handover.input _),
      List.map_append]
    exact hline
  · intro stream n size geometry counters g timeouts wait hn hsize hroom
    obtain ⟨e, g', h, hstart, hafloat⟩ := start_afloat hid stream geometry counters g
      { plan, acquiring } hn hsize rfl
    refine ⟨e, g', h, ?_, Engine.stop?_eq_none_iff, fun report h' hstop => ?_⟩
    · rw [Engine.start?_of_room stream geometry counters g _ hroom, hstart]
    · have hreport := (hafloat.grabs hid timeouts).stop hid wait
      rw [← Engine.eq_stop_of_stop? hstop] at hreport
      exact hreport

/-- A camera that takes the older of two buffers just when the drain begins, and
has it still when the wait is over. -/
theorem keeps_and_returns_in_hand :
    (∀ tick, ((default : Nat → Registers) tick).pictureSize < UInt64.size) ∧
    Access.takeInput ∉ [.give (.new ⟨1, 0⟩ 4), .give (.new ⟨1, 1⟩ 4), .takeOutput] ∧
    (let run := accesses (({} : Camera).exposing default)
        [.give (.new ⟨1, 0⟩ 4), .give (.new ⟨1, 1⟩ 4), .takeOutput]
        { plan := [{}, {}, { stirs := [.camera, .camera] }], acquiring := true };
      [⟨1, 0⟩, ⟨1, 1⟩] =
        (run.1 ++ run.2.output ++ run.2.hand.toList ++ run.2.input).map (·.id)) ∧
    0 < 2 ∧ 0 < 4 ∧ 4 ≤ memoryLimit ∧
    ∃ e g' h, Engine.start? (channel (({} : Camera).exposing default)) 0 2 4 default {} {}
        { plan := [{}, {}, { stirs := [.camera, .camera] }], acquiring := true } =
          some (.ok e, g', h) ∧
      let run := Engine.grabs (channel (({} : Camera).exposing default)) clock [] e h
      ∃ report h', run.1.stop? (channel (({} : Camera).exposing default)) clock 0 run.2 =
          some (report, h') ∧
        report.reclaimed + report.abandoned = 2 ∧ report.abandoned = 1 := by
  have hword : ∀ tick, ((default : Nat → Registers) tick).pictureSize < UInt64.size :=
    fun _ => show (default : Registers).pictureSize < UInt64.size by decide
  obtain ⟨-, hline, hstop⟩ := keeps_and_returns {} default hword
    [{}, {}, { stirs := [.camera, .camera] }] true
  obtain ⟨e, g', h, hstart, hnone, hreport⟩ :=
    hstop 0 2 4 default {} {} [] 0 (by decide) (by decide) (by decide)
  have hout : Access.takeInput ∉
      [.give (.new ⟨1, 0⟩ 4), .give (.new ⟨1, 1⟩ 4), .takeOutput] := by decide
  refine ⟨hword, hout, (hline _).2 hout, by decide, by decide, by decide, e, g', h, hstart, ?_⟩
  cases hstart
  obtain ⟨⟨report, h'⟩, hstopped⟩ := Option.ne_none_iff_exists'.1 (mt hnone.1 (by decide))
  have habandoned := congrArg (fun out => out.1.abandoned) (Engine.eq_stop_of_stop? hstopped)
  exact ⟨report, h', hstopped, (hreport report h' hstopped).1, habandoned⟩

/-- Two things that do not come back. A camera whose pictures are longer than the word of
their payload says takes the only buffer of its stream: no flush and no wait finds it
again. And the report of a stop that may wait as long as a span can be, which is beyond
the last instant that a clock can name. -/
theorem not_keeps_and_returns :
    (let s : SimStream := { connection := 0, input := [.new ⟨0, 0⟩ 13], due := some 0 }
      let later := s.advance Pattern.wideCamera (Registers.initial Pattern.wideCamera) 0
      later.flush.1 = [] ∧ later.take.1 = none ∧ later.broken = true) ∧
    ∃ e g' h, Engine.start? (channel (({} : Camera).exposing default)) 0 1 4 default {} {}
        ({} : Handover) = some (.ok e, g', h) ∧
      e.stop? (channel (({} : Camera).exposing default)) clock (2 ^ 64 * Span.second - 1) h =
        none := by
  refine ⟨by decide +kernel, _, _, _, rfl, ?_⟩
  rw [Engine.stop?_eq_none_iff]
  decide

end Handover
end FrameGrabber
