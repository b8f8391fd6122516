import FrameGrabber.Pipeline.Audience
import Mathlib.Data.List.Infix

/-!
# What a frame loop does, said in advance

Given the script of the source and the minds of the consumers, all that a frame
loop does can be said without running it. Its minutes follow from the script alone:
every frame, brought to RGB, goes to every seat in the order of the seats, and a
failure goes to none. The stop flag is up before a round just if it was up at the
start or a listener raised it over one of the frames handed out so far. The loop
ends at the first round before which the flag is up, or in the first round whose
failure is no transient one, and its answer is the number of frames so far, or that
failure.

None of this mentions what listeners answer, which is why a consumer that fails
disturbs nobody.
-/

namespace FrameGrabber

/-! ## The reference -/

section Reference

variable (script : Nat → Except CameraError Frame) (ls : List Listener) (stopped : Bool)

/-- What every consumer is handed of the first `n` answers of the source: the
frames, brought to RGB, each with the timestamp that it came with. -/
def handings (n : Nat) : List Handing :=
  (List.range n).flatMap fun j =>
    match script j with
    | .ok f => [⟨f.normalize, f.timestamp⟩]
    | .error _ => []

/-- The minutes of the first `n` rounds before so many seats. -/
def minutesOf (seats n : Nat) : List Minute :=
  (List.range n).flatMap fun j =>
    match script j with
    | .ok f => .asked :: (List.range seats).map (.handed · ⟨f.normalize, f.timestamp⟩)
    | .error _ => [.asked]

/-- Is the stop flag up after the first `n` answers? -/
def Raised (n : Nat) : Prop :=
  stopped = true ∨
    ∃ l ∈ ls, ∃ heard, heard ≠ [] ∧ heard <+: handings script n ∧ l.halts heard = true

/-- The source fails for good. -/
def Fatal (n : Nat) : Prop := ∃ e, script n = .error e ∧ e.isTransient = false

/-- How a loop ends that asked for `n` frames in at most so many rounds. -/
inductive Ending (rounds : Nat) : Nat → Option (Except CameraError Nat) → Prop
  | stopped {n : Nat} (hraised : Raised script ls stopped n) (hsound : ∀ j < n, ¬Fatal script j) :
      Ending rounds n (some (.ok (handings script n).length))
  | failed {n : Nat} {e : CameraError} (he : script n = .error e)
      (hfatal : e.isTransient = false) (hsound : ∀ j < n, ¬Fatal script j) :
      Ending rounds (n + 1) (some (.error e))
  | unfinished (hraised : ¬Raised script ls stopped rounds)
      (hsound : ∀ j < rounds, ¬Fatal script j) : Ending rounds rounds none

end Reference

variable {script : Nat → Except CameraError Frame} {ls : List Listener} {stopped : Bool} {n : Nat}

theorem handings_succ : handings script (n + 1) = handings script n ++
    match script n with
    | .ok f => [⟨f.normalize, f.timestamp⟩]
    | .error _ => [] := by
  rw [handings, List.range_succ, List.flatMap_append, List.flatMap_singleton]
  rfl

/-- No consumer is handed anything but RGB. -/
theorem layout_of_mem_handings {x : Handing} (h : x ∈ handings script n) :
    x.frame.layout = .rgb8 := by
  obtain ⟨j, -, hx⟩ := List.mem_flatMap.1 h
  cases hj : script j with
  | ok f =>
      rw [hj] at hx
      rw [List.mem_singleton.1 hx]
      exact f.normalize_layout
  | error e =>
      rw [hj] at hx
      cases hx

theorem minutesOf_succ (seats : Nat) : minutesOf script seats (n + 1) =
    minutesOf script seats n ++
      match script n with
      | .ok f => .asked :: (List.range seats).map (.handed · ⟨f.normalize, f.timestamp⟩)
      | .error _ => [.asked] := by
  rw [minutesOf, List.range_succ, List.flatMap_append, List.flatMap_singleton]
  rfl

/-- A frame is handed to each seat once. -/
theorem heard_range {seats seat : Nat} (h : seat < seats) (x : Handing) :
    ((List.range seats).map (Minute.handed · x)).filterMap (·.heard? seat) = [x] := by
  induction seats with
  | zero => omega
  | succ seats ih =>
      rw [List.range_succ, List.map_append, List.filterMap_append]
      rcases Nat.lt_succ_iff_lt_or_eq.1 h with hlt | rfl
      · have hne : seats ≠ seat := by omega
        rw [ih hlt]
        simp [Minute.heard?, hne]
      · have hnone : ∀ m ∈ (List.range seat).map (Minute.handed · x), m.heard? seat = none := by
          intro m hm
          obtain ⟨i, hi, rfl⟩ := List.mem_map.1 hm
          exact if_neg (Nat.ne_of_lt (List.mem_range.1 hi))
        rw [List.filterMap_eq_nil_iff.2 hnone]
        simp [Minute.heard?]

/-- What the minutes say of a seat. -/
theorem heard_minutesOf {seats seat : Nat} (h : seat < seats) (n : Nat) :
    (minutesOf script seats n).filterMap (·.heard? seat) = handings script n := by
  induction n with
  | zero => rfl
  | succ n ih =>
      rw [minutesOf_succ, handings_succ, List.filterMap_append, ih]
      cases script n with
      | ok f =>
          simp only
          rw [List.filterMap_cons_none rfl, heard_range h]
      | error e => rfl

theorem raised_succ_of_ok {f : Frame} (hf : script n = .ok f) :
    Raised script ls stopped (n + 1) ↔ Raised script ls stopped n ∨
      ∃ l ∈ ls, l.halts (handings script n ++ [⟨f.normalize, f.timestamp⟩]) = true := by
  have hsucc : handings script (n + 1) =
      handings script n ++ [⟨f.normalize, f.timestamp⟩] := by
    rw [handings_succ, hf]
  unfold Raised
  rw [hsucc]
  constructor
  · rintro (h | ⟨l, hl, heard, hne, hheard, hhalts⟩)
    · exact .inl (.inl h)
    · rcases List.prefix_concat_iff.1 hheard with rfl | hheard
      · exact .inr ⟨l, hl, hhalts⟩
      · exact .inl (.inr ⟨l, hl, heard, hne, hheard, hhalts⟩)
  · rintro ((h | ⟨l, hl, heard, hne, hheard, hhalts⟩) | ⟨l, hl, hhalts⟩)
    · exact .inl h
    · exact .inr ⟨l, hl, heard, hne, hheard.trans (List.prefix_append _ _), hhalts⟩
    · exact .inr ⟨l, hl, _, by simp, List.prefix_rfl, hhalts⟩

theorem raised_succ_of_error {e : CameraError} (he : script n = .error e) :
    Raised script ls stopped (n + 1) ↔ Raised script ls stopped n := by
  have hsucc : handings script (n + 1) = handings script n := by
    rw [handings_succ, he]
    exact List.append_nil _
  rw [Raised, hsucc, Raised]

/-- An answer of the source is a frame, which counts, or a failure that passes, or one
for good. -/
theorem answer_cases (script : Nat → Except CameraError Frame) (n : Nat) :
    (∃ f, script n = .ok f ∧ ¬Fatal script n ∧
      (handings script (n + 1)).length = (handings script n).length + 1) ∨
    (∃ e, script n = .error e ∧ e.isTransient = true ∧ ¬Fatal script n ∧
      (handings script (n + 1)).length = (handings script n).length) ∨
    ∃ e, script n = .error e ∧ e.isTransient = false := by
  cases hanswer : script n with
  | ok f =>
      refine .inl ⟨f, rfl, ?_, by simp [handings_succ, hanswer]⟩
      rintro ⟨e, he, -⟩
      rw [hanswer] at he
      cases he
  | error e =>
      cases htransient : e.isTransient with
      | true =>
          refine .inr (.inl ⟨e, rfl, htransient, ?_, by simp [handings_succ, hanswer]⟩)
          rintro ⟨e', he', hfatal⟩
          rw [hanswer] at he'
          cases he'
          rw [htransient] at hfatal
          cases hfatal
      | false => exact .inr (.inr ⟨e, rfl, htransient⟩)

/-! ## One round -/

namespace Performance

variable {T : Type} {w : Performance T} {c : Clock T} {p : Pipeline (Performance T)}

theorem heard_note (i seat : Nat) (x : Handing) (w : Performance T) :
    (w.note (.handed seat x)).heard i = w.heard i ++ if seat = i then [x] else [] := by
  rw [heard, note, List.filterMap_append, heard]
  by_cases h : seat = i <;> simp [Minute.heard?, h]

/-- A listener notes what it is handed, and may raise the flag. -/
theorem seated_snd {past : List Handing} {seat : Nat} (l : Listener) (f : Frame) (i : Instant)
    (hpast : w.heard seat = past) :
    ((l.seated seat).onFrame f i w).2 = { w with
      minutes := w.minutes ++ [.handed seat ⟨f, i⟩]
      stopped := w.stopped || l.halts (past ++ [⟨f, i⟩]) } := by
  have hheard : (w.note (.handed seat ⟨f, i⟩)).heard seat = past ++ [⟨f, i⟩] := by
    rw [heard_note, hpast, if_pos rfl]
  simp only [Listener.seated, hheard]
  rfl

/-- The listeners are handed a frame in the order of their seats. -/
theorem dispatch_audience (f : Frame) (past : List Handing) (ls : List Listener) (seat : Nat)
    (w : Performance T)
    (hpast : ∀ i, seat ≤ i → i < seat + ls.length → w.heard i = past) :
    Pipeline.dispatch (audience seat ls) f w = { w with
      minutes := w.minutes ++
        (List.range' seat ls.length).map (Minute.handed · ⟨f, f.timestamp⟩)
      stopped := w.stopped || ls.any fun l => l.halts (past ++ [⟨f, f.timestamp⟩]) } := by
  -- A listener decides from what its own seat has heard, and what the seats before it
  -- were handed just now is not of that: `hpast` passes on to the rest.
  induction ls generalizing seat w with
  | nil => simp [audience, Pipeline.dispatch]
  | cons l rest ih =>
      rw [List.length_cons] at hpast
      have hseat := seated_snd l f f.timestamp (hpast seat (by omega) (by omega))
      have hothers : ∀ i, seat + 1 ≤ i → i < seat + 1 + rest.length →
          heard i ((l.seated seat).onFrame f f.timestamp w).2 = past := by
        intro i hi hi'
        rw [← hpast i (by omega) (by omega)]
        refine (heard_note i seat ⟨f, f.timestamp⟩ w).trans ?_
        rw [if_neg (by omega), List.append_nil]
      rw [audience, Pipeline.dispatch, List.foldl_cons]
      refine (ih (seat + 1) _ hothers).trans ?_
      rw [hseat]
      simp [List.range'_succ, Bool.or_assoc]

/-- Waiting and reading the clock take time and nothing else. -/
theorem pace_eq (p : Pipeline (Performance T)) (c : Clock T) (w : Performance T) :
    ∃ time, p.pace (clock c) w = { w with time } := by
  unfold Pipeline.pace
  cases p.governor with
  | none => exact ⟨w.time, rfl⟩
  | some g =>
      cases p.lastDelivery with
      | none => exact ⟨w.time, rfl⟩
      | some previous =>
          simp only
          split
          · exact ⟨_, rfl⟩
          · exact ⟨_, rfl⟩

theorem deliver_eq (p : Pipeline (Performance T)) (c : Clock T) (f : Frame) (w : Performance T) :
    ∃ time lastDelivery, p.deliver (clock c) f w =
      ({ p with lastDelivery }, Pipeline.dispatch p.consumers f { w with time }) := by
  obtain ⟨time, htime⟩ := pace_eq p c w
  unfold Pipeline.deliver
  rw [htime]
  exact ⟨_, _, rfl⟩

/-- The performance after the first `n` answers of the source. -/
structure Reached (script : Nat → Except CameraError Frame) (ls : List Listener)
    (stopped : Bool) (n : Nat) (w : Performance T) : Prop where
  asked : w.asked = n
  minutes : w.minutes = minutesOf script ls.length n
  stopped : w.stopped = true ↔ Raised script ls stopped n

theorem Reached.heard_eq (h : w.Reached script ls stopped n) {seat : Nat}
    (hseat : seat < ls.length) : w.heard seat = handings script n := by
  rw [heard, h.minutes, heard_minutesOf hseat]

/-- One round: the next answer of the source, and what becomes of it. -/
theorem Reached.step (h : w.Reached script ls stopped n) (hp : p.consumers = audience 0 ls) :
    ∃ p' w', p.step (source script c) w =
        (match script n with
          | .ok _ => .ok .delivered
          | .error e => if e.isTransient then .ok .skipped else .error e, p', w') ∧
      p'.consumers = audience 0 ls ∧ w'.Reached script ls stopped (n + 1) := by
  have hgrab : (source script c).grab p.grabTimeout w = (script n, w.ask) := by
    rw [← h.asked]
    rfl
  have hasked : w.ask.asked = n + 1 := by rw [ask, h.asked]
  have hminutes : w.ask.minutes = minutesOf script ls.length n ++ [.asked] := by
    rw [← h.minutes]
    rfl
  have hflag : w.ask.stopped = w.stopped := by rfl
  unfold Pipeline.step
  rw [hgrab]
  cases hanswer : script n with
  | error e =>
      have hreached : w.ask.Reached script ls stopped (n + 1) := by
        refine ⟨hasked, ?_, h.stopped.trans (raised_succ_of_error hanswer).symm⟩
        rw [hminutes, minutesOf_succ, hanswer]
      simp only
      split
      · exact ⟨p, _, rfl, hp, hreached⟩
      · exact ⟨p, _, rfl, hp, hreached⟩
  | ok f =>
      obtain ⟨time, lastDelivery, hdeliver⟩ := deliver_eq p c f.normalize w.ask
      have hpast : ∀ i, 0 ≤ i → i < 0 + ls.length →
          heard i { w.ask with time } = handings script n := by
        intro i _ hi
        rw [← h.heard_eq (Nat.zero_add _ ▸ hi)]
        show (w.minutes ++ [Minute.asked]).filterMap _ = _
        rw [List.filterMap_append]
        exact List.append_nil _
      have hdispatch := dispatch_audience f.normalize (handings script n) ls 0 _ hpast
      rw [f.normalize_timestamp, ← List.range_eq_range'] at hdispatch
      refine ⟨{ p with lastDelivery },
        Pipeline.dispatch p.consumers f.normalize { w.ask with time }, ?_, hp, ?_⟩
      · show (_, (p.deliver (clock c) f.normalize w.ask).1,
          (p.deliver (clock c) f.normalize w.ask).2) = _
        rw [hdeliver]
      · rw [hp, hdispatch]
        refine ⟨hasked, ?_, ?_⟩
        · simp only [hminutes, minutesOf_succ, hanswer, List.append_assoc, List.singleton_append]
        · rw [raised_succ_of_ok hanswer, ← h.stopped]
          simp [hflag]

end Performance

/-! ## The whole loop -/

namespace Pipeline

open Performance

variable {T : Type} {w : Performance T} {c : Clock T} {p : Pipeline (Performance T)}

/-- The rest of a loop that has reached the round `n`. -/
theorem run_reached (rounds : Nat) (h : w.Reached script ls stopped n)
    (hp : p.consumers = audience 0 ls) (hsound : ∀ j < n, ¬Fatal script j)
    (hcalm : ∀ j < n, ¬Raised script ls stopped j) :
    ∃ m, Ending script ls stopped (n + rounds) m
        (run (source script c) rounds (handings script n).length p w).1 ∧
      (∀ j < m, ¬Raised script ls stopped j) ∧
      (run (source script c) rounds (handings script n).length p w).2.2.Reached script ls
        stopped m := by
  have hstopped : ∀ w, (source script c).stopped w = w.stopped := fun _ => rfl
  -- The count that the loop carries is that of the handings, so it moves on with `n`.
  induction rounds generalizing n w p with
  | zero =>
      rw [run, hstopped]
      by_cases hflag : w.stopped = true
      · rw [if_pos hflag]
        exact ⟨n, .stopped (h.stopped.1 hflag) hsound, hcalm, h⟩
      · rw [if_neg hflag]
        exact ⟨n, .unfinished (fun hraised => hflag (h.stopped.2 hraised)) hsound, hcalm, h⟩
  | succ rounds ih =>
      rw [run, hstopped]
      by_cases hflag : w.stopped = true
      · rw [if_pos hflag]
        exact ⟨n, .stopped (h.stopped.1 hflag) hsound, hcalm, h⟩
      · have hcalm' : ∀ j < n + 1, ¬Raised script ls stopped j :=
          Nat.forall_lt_succ_right.2 ⟨hcalm, fun hraised => hflag (h.stopped.2 hraised)⟩
        obtain ⟨p', w', hstep, hp', hreached⟩ := h.step (c := c) hp
        have hrounds : n + (rounds + 1) = n + 1 + rounds := by omega
        rw [if_neg hflag, hstep, hrounds]
        rcases answer_cases script n with ⟨f, hanswer, hfine, hcount⟩ |
          ⟨e, hanswer, htransient, hfine, hcount⟩ | ⟨e, hanswer, htransient⟩
        · rw [hanswer]
          simp only
          rw [← hcount]
          exact ih hreached hp' (Nat.forall_lt_succ_right.2 ⟨hsound, hfine⟩) hcalm'
        · rw [hanswer]
          simp only [htransient, if_true]
          rw [← hcount]
          exact ih hreached hp' (Nat.forall_lt_succ_right.2 ⟨hsound, hfine⟩) hcalm'
        · rw [hanswer]
          simp only [htransient]
          exact ⟨n + 1, .failed hanswer htransient hsound, hcalm', hreached⟩

/-- Consumers that do the same to the world make no difference to a round, whatever
they answer. -/
theorem step_congr {W : Type} {cs cs' : List (Consumer W)}
    (hcs : ∀ f w, dispatch cs' f w = dispatch cs f w) (source : FrameSource W)
    (p : Pipeline W) (w : W) :
    ∃ (r : Except CameraError Round) (q : Pipeline W) (w' : W),
      step source { p with consumers := cs } w = (r, { q with consumers := cs }, w') ∧
      step source { p with consumers := cs' } w = (r, { q with consumers := cs' }, w') := by
  unfold step
  rcases source.grab p.grabTimeout w with ⟨e | f, w₁⟩
  · simp only
    split
    · exact ⟨_, p, _, rfl, rfl⟩
    · exact ⟨_, p, _, rfl, rfl⟩
  · have hpace : ∀ cs, pace { p with consumers := cs } source.clock w₁ =
        p.pace source.clock w₁ := fun _ => rfl
    simp only [deliver, hcs, hpace]
    exact ⟨_, { p with lastDelivery := some (source.clock.now (p.pace source.clock w₁)).1 }, _,
      rfl, rfl⟩

theorem run_congr {W : Type} {source : FrameSource W} {cs cs' : List (Consumer W)}
    (hcs : ∀ f w, dispatch cs' f w = dispatch cs f w) (rounds delivered : Nat) (p : Pipeline W)
    (w : W) :
    (run source rounds delivered { p with consumers := cs' } w).1 =
        (run source rounds delivered { p with consumers := cs } w).1 ∧
      (run source rounds delivered { p with consumers := cs' } w).2.2 =
        (run source rounds delivered { p with consumers := cs } w).2.2 := by
  induction rounds generalizing delivered p w with
  | zero => exact ⟨rfl, rfl⟩
  | succ rounds ih =>
      obtain ⟨r, q, w₁, hstep, hstep'⟩ := step_congr hcs source p w
      unfold run
      rw [hstep, hstep']
      by_cases hstopped : source.stopped w = true
      · rw [if_pos hstopped, if_pos hstopped]
        exact ⟨rfl, rfl⟩
      · rw [if_neg hstopped, if_neg hstopped]
        rcases r with e | delivered' | skipped
        · exact ⟨rfl, rfl⟩
        · exact ih (delivered + 1) q w₁
        · exact ih delivered q w₁

/-- Listeners that raise the flag at the same times do the same to a performance. -/
theorem dispatch_of_halts {ls ls' : List Listener}
    (h : List.Forall₂ (fun l l' => l'.halts = l.halts) ls ls') (seat : Nat) (f : Frame)
    (w : Performance T) :
    dispatch (audience seat ls') f w = dispatch (audience seat ls) f w := by
  induction h generalizing seat w with
  | nil => rfl
  | @cons l l' _ _ hl _ ih =>
      have hsame : ((l'.seated seat).onFrame f f.timestamp w).2 =
          ((l.seated seat).onFrame f f.timestamp w).2 := by
        rw [seated_snd l' f f.timestamp rfl, seated_snd l f f.timestamp rfl, hl]
      rw [audience, audience, dispatch, dispatch, List.foldl_cons, List.foldl_cons, hsame]
      exact ih (seat + 1) _

/-- A frame loop is its reference. It asks for `n` frames, each while the stop flag
was down and before any failure for good, and then ends as the reference says; every
frame went to every consumer, in order and brought to RGB, each with its own
timestamp; and consumers that answer otherwise but raise the flag at the same times
leave the answer and the whole performance as they are. -/
theorem run_performs (script : Nat → Except CameraError Frame) (c : Clock T)
    (ls : List Listener) (stopped : Bool) (p : Pipeline (Performance T)) (time : T)
    (rounds : Nat) :
    let perform (ls : List Listener) :=
      run (source script c) rounds 0 { p with consumers := audience 0 ls } { time, stopped }
    (∃ n, Ending script ls stopped rounds n (perform ls).1 ∧
      (∀ j < n, ¬Raised script ls stopped j) ∧
      (perform ls).2.2.asked = n ∧
      (perform ls).2.2.minutes = minutesOf script ls.length n ∧
      ((perform ls).2.2.stopped = true ↔ Raised script ls stopped n) ∧
      ∀ x ∈ handings script n, x.frame.layout = .rgb8) ∧
    ∀ ls', List.Forall₂ (fun l l' => l'.halts = l.halts) ls ls' →
      (perform ls').1 = (perform ls).1 ∧ (perform ls').2.2 = (perform ls).2.2 := by
  intro perform
  constructor
  · have hstart : Reached script ls stopped 0 ({ time, stopped } : Performance T) := by
      refine ⟨rfl, rfl, ?_⟩
      simp [Raised, handings]
    obtain ⟨n, hending, hcalm, hreached⟩ := run_reached (c := c)
      (p := { p with consumers := audience 0 ls }) rounds hstart rfl (by simp) (by simp)
    rw [Nat.zero_add] at hending
    exact ⟨n, hending, hcalm, hreached.asked, hreached.minutes, hreached.stopped,
      fun x hx => layout_of_mem_handings hx⟩
  · intro ls' hls
    exact run_congr (fun f w => dispatch_of_halts hls 0 f w) rounds 0 p _

end Pipeline
end FrameGrabber
