import FrameGrabber.Sim.Wakings
import Mathlib.Data.List.Chain

/-!
# A camera keeps its rate, however late it wakes

The due time after a tick is an interval behind the last due time or behind the waking,
whichever makes the camera wait. So due times are never less than an interval apart, and
a tick never falls before its due time. How late it falls is open; but the next tick is
due no earlier than this one fell, and that bounds every burst: of two ticks with others
between them, the first fell before the second of them all was due, and from there on the
due times count the intervals.

Nothing here asks of the wakings that they come in order. A camera does not look back: it
compares each waking with the one due time that it keeps.
-/

namespace FrameGrabber

/-! ## Due times -/

namespace Schedule

variable {interval : Span} {due now : Instant}

theorem le_nextDue : now ≤ nextDue interval due now := by
  unfold nextDue
  dsimp only [Instant, Span] at *
  split <;> omega

theorem nextDue_le (h : due ≤ now) : nextDue interval due now ≤ now + interval := by
  unfold nextDue
  dsimp only [Instant, Span] at *
  split <;> omega

theorem add_le_nextDue : due + interval ≤ nextDue interval due now := by
  unfold nextDue
  dsimp only [Instant, Span] at *
  split <;> omega

theorem wake_of_le {due : Option Instant} (h : due.getD now ≤ now) :
    wake interval due now = (true, nextDue interval (due.getD now) now) :=
  if_pos h

theorem wake_of_lt (h : now < due) : wake interval (some due) now = (false, due) :=
  if_neg (Nat.not_le.2 h)

end Schedule

/-! ## Ticks one after the other -/

/-- A tick that falls when it is due or later, and what it leaves behind. -/
structure Tick.Keeps (interval : Span) (t : Tick) : Prop where
  due_le : t.due ≤ t.fell
  fell_le : t.fell ≤ t.next
  next_le : t.next ≤ t.fell + interval
  apart : t.due + interval ≤ t.next

/-- The ticks that follow where the next is due at `due`, or at once if none is. -/
inductive Follow (interval : Span) : Option Instant → List Tick → Prop where
  | nil (due : Option Instant) : Follow interval due []
  | cons {due : Option Instant} {t : Tick} {rest : List Tick} (hdue : t.due = due.getD t.fell)
      (ht : t.Keeps interval) (hrest : Follow interval (some t.next) rest) :
      Follow interval due (t :: rest)

/-- No tick is due before the one before it has left its due time behind. -/
structure Spaced (interval : Span) (ticks : List Tick) : Prop where
  keeps : ∀ t ∈ ticks, t.Keeps interval
  next_le : ticks.Pairwise fun t u => t.next ≤ u.due

namespace Follow

variable {interval : Span} {due : Option Instant} {ticks : List Tick}

theorem le_due (h : Follow interval due ticks) : ∀ d ∈ due, ∀ t ∈ ticks, d ≤ t.due := by
  induction h with
  | nil => intro d _ t ht; cases ht
  | @cons due t rest hdue ht hrest ih =>
      intro d hd u hu
      have hfirst : d ≤ t.due := by
        rw [hdue, Option.mem_def.1 hd, Option.getD_some]
      have hapart := ht.apart
      rcases List.mem_cons.1 hu with rfl | hu
      · exact hfirst
      · have hlater := ih t.next rfl u hu
        dsimp only [Instant, Span] at *
        omega

theorem spaced (h : Follow interval due ticks) : Spaced interval ticks := by
  induction h with
  | nil => exact ⟨by simp, List.Pairwise.nil⟩
  | @cons due t rest hdue ht hrest ih =>
      refine ⟨?_, List.pairwise_cons.2 ⟨hrest.le_due t.next rfl, ih.next_le⟩⟩
      intro u hu
      rcases List.mem_cons.1 hu with rfl | hu
      · exact ht
      · exact ih.keeps u hu

theorem isChain (h : Follow interval due ticks) :
    ticks.IsChain fun t u => u.due = t.next := by
  induction h with
  | nil => exact List.IsChain.nil
  | cons hdue ht hrest ih =>
      cases hrest with
      | nil => exact List.IsChain.singleton _
      | cons hdue' ht' hrest' => exact List.IsChain.cons_cons hdue' ih

end Follow

namespace Spaced

variable {interval : Span} {ticks : List Tick} {i n : Nat} {t u : Tick}

theorem sublist (h : Spaced interval ticks) {some' : List Tick} (hsub : some'.Sublist ticks) :
    Spaced interval some' :=
  ⟨fun t ht => h.keeps t (hsub.subset ht), h.next_le.sublist hsub⟩

theorem next_le_due (h : Spaced interval ticks) (ht : ticks[i]? = some t)
    (hu : ticks[i + 1]? = some u) : t.next ≤ u.due := by
  obtain ⟨hi, rfl⟩ := List.getElem?_eq_some_iff.1 ht
  obtain ⟨hj, rfl⟩ := List.getElem?_eq_some_iff.1 hu
  exact List.pairwise_iff_getElem.1 h.next_le i (i + 1) hi hj (Nat.lt_succ_self i)

/-- The due times count the intervals. -/
theorem due_le (h : Spaced interval ticks) (ht : ticks[i]? = some t)
    (hu : ticks[i + n]? = some u) : t.due + n * interval ≤ u.due := by
  induction n generalizing u with
  | zero =>
      cases ht.symm.trans hu
      rw [Nat.zero_mul, Nat.add_zero]
  | succ n ih =>
      obtain ⟨hlength, -⟩ := List.getElem?_eq_some_iff.1 hu
      have hv : ticks[i + n]? = some ticks[i + n] := List.getElem?_eq_getElem (by omega)
      have hbefore := ih hv
      have hapart := (h.keeps _ (List.mem_of_getElem? hv)).apart
      have hnext := h.next_le_due hv hu
      rw [Nat.succ_mul]
      dsimp only [Instant, Span] at *
      omega

/-- One interval is lost to a late waking, and no more however many ticks there are. -/
theorem fell_le (h : Spaced interval ticks) (ht : ticks[i]? = some t)
    (hu : ticks[i + n + 1]? = some u) : t.fell + n * interval ≤ u.fell := by
  obtain ⟨hlength, -⟩ := List.getElem?_eq_some_iff.1 hu
  have hv : ticks[i + 1]? = some ticks[i + 1] := List.getElem?_eq_getElem (by omega)
  rw [Nat.add_right_comm] at hu
  have hleft := (h.keeps t (List.mem_of_getElem? ht)).fell_le
  have hnext := h.next_le_due ht hv
  have hdues := h.due_le hv hu
  have hlate := (h.keeps u (List.mem_of_getElem? hu)).due_le
  dsimp only [Instant, Span] at *
  omega

/-- Ticks that all fall between two instants are no more than the intervals between them,
and two. -/
theorem length_le (h : Spaced interval ticks) (hinterval : 0 < interval) {since until' : Instant}
    (hwithin : ∀ t ∈ ticks, since ≤ t.fell ∧ t.fell ≤ until') :
    ticks.length ≤ (until' - since) / interval + 2 := by
  obtain hfew | ⟨n, hn⟩ : ticks.length < 2 ∨ ∃ n, ticks.length = n + 2 :=
    (Nat.lt_or_ge ticks.length 2).imp_right fun hle => ⟨ticks.length - 2, by omega⟩
  · exact Nat.le_trans (Nat.le_of_lt hfew) (Nat.le_add_left 2 _)
  · have hfirst : ticks[0]? = some ticks[0] := List.getElem?_eq_getElem (by omega)
    have hlast : ticks[0 + n + 1]? = some ticks[0 + n + 1] := List.getElem?_eq_getElem (by omega)
    have hspan := h.fell_le hfirst hlast
    have hsince := (hwithin _ (List.mem_of_getElem? hfirst)).1
    have huntil := (hwithin _ (List.mem_of_getElem? hlast)).2
    have hcount : n ≤ (until' - since) / interval := by
      rw [Nat.le_div_iff_mul_le hinterval]
      dsimp only [Instant, Span] at *
      omega
    rw [hn]
    exact Nat.add_le_add_right hcount 2

end Spaced

/-! ## The loop -/

namespace SimStream

variable {c : Camera} {w : Waking} {s : SimStream} {interval : Span}

theorem round_of_broken (h : s.broken = true) : s.round c w = (none, s) := by
  rw [round, if_pos h]

/-- A camera that finds that it is not to acquire is at rest. -/
theorem round_of_off (hbroken : s.broken = false) (hoff : w.acquiring = false) :
    s.round c w = (none, { s with due := none }) := by
  rw [round, if_neg (by simp [hbroken]), if_pos (by simp [hoff])]

theorem round_of_le (hbroken : s.broken = false) (hon : w.acquiring = true)
    (h : s.due.getD w.now ≤ w.now) :
    s.round c w =
      (some ⟨s.due.getD w.now, w.now,
        Schedule.nextDue (w.registers.frameInterval c) (s.due.getD w.now) w.now,
        !s.input.isEmpty⟩,
      s.fall c w (Schedule.nextDue (w.registers.frameInterval c) (s.due.getD w.now) w.now)) := by
  simp only [round, hbroken, hon, Schedule.wake_of_le h, Bool.not_true, Bool.false_eq_true,
    if_false, if_true]

theorem round_of_lt (hbroken : s.broken = false) (hon : w.acquiring = true) {due : Instant}
    (hdue : s.due = some due) (h : w.now < due) : s.round c w = (none, s) := by
  rw [round, if_neg (by simp [hbroken]), if_neg (by simp [hon]), hdue, Schedule.wake_of_lt h]
  show (none, { s with due := some due }) = _
  rw [← hdue]

theorem fall_of_nil (h : s.input = []) (c : Camera) (w : Waking) (next : Instant) :
    s.fall c w next = { s with due := some next, ticks := s.ticks + 1 } := by
  rw [fall, h]

theorem fall_of_none {b : Buffer} {rest : List Buffer} (h : s.input = b :: rest)
    (hexposed : c.exposure? w.registers s.ticks b = none) (next : Instant) :
    s.fall c w next = { s with input := rest, broken := true } := by
  simp only [fall, h, hexposed]

theorem fall_of_some {b filled : Buffer} {rest : List Buffer} (h : s.input = b :: rest)
    (hexposed : c.exposure? w.registers s.ticks b = some filled) (next : Instant) :
    s.fall c w next = { s with
      input := rest
      output := s.output ++ [if w.stillAcquiring then filled else filled.setStatus .aborted]
      due := some next
      ticks := s.ticks + 1
      filled := s.filled ++ [s.ticks] } := by
  simp only [fall, h, hexposed]

/-- A tick leaves the camera with the next due time, or broken. -/
theorem fall_due (c : Camera) (w : Waking) (next : Instant) (s : SimStream) :
    (s.fall c w next).broken = true ∨
      (s.fall c w next).due = some next ∧ (s.fall c w next).broken = s.broken := by
  cases hinput : s.input with
  | nil =>
      rw [fall_of_nil hinput]
      exact .inr ⟨rfl, rfl⟩
  | cons b rest =>
      cases hexposed : c.exposure? w.registers s.ticks b with
      | none =>
          rw [fall_of_none hinput hexposed]
          exact .inl rfl
      | some filled =>
          rw [fall_of_some hinput hexposed]
          exact .inr ⟨rfl, rfl⟩

/-- What comes of one event while the camera is to acquire at a constant rate. Most of them
leave it as it is: a call of whoever has the stream, a waking before the due time, and
anything that happens to a broken camera. -/
inductive Met (interval : Span) (waking? : Option Waking) (s : SimStream) :
    Option Tick × SimStream → Prop where
  | still {s' : SimStream} (hdue : s'.due = s.due) (hbroken : s'.broken = s.broken)
      (hearly : s.broken = false → ∀ w ∈ waking?, ∃ due, s.due = some due ∧ w.now < due) :
      Met interval waking? s (none, s')
  | tick {w : Waking} {t : Tick} {s' : SimStream} (hw : waking? = some w)
      (hsound : s.broken = false) (hfell : t.fell = w.now) (hdue : t.due = s.due.getD w.now)
      (hle : t.due ≤ w.now) (hnext : t.next = Schedule.nextDue interval t.due w.now)
      (hleft : s'.broken = true ∨ s'.broken = false ∧ s'.due = some t.next) :
      Met interval waking? s (some t, s')

theorem round_met (hon : w.acquiring = true)
    (hinterval : w.registers.frameInterval c = interval) :
    Met interval (some w) s (s.round c w) := by
  cases hsound : s.broken with
  | true =>
      rw [round_of_broken hsound]
      exact .still rfl rfl (by simp [hsound])
  | false =>
      by_cases hdue : s.due.getD w.now ≤ w.now
      · rw [round_of_le hsound hon hdue, hinterval]
        refine .tick rfl hsound rfl rfl hdue rfl ?_
        rcases fall_due c w _ s with hbroken | ⟨hnext, hkept⟩
        · exact .inl hbroken
        · exact .inr ⟨hkept.trans hsound, hnext⟩
      · obtain ⟨due, hd⟩ : ∃ due, s.due = some due := by
          cases hd : s.due with
          | none => rw [hd] at hdue; exact absurd (Nat.le_refl _) hdue
          | some due => exact ⟨due, rfl⟩
        rw [hd, Option.getD_some, Nat.not_le] at hdue
        rw [round_of_lt hsound hon hd hdue]
        refine .still rfl rfl fun _ w' hw' => ⟨due, hd, ?_⟩
        cases hw'
        exact hdue

/-- The camera is to acquire, at this interval, whenever the event is a waking. -/
def Steady (c : Camera) (interval : Span) (e : StreamEvent) : Prop :=
  ∀ w ∈ e.waking?, w.acquiring = true ∧ w.registers.frameInterval c = interval

theorem meet_met {e : StreamEvent} (he : Steady c interval e) :
    Met interval e.waking? s (s.meet c e) := by
  cases e with
  | wake w => exact round_met (he w rfl).1 (he w rfl).2
  | enqueue b => exact .still rfl rfl fun _ _ hw => by cases hw
  | take =>
      have hkept : s.take.2.due = s.due ∧ s.take.2.broken = s.broken := by
        unfold take
        split <;> exact ⟨rfl, rfl⟩
      exact .still hkept.1 hkept.2 fun _ _ hw => by cases hw
  | flush => exact .still rfl rfl fun _ _ hw => by cases hw

/-! ## A whole acquisition -/

variable {events : List StreamEvent}

theorem live_cons (e : StreamEvent) (rest : List StreamEvent) (s : SimStream) :
    live c (e :: rest) s =
      ((s.meet c e).1.toList ++ (live c rest (s.meet c e).2).1,
        (live c rest (s.meet c e).2).2) := rfl

theorem live_of_broken (hevents : ∀ e ∈ events, Steady c interval e) (h : s.broken = true) :
    (live c events s).1 = [] ∧ (live c events s).2.broken = true := by
  induction events generalizing s with
  | nil => exact ⟨rfl, h⟩
  | cons e rest ih =>
      obtain ⟨he, hrest⟩ := List.forall_mem_cons.1 hevents
      have hmet := meet_met (s := s) he
      rw [live_cons]
      generalize s.meet c e = x at hmet
      cases hmet with
      | still hdue hbroken hearly => exact ih hrest (hbroken.trans h)
      | tick hw hsound => rw [h] at hsound; cases hsound

theorem live_follow (hevents : ∀ e ∈ events, Steady c interval e) :
    Follow interval s.due (live c events s).1 := by
  induction events generalizing s with
  | nil => exact .nil _
  | cons e rest ih =>
      obtain ⟨he, hrest⟩ := List.forall_mem_cons.1 hevents
      have hmet := meet_met (s := s) he
      rw [live_cons]
      generalize s.meet c e = x at hmet
      cases hmet with
      | still hdue hbroken hearly => exact hdue ▸ ih hrest
      | @tick w t s' hw hsound hfell hdue hle hnext hleft =>
          rw [← hfell] at hdue hle hnext
          refine .cons hdue ⟨hle, ?_, ?_, ?_⟩ ?_
          · exact hnext ▸ Schedule.le_nextDue
          · exact hnext ▸ Schedule.nextDue_le hle
          · exact hnext ▸ Schedule.add_le_nextDue
          · rcases hleft with hbroken | ⟨-, hdue'⟩
            · rw [(live_of_broken hrest hbroken).1]
              exact .nil _
            · exact hdue' ▸ ih hrest

/-- An acquisition begins with a tick: the first waking is one. -/
theorem live_first (hevents : ∀ e ∈ events, Steady c interval e) (hrest : s.due = none)
    (hsound : s.broken = false) :
    (live c events s).1.head?.map (fun t => (t.due, t.fell)) =
      (events.filterMap (·.waking?)).head?.map fun w => (w.now, w.now) := by
  induction events generalizing s with
  | nil => rfl
  | cons e rest ih =>
      obtain ⟨he, hlater⟩ := List.forall_mem_cons.1 hevents
      have hmet := meet_met (s := s) he
      rw [live_cons, List.filterMap_cons]
      generalize s.meet c e = x at hmet
      generalize e.waking? = waking? at hmet
      cases hmet with
      | still hdue hbroken hearly =>
          cases waking? with
          | none => exact ih hlater (hdue.trans hrest) (hbroken.trans hsound)
          | some w =>
              obtain ⟨due, hd, -⟩ := hearly hsound w rfl
              rw [hrest] at hd
              cases hd
      | @tick w t s' hw hsound' hfell hdue =>
          cases hw
          rw [hrest, Option.getD_none] at hdue
          show some (t.due, t.fell) = some (w.now, w.now)
          rw [hdue, hfell]

/-- What the camera remembers at the end is when the next tick is due after the last. -/
theorem live_due (hevents : ∀ e ∈ events, Steady c interval e)
    (hsound : (live c events s).2.broken = false) :
    (live c events s).2.due = ((live c events s).1.getLast?.map (·.next)).or s.due := by
  induction events generalizing s with
  | nil => rfl
  | cons e rest ih =>
      obtain ⟨he, hrest⟩ := List.forall_mem_cons.1 hevents
      have hmet := meet_met (s := s) he
      rw [live_cons] at hsound ⊢
      generalize s.meet c e = x at hmet hsound
      cases hmet with
      | still hdue hbroken hearly => exact (ih hrest hsound).trans (by rw [hdue]; rfl)
      | @tick w t s' hw hsound' hfell hdue hle hnext hleft =>
          rcases hleft with hbroken | ⟨-, hdue'⟩
          · rw [(live_of_broken hrest hbroken).2] at hsound
            cases hsound
          · refine (ih hrest hsound).trans ?_
            show _ = ((t :: (live c rest s').1).getLast?.map (·.next)).or s.due
            rw [hdue', List.getLast?_cons]
            cases (live c rest s').1.getLast? <;> rfl

/-- Whether there are buffers to expose into has no part in when the ticks fall. -/
theorem live_ticks (hevents : ∀ e ∈ events, Steady c interval e)
    (hsound : (live c events s).2.broken = false) :
    (live c events s).1.map (fun t => (t.due, t.fell)) =
      Schedule.ticks interval s.due ((events.filterMap (·.waking?)).map (·.now)) := by
  induction events generalizing s with
  | nil => rfl
  | cons e rest ih =>
      obtain ⟨he, hrest⟩ := List.forall_mem_cons.1 hevents
      have hmet := meet_met (s := s) he
      have hstill := fun h => (live_of_broken (s := s) hevents h).2
      rw [live_cons] at hsound hstill ⊢
      rw [List.filterMap_cons]
      generalize s.meet c e = x at hmet hsound hstill
      generalize e.waking? = waking? at hmet
      cases hmet with
      | still hdue hbroken hearly =>
          have hlater := ih hrest hsound
          rw [hdue] at hlater
          refine hlater.trans ?_
          cases waking? with
          | none => rfl
          | some w =>
              have hwas : s.broken = false := by
                cases h : s.broken with
                | false => rfl
                | true => exact absurd (hstill h) (by rw [hsound]; decide)
              obtain ⟨due, hd, hlt⟩ := hearly hwas w rfl
              rw [List.map_cons, Schedule.ticks, hd, Schedule.wake_of_lt hlt]
              rfl
      | @tick w t s' hw hsound' hfell hdue hle hnext hleft =>
          cases hw
          rcases hleft with hbroken | ⟨-, hdue'⟩
          · rw [(live_of_broken hrest hbroken).2] at hsound
            cases hsound
          · have hlater := ih hrest hsound
            rw [hdue'] at hlater
            rw [hdue] at hle hnext
            rw [List.map_cons, Schedule.ticks, Schedule.wake_of_le hle, ← hnext]
            show (t.due, t.fell) :: (live c rest s').1.map _ = (s.due.getD w.now, w.now) :: _
            rw [hdue, hfell, hlater]

/-! ## Virtual time -/

/-- Wakings that are all on time, the first of them at `due`. -/
def punctual (r : Registers) (interval : Span) : Instant → Nat → List StreamEvent
  | _, 0 => []
  | due, k + 1 => .wake ⟨due, true, r, true⟩ :: punctual r interval (due + interval) k

variable {r : Registers}

theorem nextDue_self (interval : Span) (due : Instant) :
    Schedule.nextDue interval due due = due + interval := by
  rw [Schedule.nextDue, Nat.sub_self, if_neg (Nat.not_lt_zero _)]

theorem live_punctual (hr : r.frameInterval c = interval) {due : Instant}
    (hsound : s.broken = false) (hdue : s.due = some due) (k : Nat) :
    (live c (punctual r interval due (k + 1)) s).2 =
      (live c (punctual r interval (due + interval) k)
        (s.fall c ⟨due, true, r, true⟩ (due + interval))).2 := by
  have hround := round_of_le (c := c) (w := ⟨due, true, r, true⟩) hsound rfl
    (by rw [hdue]; exact Nat.le_refl _)
  rw [hdue, Option.getD_some, hr, nextDue_self] at hround
  rw [punctual, live_cons]
  show (live c _ (s.round c _).2).2 = _
  rw [hround]

/-- Ticks that find no buffer only pass. -/
theorem live_lost (hr : r.frameInterval c = interval) (hsound : s.broken = false)
    (hempty : s.input = []) {due : Instant} (hdue : s.due = some due) (k : Nat) :
    (live c (punctual r interval due k) s).2 =
      { s with due := some (due + k * interval), ticks := s.ticks + k } := by
  induction k generalizing s due with
  | zero =>
      rw [Nat.zero_mul]
      show s = { s with due := some due, ticks := s.ticks }
      rw [← hdue]
  | succ k ih =>
      rw [live_punctual hr hsound hdue, fall_of_nil hempty,
        ih (s := { s with due := some (due + interval), ticks := s.ticks + 1 }) hsound hempty rfl,
        Nat.succ_mul, Nat.add_comm (k * interval), Nat.add_assoc due, Nat.add_assoc s.ticks,
        Nat.add_comm 1 k]

/-- The stream after a stretch of ticks. -/
def settle (x : Stretch) (s : SimStream) : SimStream :=
  { s with
    input := x.left, output := s.output ++ x.exposed.map (·.2), due := some x.due
    ticks := x.ticks, filled := s.filled ++ x.exposed.map (·.1), broken := x.broken }

theorem settle_untouched (hsound : s.broken = false) {due : Instant} (hdue : s.due = some due) :
    s.settle ⟨[], s.input, due, s.ticks, false⟩ = s := by
  rw [settle, List.map_nil, List.map_nil, List.append_nil, List.append_nil, ← hdue, ← hsound]

/-- A stretch of ticks is what comes of as many wakings, all on time. -/
theorem live_stretch (hr : r.frameInterval c = interval) (until' : Instant)
    (hsound : s.broken = false) {due : Instant} (hdue : s.due = some due) :
    ∃ k, (live c (punctual r interval due k) s).2 =
      s.settle (stretch (c.exposure? r) interval until' s.input due s.ticks) := by
  generalize hinput : s.input = input
  induction input generalizing s due with
  | nil =>
      unfold stretch
      split
      · exact ⟨0, (hinput ▸ settle_untouched hsound hdue).symm⟩
      · refine ⟨(until' - due) / interval + 1, ?_⟩
        rw [live_lost hr hsound hinput hdue, settle, List.map_nil, List.map_nil,
          List.append_nil, List.append_nil, ← hinput, ← hsound]
  | cons b rest ih =>
      unfold stretch
      split
      · exact ⟨0, (hinput ▸ settle_untouched hsound hdue).symm⟩
      · cases hexposed : c.exposure? r s.ticks b with
        | none =>
            have hfall := fall_of_none (w := ⟨due, true, r, true⟩) hinput hexposed
            refine ⟨0 + 1, ?_⟩
            rw [live_punctual hr hsound hdue, hfall]
            show ({ s with input := rest, broken := true } : SimStream) = _
            rw [settle, List.map_nil, List.map_nil, List.append_nil, List.append_nil, ← hdue]
        | some filled =>
            have hfall := fall_of_some (w := ⟨due, true, r, true⟩) hinput hexposed
            have hafter : (s.fall c ⟨due, true, r, true⟩ (due + interval)).due =
                some (due + interval) := by rw [hfall]
            obtain ⟨k, hk⟩ := ih (s := s.fall c ⟨due, true, r, true⟩ (due + interval))
              (by rw [hfall]; exact hsound) hafter (by rw [hfall])
            refine ⟨k + 1, ?_⟩
            rw [live_punctual hr hsound hdue, hk, hfall, nextDue_self]
            simp [settle]

/-- In virtual time the camera does what its loop does that wakes on time at each tick. -/
theorem advance_eq_live (hr : r.frameInterval c = interval) (hinterval : 0 < interval)
    (until' : Instant) (hsound : s.broken = false) {due : Instant} (hdue : s.due = some due) :
    ∃ k, (live c (punctual r interval due k) s).2 = s.advance c r until' := by
  obtain ⟨k, hk⟩ := live_stretch hr until' hsound hdue
  refine ⟨k, hk.trans ?_⟩
  have hmax : max 1 interval = interval := Nat.max_eq_right hinterval
  simp only [advance, hsound, hdue, hr, hmax, settle, Bool.false_eq_true, if_false]

/-! ## The rate -/

/-- A camera that is to acquire at a constant interval ticks first as it first wakes, and
never before a tick is due. After each tick, whether it found a buffer or not, the next is
due no earlier than this one fell and an interval later at most; and an interval at least
lies between the due times of any two. So of the ticks that fall, any with `n` others
between them are `n` intervals apart, and between two instants there fall no more than the
intervals between them and two. Which wakings are ticks is decided by the instants alone,
as long as the camera does not break down; and what it keeps of the acquisition is the due
time after the last tick, until it finds that it is not to acquire. -/
theorem live_keeps_rate (c : Camera) (s : SimStream) (events : List StreamEvent)
    {interval : Span} (hinterval : 0 < interval) (hrest : s.due = none)
    (hevents : ∀ e ∈ events, Steady c interval e) :
    let ticks := (live c events s).1
    let after := (live c events s).2
    let wakings := events.filterMap (·.waking?)
    (s.broken = false → ticks.head?.map (fun t => (t.due, t.fell)) =
      wakings.head?.map fun w => (w.now, w.now)) ∧
    (∀ t ∈ ticks, t.Keeps interval) ∧
    (ticks.IsChain fun t u => u.due = t.next) ∧
    (∀ i n t u, ticks[i]? = some t → ticks[i + n + 1]? = some u →
      t.fell + n * interval ≤ u.fell) ∧
    (∀ since until', (ticks.filter fun t => since ≤ t.fell ∧ t.fell ≤ until').length ≤
      (until' - since) / interval + 2) ∧
    (after.broken = false →
      ticks.map (fun t => (t.due, t.fell)) =
        Schedule.ticks interval none (wakings.map (·.now)) ∧
      after.due = ticks.getLast?.map (·.next) ∧
      ∀ w, w.acquiring = false → (after.round c w).2.due = none) := by
  intro ticks after wakings
  have hfollow := live_follow (s := s) hevents
  have hspaced := hfollow.spaced
  refine ⟨live_first hevents hrest, hspaced.keeps, hfollow.isChain,
    fun i n t u ht hu => hspaced.fell_le ht hu, fun since until' => ?_, fun hsound => ?_⟩
  · refine (hspaced.sublist List.filter_sublist).length_le hinterval fun t ht => ?_
    simpa using (List.mem_filter.1 ht).2
  · refine ⟨?_, ?_, fun w hoff => ?_⟩
    · rw [← hrest]
      exact live_ticks hevents hsound
    · rw [live_due hevents hsound, hrest, Option.or_none]
    · rw [round_of_off hsound hoff]

/-- A thousand frames in a second: the first tick finds no buffer, the second falls late by
less than an interval, so that the third comes soon after it; but the first and the third
are an interval apart. -/
theorem live_keeps_rate_late :
    let c : Camera := { sensorWidth := 2, sensorHeight := 1, maxFrameRate := 1000.0 }
    let wake (now : Instant) : StreamEvent := .wake ⟨now, true, .initial c, true⟩
    let s : SimStream := { connection := 0 }
    let events := [wake 5, wake 7, .enqueue (.new ⟨1, 0⟩ 2), wake 1800000, wake 2000005]
    let ticks : List Tick := [⟨5, 5, 1000005, false⟩, ⟨1000005, 1800000, 2000005, true⟩,
      ⟨2000005, 2000005, 3000005, false⟩]
    0 < 1000000 ∧ s.due = none ∧ (∀ e ∈ events, Steady c 1000000 e) ∧
      (live c events s).1 = ticks ∧ (∀ t ∈ ticks, t.Keeps 1000000) ∧
      5 + 1 * 1000000 ≤ 2000005 ∧ (live c events s).2.due = some 3000005 := by
  intro c wake s events ticks
  have hevents : ∀ e ∈ events, Steady c 1000000 e := by
    have hinterval : (Registers.initial c).frameInterval c = 1000000 := by decide +kernel
    have hwake : ∀ now, Steady c 1000000 (wake now) := by
      rintro now _ ⟨⟩
      exact ⟨rfl, hinterval⟩
    have hqueue : Steady c 1000000 (.enqueue (.new ⟨1, 0⟩ 2)) := by
      rintro w ⟨⟩
    simp only [events, List.forall_mem_cons]
    exact ⟨hwake 5, hwake 7, hqueue, hwake 1800000, hwake 2000005, List.forall_mem_nil _⟩
  have hticks : (live c events s).1 = ticks := by decide +kernel
  obtain ⟨-, hkeeps, -, hapart, -, hafter⟩ :=
    live_keeps_rate c s events (show 0 < 1000000 by decide) rfl hevents
  obtain ⟨-, hdue, -⟩ := hafter (by decide +kernel)
  rw [hticks] at hkeeps hapart hdue
  exact ⟨by decide, rfl, hevents, hticks, hkeeps, hapart 0 1 _ _ rfl rfl, hdue⟩

end SimStream
end FrameGrabber
