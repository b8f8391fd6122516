import FrameGrabber.Sink.Snapshotting
import Mathlib.Data.List.Induction

/-!
# No request is lost, and none is served twice

Whoever asks and whoever delivers share one number, and look at it at different times.
What keeps it right is that it is lowered only from what it is, and only if that is not
zero. So a delivery is decided at one instant: when the counter is lowered, or when it is
seen to be zero. In the order of these instants a run is one of requests and deliveries
that each happen at once, and its counter and its frames are theirs.

The invariant has a clause for a frame under way. While the sink tries, the counter has
grown by what was asked since the delivery began and by nothing else, because nobody but
the sink lowers it. Between the counter and the writer a frame is in the sink's hands, and
it counts among those that a request was given to.
-/

namespace FrameGrabber

/-! ## Requests and deliveries that happen at once -/

namespace Snapshots

theorem after_concat (acts : List SnapshotAct) (a : SnapshotAct) :
    after (acts ++ [a]) = (after acts).act a := by
  rw [after, List.foldl_append]
  rfl

theorem deliver_of_zero {s : Snapshots} (h : s.pending = 0) (f : Frame) : s.deliver f = s :=
  if_pos h

theorem deliver_of_pos {s : Snapshots} (h : 0 < s.pending) (f : Frame) :
    s.deliver f = { s with pending := s.pending - 1, handed := s.handed ++ [f] } :=
  if_neg (Nat.ne_of_gt h)

/-- Each request is open, or a frame was handed over for it. -/
theorem length_handed_add_pending (acts : List SnapshotAct) :
    (after acts).handed.length + (after acts).pending = acts.count .request := by
  induction acts using List.reverseRecOn with
  | nil => rfl
  | append_singleton acts a ih =>
      rw [after_concat, List.count_append]
      cases a with
      | request =>
          simp only [act, request, List.count_singleton_self]
          omega
      | deliver f =>
          have hnone : List.count SnapshotAct.request [.deliver f] = 0 := by simp
          rw [hnone, Nat.add_zero, ← ih, act]
          rcases Nat.eq_zero_or_pos (after acts).pending with hzero | hpos
          · rw [deliver_of_zero hzero]
          · rw [deliver_of_pos hpos]
            simp only [List.length_append, List.length_singleton]
            omega

theorem after_requests (r : Nat) :
    after (List.replicate r .request) = { pending := r } := by
  induction r with
  | zero => rfl
  | succ r ih =>
      rw [List.replicate_succ', after_concat, ih]
      rfl

/-- Deliveries after so many requests serve that many frames, the first ones. -/
theorem after_requests_deliveries (r : Nat) (frames : List Frame) :
    after (List.replicate r .request ++ frames.map .deliver) =
      ⟨r - frames.length, frames.take r⟩ := by
  induction frames using List.reverseRecOn with
  | nil => simp [after_requests]
  | append_singleton frames f ih =>
      rw [List.map_append, ← List.append_assoc, List.map_singleton, after_concat, ih, act]
      rcases Nat.lt_or_ge frames.length r with hopen | hserved
      · rw [deliver_of_pos (Nat.sub_pos_of_lt hopen), List.take_of_length_le (Nat.le_of_lt hopen),
          List.take_of_length_le (by simpa using Nat.succ_le_of_lt hopen), List.length_append,
          Nat.sub_sub]
        rfl
      · rw [deliver_of_zero (Nat.sub_eq_zero_of_le hserved), List.take_append_of_le_length hserved,
          Nat.sub_eq_zero_of_le hserved, Nat.sub_eq_zero_of_le (by simp; omega)]

end Snapshots

namespace Snapshotting

variable {x : Snapshotting} {e : Errand}

/-! ## What a move can do -/

/-- The frames that a request was given to, the last perhaps not handed over yet. -/
def served (x : Snapshotting) : List Frame := x.handed ++ x.stage.granted?.toList

theorem served_eq_handed (h : x.stage.granted? = none) : x.served = x.handed := by
  rw [served, h]
  exact List.append_nil _

theorem served_of_idle (hidle : x.stage = .idle) : x.served = x.handed :=
  served_eq_handed (by rw [hidle]; rfl)

/-- The moves, and where each leads. -/
inductive Leads (x : Snapshotting) : SnapshotMove → Snapshotting → Prop where
  | ask (copy : Nat) : Leads x (.request copy) x.request
  -- A move that finds nothing to do. To ask is never one.
  | rest (m : SnapshotMove) (hm : m.isRequest = false) : Leads x m x
  | begin (f : Frame) (hidle : x.stage = .idle) (hkept : x.kept = true) :
    Leads x (.deliver f) { x with
      stage := .looking ⟨f, x.pending, x.requests⟩, delivered := x.delivered ++ [f] }
  | pass (fails : Bool) (e : Errand) (he : x.stage.errand? = some e) (hzero : x.pending = 0) :
    Leads x (.proceed fails) ((x.resolve e).answer (.ok ()))
  | look (fails : Bool) (e : Errand) (he : x.stage.errand? = some e) (hpos : 0 < x.pending) :
    Leads x (.proceed fails) { x with stage := .trying e x.pending }
  | grant (fails : Bool) (e : Errand) (htry : x.stage = .trying e x.pending) :
    Leads x (.proceed fails) (x.grant e)
  | hand (fails : Bool) (f : Frame) (hf : x.stage = .granted f) :
    Leads x (.proceed fails) (x.hand f)
  | write (f : Frame) (rest : List Frame) (hwaiting : x.waiting = f :: rest) :
    Leads x .write { x with
      waiting := rest, saved := x.saved ++ [(f, Image.ofFrame f)] }
  | close (hidle : x.stage = .idle) : Leads x .close { x with kept := false }
  | perish : Leads x .perish x.perish

theorem leads_learn (fails : Bool) (he : x.stage.errand? = some e) :
    Leads x (.proceed fails) (x.learn e) := by
  unfold learn
  split
  · next hzero => exact .pass fails e he hzero
  · next hsome => exact .look fails e he (Nat.pos_of_ne_zero hsome)

theorem leads_proceed (x : Snapshotting) (fails : Bool) :
    Leads x (.proceed fails) (x.proceed fails) := by
  unfold proceed
  split
  · exact .rest _ rfl
  · next e hstage => exact leads_learn fails (by rw [hstage]; rfl)
  · next e seen hstage =>
      split
      · next hsame =>
          obtain ⟨rfl, -⟩ := Bool.and_eq_true_iff.1 hsame |>.imp_left of_decide_eq_true
          exact .grant fails e hstage
      · exact leads_learn fails (by rw [hstage]; rfl)
  · next f hstage => exact .hand fails f hstage

theorem leads_move (x : Snapshotting) (m : SnapshotMove) : Leads x m (x.move m) := by
  cases m with
  | request copy => exact .ask copy
  | deliver f =>
      simp only [move, deliver]
      split
      · next hidle =>
          split
          · next hkept => exact .begin f hidle hkept
          · exact .rest _ rfl
      all_goals exact .rest _ rfl
  | proceed fails => exact leads_proceed x fails
  | write =>
      simp only [move, write]
      split
      · exact .rest _ rfl
      · next f rest hwaiting => exact .write f rest hwaiting
  | close =>
      simp only [move, close]
      split
      · next hidle => exact .close hidle
      all_goals exact .rest _ rfl
  | perish => exact .perish

/-! ## The invariant -/

/-- What holds while the writer lives. -/
structure Serves (x : Snapshotting) : Prop where
  attended : x.attended = true
  kept : x.stage ≠ .idle → x.kept = true
  answers : ∀ a ∈ x.answers, a = .ok ()
  answered : x.answers.length + x.stage.errand?.toList.length + x.stage.granted?.toList.length =
    x.delivered.length
  saved : ∀ y ∈ x.saved, y.2 = Image.ofFrame y.1
  met : ∀ v ∈ x.visits, v.met = v.asked + v.meanwhile
  /-- Nobody but the sink lowers the counter. -/
  grown : ∀ e, x.stage.errand? = some e →
    e.since ≤ x.requests ∧ x.pending = e.asked + (x.requests - e.since)
  seen : ∀ e n, x.stage = .trying e n → 0 < n
  delivered : x.visits.map (·.frame) ++ x.stage.errand?.toList.map (·.frame) = x.delivered
  order : x.order.filterMap (·.frame?) = x.visits.map (·.frame)
  requests : x.order.count .request = x.requests
  served : x.served = (x.visits.filter (0 < ·.met)).map (·.frame)
  after : Snapshots.after x.order = ⟨x.pending, x.served⟩

theorem serves_new : Serves {} where
  attended := rfl
  kept _ := rfl
  answers := List.forall_mem_nil _
  answered := rfl
  saved := List.forall_mem_nil _
  met := List.forall_mem_nil _
  grown _ h := nomatch h
  seen _ _ h := nomatch h
  delivered := rfl
  order := rfl
  requests := rfl
  served := rfl
  after := rfl

theorem Serves.request (h : Serves x) : Serves x.request where
  attended := h.attended
  kept := h.kept
  answers := h.answers
  answered := h.answered
  saved := h.saved
  met := h.met
  grown e he := by
    obtain ⟨hsince, hgrown⟩ := h.grown e he
    refine ⟨Nat.le_succ_of_le hsince, ?_⟩
    simp only [Snapshotting.request]
    omega
  seen := h.seen
  delivered := h.delivered
  order := by
    simp only [Snapshotting.request, List.filterMap_append]
    exact (List.append_nil _).trans h.order
  requests := by
    simp only [Snapshotting.request, List.count_append, List.count_singleton_self, h.requests]
  served := h.served
  after := by
    simp only [Snapshotting.request, Snapshots.after_concat, h.after]
    rfl

theorem Serves.begin (h : Serves x) (f : Frame) (hidle : x.stage = .idle) (hkept : x.kept = true) :
    Serves { x with
      stage := .looking ⟨f, x.pending, x.requests⟩, delivered := x.delivered ++ [f] } := by
  have hanswered := h.answered
  have hdelivered := h.delivered
  have hserved := served_of_idle hidle
  rw [hidle] at hanswered hdelivered
  refine { h with
    kept := fun _ => hkept, answered := ?_, grown := ?_, seen := ?_, delivered := ?_
    served := (List.append_nil _).trans (hserved.symm.trans h.served)
    after := h.after.trans (congrArg _ (hserved.trans (List.append_nil _).symm)) }
  · simp only [List.length_append, List.length_singleton, ← hanswered]
    rfl
  · rintro _ ⟨⟩
    exact ⟨Nat.le_refl _, by simp⟩
  · rintro _ _ ⟨⟩
  · rw [← hdelivered]
    simp [SnapshotStage.errand?]

theorem Serves.met_resolve (h : Serves x) (he : x.stage.errand? = some e) :
    ∀ v ∈ (x.resolve e).visits, v.met = v.asked + v.meanwhile := by
  simp only [resolve, List.forall_mem_append, List.forall_mem_singleton]
  exact ⟨h.met, (h.grown e he).2⟩

theorem Serves.delivered_resolve (h : Serves x) (he : x.stage.errand? = some e) :
    (x.resolve e).visits.map (·.frame) = x.delivered := by
  have hdelivered := h.delivered
  rw [he] at hdelivered
  rw [← hdelivered, resolve, List.map_append]
  rfl

theorem Serves.order_resolve (h : Serves x) :
    (x.resolve e).order.filterMap (·.frame?) = (x.resolve e).visits.map (·.frame) := by
  simp only [resolve, List.filterMap_append, List.map_append, h.order]
  rfl

theorem Serves.requests_resolve (h : Serves x) :
    (x.resolve e).order.count .request = x.requests := by
  simp [resolve, List.count_append, h.requests]

theorem granted?_of_errand? {s : SnapshotStage} (he : s.errand? = some e) : s.granted? = none := by
  cases s with
  | idle | looking _ | trying _ _ => rfl
  | granted f => nomatch he

theorem Serves.handed_of_errand (h : Serves x) (he : x.stage.errand? = some e) :
    x.handed = (x.visits.filter (0 < ·.met)).map (·.frame) ∧
      Snapshots.after x.order = ⟨x.pending, x.handed⟩ := by
  have hserved : x.served = x.handed := served_eq_handed (granted?_of_errand? he)
  exact ⟨hserved ▸ h.served, hserved ▸ h.after⟩

theorem forall_answers (h : ∀ a ∈ x.answers, a = .ok ()) :
    ∀ a ∈ (x.answer (.ok ())).answers, a = .ok () := by
  intro a ha
  rcases List.mem_append.1 ha with hold | hnew
  · exact h a hold
  · exact List.mem_singleton.1 hnew

theorem Serves.pass (h : Serves x) (he : x.stage.errand? = some e) (hzero : x.pending = 0) :
    Serves ((x.resolve e).answer (.ok ())) := by
  obtain ⟨hserved, hafter⟩ := h.handed_of_errand he
  have hanswered := h.answered
  rw [he, granted?_of_errand? he] at hanswered
  refine {
    attended := h.attended, kept := fun hbusy => absurd rfl hbusy, answers := ?_, answered := ?_
    saved := h.saved, met := h.met_resolve he, grown := ?_, seen := ?_
    delivered := ?_, order := h.order_resolve, requests := h.requests_resolve
    served := ?_, after := ?_ }
  · exact forall_answers h.answers
  · rw [answer, List.length_append]
    exact hanswered
  · rintro _ ⟨⟩
  · rintro _ _ ⟨⟩
  · exact (List.append_nil _).trans (h.delivered_resolve he)
  · have hnone : [(⟨e.frame, e.asked, x.requests - e.since, x.pending⟩ : Visit)].filter
        (0 < ·.met) = [] := by simp [hzero]
    simp only [answer, resolve, List.filter_append, hnone, List.append_nil]
    exact (List.append_nil _).trans hserved
  · simp only [answer, resolve, Snapshots.after_concat, hafter, Snapshots.act]
    rw [Snapshots.deliver_of_zero hzero]
    exact congrArg _ (List.append_nil _).symm

theorem Serves.look (h : Serves x) (he : x.stage.errand? = some e) (hpos : 0 < x.pending) :
    Serves { x with stage := .trying e x.pending } := by
  obtain ⟨hserved, hafter⟩ := h.handed_of_errand he
  have hanswered := h.answered
  have hdelivered := h.delivered
  have hkept : x.kept = true := h.kept fun hidle => by simp [hidle, SnapshotStage.errand?] at he
  rw [he] at hdelivered
  rw [he, granted?_of_errand? he] at hanswered
  refine { h with
    kept := fun _ => hkept, answered := hanswered, grown := ?_, seen := ?_
    delivered := hdelivered, served := ?_, after := ?_ }
  · rintro _ ⟨⟩
    exact h.grown e he
  · rintro _ _ ⟨⟩
    exact hpos
  · exact (List.append_nil _).trans hserved
  · exact hafter.trans (congrArg _ (List.append_nil _).symm)

theorem Serves.grant (h : Serves x) (htry : x.stage = .trying e x.pending) :
    Serves (x.grant e) := by
  have he : x.stage.errand? = some e := by rw [htry]; rfl
  -- The try goes through only from what was seen, and that was never zero.
  have hpos := h.seen e _ htry
  obtain ⟨hserved, hafter⟩ := h.handed_of_errand he
  have hanswered := h.answered
  have hkept : x.kept = true := h.kept fun hidle => by simp [hidle] at htry
  rw [he, granted?_of_errand? he] at hanswered
  refine {
    attended := h.attended, kept := fun _ => hkept, answers := h.answers
    answered := hanswered, saved := h.saved, met := h.met_resolve he, grown := ?_, seen := ?_
    delivered := ?_, order := h.order_resolve, requests := h.requests_resolve
    served := ?_, after := ?_ }
  · rintro _ ⟨⟩
  · rintro _ _ ⟨⟩
  · exact (List.append_nil _).trans (h.delivered_resolve he)
  · have hsome : [(⟨e.frame, e.asked, x.requests - e.since, x.pending⟩ : Visit)].filter
        (0 < ·.met) = [⟨e.frame, e.asked, x.requests - e.since, x.pending⟩] := by simp [hpos]
    simp only [Snapshotting.grant, resolve, List.filter_append, hsome, List.map_append, ← hserved]
    rfl
  · simp only [Snapshotting.grant, resolve, Snapshots.after_concat, hafter, Snapshots.act]
    exact Snapshots.deliver_of_pos hpos e.frame

theorem Serves.hand_eq (h : Serves x) {f : Frame} (hf : x.stage = .granted f) :
    x.hand f = { x with waiting := x.waiting ++ [f] }.answer (.ok ()) := by
  have hkept : x.kept = true := h.kept fun hidle => by simp [hidle] at hf
  simp [hand, hkept, h.attended]

theorem Serves.hand (h : Serves x) {f : Frame} (hf : x.stage = .granted f) :
    Serves (x.hand f) := by
  have hanswered := h.answered
  have hdelivered := h.delivered
  have hsame : ({ x with waiting := x.waiting ++ [f] }.answer (.ok ())).served = x.served := by
    simp only [Snapshotting.served, hf]
    exact (List.append_nil _).trans (List.append_assoc _ _ _).symm
  rw [hf] at hanswered hdelivered
  rw [h.hand_eq hf]
  refine { h with
    kept := fun hbusy => absurd rfl hbusy, answers := ?_, answered := ?_, grown := ?_, seen := ?_
    delivered := hdelivered, served := hsame.trans h.served
    after := h.after.trans (congrArg _ hsame.symm) }
  · exact forall_answers h.answers
  · rw [answer, List.length_append]
    exact hanswered
  · rintro _ ⟨⟩
  · rintro _ _ ⟨⟩

theorem Serves.write (h : Serves x) {f : Frame} {rest : List Frame}
    (hwaiting : x.waiting = f :: rest) :
    Serves { x with waiting := rest, saved := x.saved ++ [(f, Image.ofFrame f)] } := by
  have hsame : ({ x with
      waiting := rest, saved := x.saved ++ [(f, Image.ofFrame f)] } : Snapshotting).served =
      x.served := by
    simp [Snapshotting.served, handed, hwaiting]
  refine { h with
    saved := ?_, served := hsame.trans h.served
    after := h.after.trans (congrArg _ hsame.symm) }
  intro y hy
  rcases List.mem_append.1 hy with hold | hnew
  · exact h.saved y hold
  · rw [List.mem_singleton.1 hnew]

theorem Serves.close (h : Serves x) (hidle : x.stage = .idle) : Serves { x with kept := false } :=
  { h with kept := fun hbusy => absurd hidle hbusy }

theorem Serves.move (h : Serves x) {m : SnapshotMove} (hm : m ≠ .perish) : Serves (x.move m) := by
  have hleads := leads_move x m
  revert hleads
  generalize x.move m = y
  intro hleads
  cases hleads with
  | ask => exact h.request
  | rest => exact h
  | begin f hidle hkept => exact h.begin f hidle hkept
  | pass _ _ he hzero => exact h.pass he hzero
  | look _ _ he hpos => exact h.look he hpos
  | grant _ _ htry => exact h.grant htry
  | hand _ _ hf => exact h.hand hf
  | write _ _ hwaiting => exact h.write hwaiting
  | close hidle => exact h.close hidle
  | perish => exact absurd rfl hm

theorem Serves.run (h : Serves x) {moves : List SnapshotMove} (hlives : .perish ∉ moves) :
    Serves (x.run moves) := by
  induction moves generalizing x with
  | nil => exact h
  | cons m rest ih =>
      rw [List.mem_cons, not_or] at hlives
      exact ih (h.move (Ne.symm hlives.1)) hlives.2

/-! ## Requests before deliveries -/

theorem hand_keeps (x : Snapshotting) (f : Frame) : (x.hand f).requests = x.requests ∧
    (x.hand f).delivered = x.delivered ∧ (x.hand f).order = x.order := by
  unfold hand
  split
  · exact ⟨rfl, rfl, rfl⟩
  · split <;> exact ⟨rfl, rfl, rfl⟩

theorem Leads.requests_eq {m : SnapshotMove} {y : Snapshotting} (h : Leads x m y) :
    y.requests = x.requests + if m.isRequest then 1 else 0 := by
  cases h with
  | ask => rfl
  | rest _ hm => rw [hm]; rfl
  | hand _ f => exact (hand_keeps x f).1
  | begin | pass | look | grant | write | close | perish => rfl

theorem Leads.delivered_eq {m : SnapshotMove} {y : Snapshotting} (h : Leads x m y)
    (hm : m.isDelivery = false) : y.delivered = x.delivered := by
  cases h with
  | begin => exact nomatch hm
  | hand _ f => exact (hand_keeps x f).2.1
  | ask | rest | pass | look | grant | write | close | perish => rfl

theorem Leads.order_eq {m : SnapshotMove} {y : Snapshotting} (h : Leads x m y)
    (hm : m.isRequest = false) : ∃ frames : List Frame, y.order = x.order ++ frames.map .deliver := by
  cases h with
  | ask => exact nomatch hm
  | pass _ e | grant _ e => exact ⟨[e.frame], rfl⟩
  | hand _ f => exact ⟨[], (hand_keeps x f).2.2.trans (List.append_nil _).symm⟩
  | rest | begin | look | write | close | perish => exact ⟨[], (List.append_nil _).symm⟩

theorem requests_run (moves : List SnapshotMove) (x : Snapshotting) :
    (x.run moves).requests = x.requests + moves.countP (·.isRequest) := by
  induction moves generalizing x with
  | nil => rfl
  | cons m rest ih =>
      refine (ih (x.move m)).trans ?_
      rw [(leads_move x m).requests_eq, List.countP_cons]
      omega

theorem delivered_run {moves : List SnapshotMove} (h : ∀ m ∈ moves, m.isDelivery = false)
    (x : Snapshotting) : (x.run moves).delivered = x.delivered := by
  induction moves generalizing x with
  | nil => rfl
  | cons m rest ih =>
      rw [List.forall_mem_cons] at h
      exact (ih h.2 _).trans ((leads_move x m).delivered_eq h.1)

theorem order_run {moves : List SnapshotMove} (h : ∀ m ∈ moves, m.isRequest = false)
    (x : Snapshotting) :
    ∃ frames : List Frame, (x.run moves).order = x.order ++ frames.map .deliver := by
  induction moves generalizing x with
  | nil => exact ⟨[], (List.append_nil _).symm⟩
  | cons m rest ih =>
      rw [List.forall_mem_cons] at h
      obtain ⟨first, hfirst⟩ := (leads_move x m).order_eq h.1
      obtain ⟨others, hothers⟩ := ih h.2 (x.move m)
      refine ⟨first ++ others, hothers.trans ?_⟩
      rw [hfirst, List.map_append, List.append_assoc]

theorem run_append (early late : List SnapshotMove) (x : Snapshotting) :
    x.run (early ++ late) = (x.run early).run late :=
  List.foldl_append ..

/-- Where nothing was delivered, nothing but requests came about. -/
theorem Serves.order_of_delivered (h : Serves x) (hnone : x.delivered = []) :
    x.order = List.replicate x.requests .request := by
  have hvisits : x.order.filterMap (·.frame?) = [] := by
    rw [h.order]
    exact (List.append_eq_nil_iff.1 (h.delivered.trans hnone)).1
  have hall : ∀ a ∈ x.order, a = .request := by
    intro a ha
    have hframe := List.filterMap_eq_nil_iff.1 hvisits a ha
    cases a with
    | request => rfl
    | deliver f => nomatch hframe
  refine List.eq_replicate_iff.2 ⟨?_, hall⟩
  rw [← h.requests, List.count_eq_length.2 fun a ha => (hall a ha).symm]

theorem Serves.visited (h : Serves x) (hidle : x.stage = .idle) :
    x.visits.map (·.frame) = x.delivered := by
  have hdelivered := h.delivered
  rw [hidle] at hdelivered
  exact (List.append_nil _).symm.trans hdelivered

/-- Once all requests are made, the frames that are then delivered are served in turn until
as many as there were requests have been. -/
theorem handed_run {early late : List SnapshotMove} (hlives : .perish ∉ early ++ late)
    (hearly : ∀ m ∈ early, m.isDelivery = false) (hlate : ∀ m ∈ late, m.isRequest = false)
    (hidle : (run (early ++ late) {}).stage = .idle) :
    (run (early ++ late) {}).handed =
      (run (early ++ late) {}).delivered.take (early.countP (·.isRequest)) := by
  have hafter : Serves (run (early ++ late) {}) := serves_new.run hlives
  rw [run_append] at hafter hidle ⊢
  -- Up to the last request nothing but requests came about, from there on none.
  have hbefore : Serves (run early {}) :=
    serves_new.run fun h => hlives (List.mem_append_left _ h)
  have hrequests : (run early {}).requests = early.countP (·.isRequest) :=
    (requests_run early {}).trans (Nat.zero_add _)
  have horder : (run early {}).order = List.replicate (early.countP (·.isRequest)) .request := by
    rw [← hrequests]
    exact hbefore.order_of_delivered (delivered_run hearly {})
  obtain ⟨frames, hframes⟩ := order_run hlate (run early {})
  have hdelivered : ((run early {}).run late).delivered = frames := by
    rw [← hafter.visited hidle, ← hafter.order, hframes, horder, List.filterMap_append]
    have hrequest : SnapshotAct.frame? .request = none := rfl
    rw [List.filterMap_replicate_of_none hrequest, List.nil_append, List.filterMap_map]
    exact List.filterMap_some
  have hserved := hafter.after
  rw [hframes, horder, Snapshots.after_requests_deliveries, served_of_idle hidle] at hserved
  rw [hdelivered]
  exact (congrArg Snapshots.handed hserved).symm

/-! ## The end -/

theorem move_close (hidle : x.stage = .idle) : x.move .close = { x with kept := false } := by
  simp only [move, close, hidle]

theorem run_writes (frames : List Frame) (hwaiting : x.waiting = frames) :
    x.run (List.replicate frames.length .write) = { x with
      waiting := []
      saved := x.saved ++ frames.map fun f => (f, Image.ofFrame f) } := by
  induction frames generalizing x with
  | nil =>
      cases x
      subst hwaiting
      simp [run]
  | cons f rest ih =>
      have hwrite : x.move .write = { x with
          waiting := rest, saved := x.saved ++ [(f, Image.ofFrame f)] } := by
        simp only [move, write, hwaiting]
      rw [List.length_cons, List.replicate_succ, run, List.foldl_cons, hwrite]
      refine (ih rfl).trans ?_
      simp only [List.map_cons, List.append_assoc, List.singleton_append]

theorem Serves.saved_eq (h : Serves x) :
    x.saved = (x.saved.map (·.1)).map fun f => (f, Image.ofFrame f) := by
  rw [List.map_map]
  exact (List.map_id _).symm.trans (List.map_congr_left fun y hy => Prod.ext rfl (h.saved y hy))

/-- All that was handed over is written, also where the sink is let go of at once. -/
theorem Serves.finish_eq (h : Serves x) (hidle : x.stage = .idle) :
    x.finish = { x with
      kept := false, waiting := []
      saved := x.handed.map fun f => (f, Image.ofFrame f) } := by
  have hwrites := run_writes (x := { x with kept := false }) x.waiting rfl
  rw [finish, Snapshotting.run, List.foldl_cons, move_close hidle]
  refine hwrites.trans ?_
  rw [handed, List.map_append, ← h.saved_eq]

/-- What is written is what was handed over first. -/
theorem Serves.saved_prefix (h : Serves x) :
    x.saved <+: x.handed.map fun f => (f, Image.ofFrame f) := by
  rw [handed, List.map_append, ← h.saved_eq]
  exact List.prefix_append _ _

/-! ## A delivery comes to an end -/

theorem proceed_of_idle (hidle : x.stage = .idle) (fails : Bool) : x.proceed fails = x := by
  simp only [proceed, hidle]

theorem stage_proceed_of_granted {f : Frame} (hf : x.stage = .granted f) (fails : Bool) :
    (x.proceed fails).stage = .idle := by
  simp only [proceed, hf, hand]
  split
  · rfl
  · split <;> rfl

theorem proceed_of_trying (htry : x.stage = .trying e x.pending) :
    x.proceed false = x.grant e := by
  simp [proceed, htry]

/-- A sink that has not seen the counter as it is learns it, and then knows. -/
theorem stage_learn (e : Errand) (x : Snapshotting) :
    (x.learn e).stage = .idle ∨ (x.learn e).stage = .trying e (x.learn e).pending := by
  unfold learn
  split
  · exact .inl rfl
  · exact .inr rfl

/-- A delivery that nobody disturbs is over after three steps: a look, a try and the frame. -/
theorem stage_of_undisturbed (x : Snapshotting) :
    (x.run (List.replicate 3 (.proceed false))).stage = .idle := by
  show (((x.proceed false).proceed false).proceed false).stage = .idle
  have hgranted : ∀ (y : Snapshotting) f, y.stage = .granted f →
      ((y.proceed false).proceed false).stage = .idle := by
    intro y f hf
    have hidle := stage_proceed_of_granted hf false
    rw [proceed_of_idle hidle, hidle]
  have htrying : ∀ (y : Snapshotting) e, y.stage = .trying e y.pending →
      ((y.proceed false).proceed false).stage = .idle := by
    intro y e htry
    rw [proceed_of_trying htry]
    exact stage_proceed_of_granted rfl false
  have hlearn : ∀ e, x.proceed false = x.learn e →
      (((x.proceed false).proceed false).proceed false).stage = .idle := by
    intro e he
    rw [he]
    rcases stage_learn e x with hidle | htry
    · rw [proceed_of_idle hidle, proceed_of_idle hidle, hidle]
    · exact htrying _ e htry
  cases hstage : x.stage with
  | idle => rw [proceed_of_idle hstage, proceed_of_idle hstage, proceed_of_idle hstage, hstage]
  | looking e => exact hlearn e (by simp only [proceed, hstage])
  | trying e seen =>
      by_cases hsame : x.pending = seen
      · rw [← hsame] at hstage
        rw [proceed_of_trying hstage]
        exact hgranted _ e.frame rfl
      · exact hlearn e (by simp [proceed, hstage, hsame])
  | granted f =>
      have hidle := stage_proceed_of_granted hstage false
      rw [proceed_of_idle hidle, proceed_of_idle hidle, hidle]

/-! ## Every run -/

theorem Serves.conserved (h : Serves x) : x.served.length + x.pending = x.requests := by
  rw [← h.requests, ← Snapshots.length_handed_add_pending, h.after]

theorem Serves.served_sublist (h : Serves x) : x.served.Sublist x.delivered := by
  rw [h.served, ← h.delivered]
  exact (List.filter_sublist.map _).trans (List.sublist_append_left _ _)

/-- Requests from any number of copies, deliveries step by step and the writer may come in
any order. Every delivery ends well. A frame is for the writer exactly if a request was open
when its delivery was decided, and all that was open when it began still was. The requests
made are those that are open and one for each such frame. The writer gets the frames in the
order of delivery, and all of them are written when the sink is let go of. It all is as if
requests and deliveries happened at once; so after so many requests, that many of the frames
then delivered are saved, the first ones. -/
theorem run_serves {moves : List SnapshotMove} (hlives : .perish ∉ moves) :
    let x := run moves {}
    (∀ a ∈ x.answers, a = .ok ()) ∧
    (x.stage = .idle → x.answers.length = x.delivered.length) ∧
    (run (moves ++ List.replicate 3 (.proceed false)) {}).stage = .idle ∧
    x.visits.map (·.frame) ++ x.stage.errand?.toList.map (·.frame) = x.delivered ∧
    x.served = (x.visits.filter (0 < ·.met)).map (·.frame) ∧
    (∀ v ∈ x.visits, v.met = v.asked + v.meanwhile) ∧ x.served.Sublist x.delivered ∧
    x.served.length + x.pending = moves.countP (·.isRequest) ∧
    Snapshots.after x.order = ⟨x.pending, x.served⟩ ∧
    x.order.filterMap (·.frame?) = x.visits.map (·.frame) ∧
    x.saved <+: x.handed.map (fun f => (f, Image.ofFrame f)) ∧
    (x.stage = .idle → x.served = x.handed ∧ x.finish.waiting = [] ∧
      x.finish.saved = (Snapshots.after x.order).written) ∧
    ∀ early late, moves = early ++ late → (∀ m ∈ early, m.isDelivery = false) →
      (∀ m ∈ late, m.isRequest = false) → x.stage = .idle →
      x.finish.saved.map (·.1) = x.delivered.take (early.countP (·.isRequest)) := by
  intro x
  have hx : Serves x := serves_new.run hlives
  have hrequests : x.requests = moves.countP (·.isRequest) :=
    (requests_run moves {}).trans (Nat.zero_add _)
  refine ⟨hx.answers, fun hidle => ?_, ?_, hx.delivered, hx.served, hx.met, hx.served_sublist,
    hrequests ▸ hx.conserved, hx.after, hx.order, hx.saved_prefix, fun hidle => ?_, ?_⟩
  · have hanswered := hx.answered
    rw [hidle] at hanswered
    exact hanswered
  · rw [run_append]
    exact stage_of_undisturbed x
  · have hserved := served_of_idle hidle
    rw [hx.finish_eq hidle, hx.after, hserved]
    exact ⟨rfl, rfl, rfl⟩
  · rintro early late rfl hearly hlate hidle
    rw [hx.finish_eq hidle, ← handed_run hlives hearly hlate hidle, List.map_map]
    exact List.map_id _

/-- Of two requests the second comes while a frame is on delivery: the try that had seen one
request fails, and so does the next, for no reason. Of three frames after two requests the
first two are saved. -/
theorem run_serves_two :
    let f (n : Nat) : Frame := ⟨2, 2, .gray8, #[0, 64, 128, 255], n, 0⟩
    let go := SnapshotMove.proceed false
    let racing := [.deliver (f 1), go, .request 0, .deliver (f 2), go, .request 1, go,
      .proceed true, go, go, .write]
    let early := [.request 0, .request 1]
    let late := [.deliver (f 1), go, go, go, .deliver (f 2), go, .write, .proceed true, go, go,
      .deliver (f 3), go]
    SnapshotMove.perish ∉ racing ∧ SnapshotMove.perish ∉ early ++ late ∧
      (run racing {}).answers = [.ok (), .ok ()] ∧
      (run racing {}).visits = [⟨f 1, 0, 0, 0⟩, ⟨f 2, 1, 1, 2⟩] ∧
      (run racing {}).served = [f 2] ∧ 1 + (run racing {}).pending = 2 ∧
      (run (early ++ late) {}).finish.saved.map (·.1) = [f 1, f 2] := by
  intro f go racing early late
  have hracing : SnapshotMove.perish ∉ racing := by decide
  have hordered : SnapshotMove.perish ∉ early ++ late := by decide
  have hvisits : (run racing {}).visits = [⟨f 1, 0, 0, 0⟩, ⟨f 2, 1, 1, 2⟩] := by decide
  obtain ⟨-, -, -, -, hserved, -, -, hconserved, -⟩ := run_serves hracing
  obtain ⟨-, -, -, -, -, -, -, -, -, -, -, -, hburst⟩ := run_serves hordered
  have hone : (run racing {}).served = [f 2] := by
    rw [hserved, hvisits]
    rfl
  have hasked : racing.countP (·.isRequest) = 2 := by decide
  have hfirst : (run (early ++ late) {}).delivered.take (early.countP (·.isRequest)) =
      [f 1, f 2] := by decide
  refine ⟨hracing, hordered, by decide, hvisits, hone, ?_, ?_⟩
  · rw [hone, hasked] at hconserved
    exact hconserved
  · rw [← hfirst]
    exact hburst early late rfl (by decide) (by decide) (by decide)

end Snapshotting
end FrameGrabber
