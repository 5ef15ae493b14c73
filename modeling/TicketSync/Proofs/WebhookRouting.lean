import TicketSync.Proofs.Logbook
import TicketSync.Proofs.RunAtomicity

/-! # From requests to runs of jobs

Whatever happens to the listeners, each request that resolves to a subscription comes into the inbox
of its tracker's lane, once, and from there to the tracker, in order; the jobs that run for what the
tracker has read are those of the subscription's trigger; and a request that no listener gets changes
nothing but its own answer. -/
namespace TicketSync.Engine

variable {τ : Type}

namespace Logbook

variable {s : Session τ} {b b' : Logbook τ}

/-! ### The steps of listeners and requests -/

theorem Routed.close (h : b.Routed s) (r : Outcome Unit) : (b.step (.close r)).Routed s := by
  have hlistening : (b.step (.close r)).listening =
      b.listening.close b.session.world.isCancelled r := rfl
  refine h.quiet (h.frame (.close r)).1 ?_ (b.sameRequests_step rfl ?_ fun _ => ?_)
    (List.append_nil _) (List.append_nil _) (fun _ => rfl) <;>
  · rw [hlistening, Listening.close]
    split <;> rfl

theorem Routed.revoke (h : b.Routed s) : (b.step .revoke).Routed s :=
  h.quiet (h.frame .revoke).1 rfl (b.sameRequests_step rfl rfl fun _ => rfl) (List.append_nil _)
    (List.append_nil _) fun _ => rfl

theorem Routed.see (h : b.Routed s) : (b.step .see).Routed s := by
  have hlistening : (b.step .see).listening = b.listening.see.1 := rfl
  refine h.quiet (h.frame .see).1 ?_ (b.sameRequests_step rfl ?_ fun _ => ?_)
    (List.append_nil _) (List.append_nil _) (fun _ => rfl) <;>
  · rw [hlistening, Listening.see]
    split <;> rfl

/-- What holds of the listeners when only a request goes on: if it becomes a delivery, the delivery
comes into the inbox of its tracker's lane, unless the listener has ended. -/
theorem Routed.arrive (h : b.Routed s) (r : HttpRequest) : (b.step (.arrive r)).Routed s := by
  obtain ⟨hagrees, hreads⟩ := h.frame (.arrive r)
  have hanswers : (b.step (.arrive r)).answers = b.answers := List.append_nil _
  have hbegun : (b.step (.arrive r)).begun = b.begun := List.append_nil _
  cases hopen : b.listening.endpoint.isNone with
  | false =>
    refine h.quiet hagrees ?_ (b.sameRequests_step ?_ ?_ fun _ => ?_) hanswers hbegun fun _ => rfl
      <;> simp [step, Listening.step, Listening.arrived?, hopen]
  | true =>
    have hlistening : (b.step (.arrive r)).listening =
        { b.listening with visits := b.listening.visits ++ [.arrived r] } := by
      simp [step, Listening.step, hopen]
    have hrequests : (b.step (.arrive r)).requests = b.requests ++ [r] := by
      simp [step, Listening.arrived?, hopen]
    refine ⟨hagrees, hreads, ?_, ?_, ?_, ?_, ?_⟩
    · rw [hlistening]
      exact h.trackers
    · simp [hlistening, hrequests, h.length]
    · intro i q v hq hv
      rw [hlistening] at hv
      rw [hrequests] at hq
      by_cases hi : i < b.requests.length
      · rw [List.getElem?_append_left hi] at hq
        rw [List.getElem?_append_left (h.length ▸ hi)] at hv
        exact h.visits i q v hq hv
      · rw [List.getElem?_append_right (by omega)] at hq
        rw [List.getElem?_append_right (by have := h.length; omega), ← h.length] at hv
        cases hplace : i - b.requests.length with
        | zero =>
          rw [hplace] at hq hv
          cases hq
          cases hv
          exact .arrived
        | succ n =>
          rw [hplace] at hq
          cases hq
    · intro k l hl
      rw [hlistening] at hl
      obtain ⟨given, hgiven, hlog⟩ := h.lanes k l hl
      refine ⟨given, hgiven, ?_⟩
      simpa [logOf, answersOf, begunIn, hlistening, hanswers, hbegun] using hlog
    · intro k l hl
      have hnone : [Visit.arrived r].filterMap Visit.delivery? = [] := rfl
      rw [hlistening] at hl
      simpa [deliveriesFor, hlistening, hnone] using h.accepted k l hl

theorem perm_filterMap_set {α β : Type} {f : α → Option β} {xs : List α} {i : Nat} {x x' : α}
    (hx : xs[i]? = some x) (hnone : f x = none) :
    ((xs.set i x').filterMap f).Perm ((f x').toList ++ xs.filterMap f) := by
  induction xs generalizing i with
  | nil => cases hx
  | cons y ys ih =>
    cases i with
    | zero =>
      cases hx
      cases hx' : f x' <;> simp [hnone, hx']
    | succ i =>
      have hrest := ih (by simpa using hx)
      cases hy : f y with
      | none => simpa [hy] using hrest
      | some z =>
        simp only [List.set_cons_succ, List.filterMap_cons, hy]
        exact (hrest.cons z).trans List.perm_middle.symm

theorem perm_append_append {α : Type} {xs ys zs as bs : List α} (h : xs.Perm (ys ++ zs)) :
    ((as ++ bs) ++ xs).Perm ((ys ++ as) ++ (zs ++ bs)) := by
  have hswap : ((zs ++ as) ++ bs).Perm ((as ++ zs) ++ bs) := List.perm_append_comm.append_right _
  calc ((as ++ bs) ++ xs).Perm (xs ++ (as ++ bs)) := List.perm_append_comm
    _ |>.Perm ((ys ++ zs) ++ (as ++ bs)) := h.append_right _
    _ |>.Perm ((ys ++ as) ++ (zs ++ bs)) := by simpa using hswap.append_left ys

/-- A lane after a request went on, with what came into its inbox, and what its listener misses because
it has ended. -/
structure LaneGets (s : Session τ) (b b' : Logbook τ) (k : Nat) (l l' : Lane τ)
    (more missed : List Delivery) : Prop where
  tracker : l'.tracker = l.tracker
  ended : l'.hasEnded = l.hasEnded
  marks : enqueuedIn k b'.listening.marks = enqueuedIn k b.listening.marks ++ more
  logged : ∀ log, l.Logged s.config s.surroundings log →
    l'.Logged s.config s.surroundings { log with enqueued := log.enqueued ++ more }
  listens : l.hasEnded = false → missed = []

theorem LaneGets.same {k : Nat} {l : Lane τ} {missed : List Delivery}
    (hmarks : enqueuedIn k b'.listening.marks = enqueuedIn k b.listening.marks)
    (hmissed : l.hasEnded = false → missed = []) : LaneGets s b b' k l l [] missed :=
  ⟨rfl, rfl, by simpa using hmarks, fun log hlog => by simpa using hlog, hmissed⟩

/-- A request goes on, and becomes a delivery at most now. What it has become comes into the inbox of
the lane of its tracker, which misses it only when its listener has ended. -/
theorem Routed.visitStep {i : Nat} {v : Visit} (v' : Visit) (h : b.Routed s)
    (hv : b.listening.visits[i]? = some v) (hnone : v.delivery? = none)
    (hagrees : s.Agrees b'.session) (hreads : b'.listening.ReadsRows s.surroundings)
    (hvisits : b'.listening.visits = b.listening.visits.set i v')
    (hfor : ∀ q, b.requests[i]? = some q → v'.For s q) (hrequests : b'.requests = b.requests)
    (hanswers : b'.answers = b.answers) (hbegun : b'.begun = b.begun)
    (hpassed : b.session.world.SamePassed b'.session.world)
    (htrackers : b'.listening.lanes.map (·.tracker) = b.listening.lanes.map (·.tracker))
    (hlanes : ∀ (k : Nat) (l' : Lane τ), b'.listening.lanes[k]? = some l' →
      ∃ (l : Lane τ) (more missed : List Delivery), b.listening.lanes[k]? = some l ∧
      LaneGets s b b' k l l' more missed ∧
      (v'.delivery?.toList.filter fun d => d.subscription.trackerName = l.tracker) =
        more ++ missed) : b'.Routed s where
  agrees := hagrees
  reads := hreads
  trackers := htrackers.trans h.trackers
  length := by rw [hrequests, hvisits, List.length_set, h.length]
  visits j q v₀ hq hv₀ := by
    rw [hrequests] at hq
    rw [hvisits] at hv₀
    obtain ⟨rfl, rfl⟩ | ⟨-, hv₀⟩ := getElem?_set_cases hv₀
    · exact hfor q hq
    · exact h.visits j q v₀ hq hv₀
  lanes k l' hl' := by
    obtain ⟨l, more, missed, hl, hgets, -⟩ := hlanes k l' hl'
    obtain ⟨given, hgiven, hlog⟩ := h.lanes k l hl
    refine ⟨given, ?_, ?_⟩
    · rw [hgets.tracker, hpassed, hgiven]
    · simpa [logOf, answersOf, begunIn, hgets.marks, hanswers, hbegun] using hgets.logged _ hlog
  accepted k l' hl' := by
    obtain ⟨l, more, misses, hl, hgets, hfilter⟩ := hlanes k l' hl'
    obtain ⟨missed, hperm, hmissed⟩ := h.accepted k l hl
    refine ⟨missed ++ misses, ?_, fun hlive => ?_⟩
    · rw [hgets.tracker, hgets.marks, deliveriesFor, hvisits]
      refine ((perm_filterMap_set hv hnone).filter _).trans ?_
      rw [List.filter_append, hfilter]
      exact perm_append_append hperm
    · rw [hgets.ended] at hlive
      simp [hmissed hlive, hgets.listens hlive]

theorem Routed.for_of_visit (h : b.Routed s) {i : Nat} {v : Visit} {q : HttpRequest}
    (hv : b.listening.visits[i]? = some v) (hq : b.requests[i]? = some q) : v.For s q :=
  h.visits i q v hq hv

/-- A request that has arrived is resolved. -/
theorem Routed.resolve (h : b.Routed s) {i : Nat} {q : HttpRequest}
    (hv : b.listening.visits[i]? = some (.arrived q)) : (b.step (.visit i)).Routed s := by
  obtain ⟨hagrees, hreads⟩ := h.frame (.visit i)
  have hanswers : (b.step (.visit i)).answers = b.answers := List.append_nil _
  have hbegun : (b.step (.visit i)).begun = b.begun := List.append_nil _
  have hrequests : (b.step (.visit i)).requests = b.requests := List.append_nil _
  have hpassed : b.session.world.SamePassed (b.session.perform (receive q)).2.world :=
    (receive_asks (fun _ => rfl) q).run (World.respects_passed b.session.surroundings) b.session.world
  have hreception := (perform_receive b.session q).1
  rw [h.agrees.reception] at hreception
  obtain ⟨v', hvisit, hnone, hfor⟩ : ∃ v' : Visit, b.listening.visit b.session i =
      ({ b.listening with visits := b.listening.visits.set i v' },
        (b.session.perform (receive q)).2) ∧ v'.delivery? = none ∧ v'.For s q := by
    generalize hr : s.reception q = r at hreception
    have hperform : b.session.perform (receive q) =
        (.ok r, (b.session.perform (receive q)).2) := Prod.ext hreception rfl
    simp only [Listening.visit, hv]
    rw [hperform]
    cases r with
    | accepted x w => exact ⟨.resolved x w, rfl, rfl, .resolved x w hr⟩
    | unknownPath | wrongMethod | unreadablePath | tooLarge | dropped | broken f =>
      exact ⟨.answered _, rfl, rfl, hr ▸ .answered⟩
  have hstep : (b.step (.visit i)).listening =
      { b.listening with visits := b.listening.visits.set i v' } ∧
      (b.step (.visit i)).session = (b.session.perform (receive q)).2 := by
    simp [step, Listening.step, hvisit]
  refine h.visitStep v' hv rfl hagrees hreads (by rw [hstep.1]) ?_ hrequests hanswers hbegun ?_ ?_ ?_
  · intro q' hq'
    cases h.for_of_visit hv hq'
    exact hfor
  · rw [hstep.2]
    exact hpassed
  · rw [hstep.1]
  · intro k l hl
    rw [hstep.1] at hl
    exact ⟨l, [], [], hl, .same (by rw [hstep.1]) fun _ => rfl, by simp [hnone]⟩

/-- What becomes of a request that is for a subscription: it is answered, and it comes into the inbox
of the lane of the subscription's tracker, unless there is none or its listener has ended; or it
waits for room. -/
theorem pass_cases (x : Listening τ) (i : Nat) (d : Delivery)
    (hunique : ∀ (j k : Nat) (l l' : Lane τ), x.lanes[j]? = some l → x.lanes[k]? = some l' →
      l.tracker = l'.tracker → j = k) :
    x.pass i d = x ∨
    (x.pass i d = x.answer i (.accepted d.subscription d.request) ∧
      ∀ (k : Nat) (l : Lane τ), x.lanes[k]? = some l → l.hasEnded = false →
        l.tracker ≠ d.subscription.trackerName) ∨
    ∃ (k : Nat) (l : Lane τ), x.lanes[k]? = some l ∧ l.tracker = d.subscription.trackerName ∧
      l.hasEnded = false ∧ x.pass i d = ((x.modify k (·.enqueue d)).answer i
        (.accepted d.subscription d.request)).mark (.enqueued k d) := by
  unfold Listening.pass
  cases hfind : x.lanes.findIdx? (fun l => l.tracker = d.subscription.trackerName) with
  | none =>
    refine .inr (.inl ⟨rfl, fun k l hl _ => ?_⟩)
    simpa using List.findIdx?_eq_none_iff.mp hfind l (List.mem_of_getElem? hl)
  | some k =>
    obtain ⟨hk, htracker, -⟩ := List.findIdx?_eq_some_iff_getElem.mp hfind
    have hl := List.getElem?_eq_getElem hk
    have htracker' : x.lanes[k].tracker = d.subscription.trackerName := by simpa using htracker
    simp only [hl]
    cases hended : x.lanes[k].hasEnded with
    | true =>
      refine .inr (.inl ⟨rfl, fun j l hl' hlive hsame => ?_⟩)
      obtain rfl := hunique j k l _ hl' hl (hsame.trans htracker'.symm)
      cases hl.symm.trans hl'
      simp [hended] at hlive
    | false =>
      cases hroom : x.lanes[k].hasRoom with
      | true => exact .inr (.inr ⟨k, _, hl, htracker', hended, rfl⟩)
      | false => exact .inl rfl

/-- A request that is for a subscription is handed to the lane of the subscription's tracker. -/
theorem Routed.hand (hnames : s.surroundings.trackers.names.Nodup) (h : b.Routed s) {i : Nat}
    {y : Subscription} {w : WebhookRequest}
    (hv : b.listening.visits[i]? = some (.resolved y w)) : (b.step (.visit i)).Routed s := by
  obtain ⟨hagrees, hreads⟩ := h.frame (.visit i)
  have hanswers : (b.step (.visit i)).answers = b.answers := List.append_nil _
  have hbegun : (b.step (.visit i)).begun = b.begun := List.append_nil _
  have hrequests : (b.step (.visit i)).requests = b.requests := List.append_nil _
  have hlistening : (b.step (.visit i)).listening = b.listening.pass i ⟨y, w⟩ := by
    simp [step, Listening.step, Listening.visit, hv]
  have hpassed : b.session.world.SamePassed (b.step (.visit i)).session.world := by
    have hsession : (b.step (.visit i)).session = b.session := by
      simp [step, Listening.step, Listening.visit, hv]
    rw [hsession]
    exact fun _ => rfl
  have hfor : ∀ q, b.requests[i]? = some q → (Visit.answered (.accepted y w)).For s q := by
    intro q hq
    cases h.for_of_visit hv hq with
    | resolved _ _ haccepted => exact haccepted ▸ .answered
  rcases pass_cases b.listening i ⟨y, w⟩ fun j k l l' hl hl' => h.eq_of_tracker hnames hl hl' with
    hwaits | ⟨hdropped, hnobody⟩ | ⟨k, l, hl, htracker, hlive, hpass⟩
  · rw [hwaits] at hlistening
    refine h.quiet hagrees ?_ ⟨hrequests, ?_, fun _ => ?_⟩ hanswers hbegun hpassed <;>
      rw [hlistening]
  · rw [hdropped] at hlistening
    refine h.visitStep (.answered (.accepted y w)) hv rfl hagrees hreads ?_ hfor hrequests
      hanswers hbegun hpassed ?_ ?_
    · rw [hlistening]
      rfl
    · rw [hlistening]
      rfl
    · intro k l hl
      rw [hlistening] at hl
      refine ⟨l, [], _, hl, .same ?_ fun hlive => ?_, rfl⟩
      · rw [hlistening]
        rfl
      · have hother := hnobody k l hl hlive
        simp [Ne.symm hother]
  · rw [hpass] at hlistening
    refine h.visitStep (.answered (.accepted y w)) hv rfl hagrees hreads ?_ hfor hrequests
      hanswers hbegun hpassed ?_ ?_
    · rw [hlistening]
      rfl
    · rw [hlistening]
      simp only [Listening.mark, Listening.answer, Listening.modify, modify_of_getElem? hl]
      exact map_set_of_eq hl rfl
    · intro j l' hl'
      have hmarks : (b.step (.visit i)).listening.marks =
          b.listening.marks ++ [.enqueued k ⟨y, w⟩] := by
        rw [hlistening]
        rfl
      rw [hlistening] at hl'
      simp only [Listening.mark, Listening.answer, Listening.modify, modify_of_getElem? hl] at hl'
      obtain ⟨rfl, rfl⟩ | ⟨hj, hl'⟩ := getElem?_set_cases hl'
      · refine ⟨l, [⟨y, w⟩], [], hl, ⟨rfl, rfl, ?_, fun log hlog => hlog.enqueue _, fun _ => rfl⟩, ?_⟩
        · simp [hmarks, enqueuedIn]
        · simp [Visit.delivery?, htracker]
      · refine ⟨l', [], [], hl', .same ?_ fun _ => rfl, ?_⟩
        · simp [hmarks, enqueuedIn, Ne.symm hj]
        · have hother : y.trackerName ≠ l'.tracker := fun hsame =>
            hj (h.eq_of_tracker hnames hl' hl (hsame.symm.trans htracker.symm))
          simp [Visit.delivery?, hother]

theorem Routed.visit (hnames : s.surroundings.trackers.names.Nodup) (h : b.Routed s) (i : Nat) :
    (b.step (.visit i)).Routed s := by
  have hquiet : b.listening.visit b.session i = (b.listening, b.session) →
      (b.step (.visit i)).Routed s := by
    intro hsame
    have hstep : (b.step (.visit i)).listening = b.listening ∧
        (b.step (.visit i)).session = b.session := by
      simp [step, Listening.step, hsame]
    refine h.quiet (h.frame (.visit i)).1 ?_ ⟨List.append_nil _, ?_, fun _ => ?_⟩ (List.append_nil _)
      (List.append_nil _) fun _ => ?_ <;> simp only [hstep.1, hstep.2]
  cases hv : b.listening.visits[i]? with
  | none => exact hquiet (by simp [Listening.visit, hv])
  | some v =>
    cases v with
    | arrived q => exact h.resolve hv
    | resolved y w => exact h.hand hnames hv
    | answered r => exact hquiet (by simp [Listening.visit, hv])

theorem routed_step (hnames : s.surroundings.trackers.names.Nodup) (h : b.Routed s)
    (event : ListenerEvent) : (b.step event).Routed s := by
  cases event with
  | arrive r => exact h.arrive r
  | visit i => exact h.visit hnames i
  | take k => exact h.take hnames k
  | read k => exact h.read hnames k
  | start k j => exact h.start hnames k j
  | turn k j => exact h.turn hnames k j
  | expire k j => exact h.expire hnames k j
  | next k => exact h.next hnames k
  | leave k r => exact h.leave hnames k r
  | close r => exact h.close r
  | revoke => exact h.revoke
  | see => exact h.see

theorem routed_begin (s : Session τ) : (Logbook.begin s).Routed s where
  agrees := .refl s
  reads := .begin _ _ _
  trackers := by simp [Logbook.begin, Listening.begin, Function.comp_def]
  length := rfl
  visits := by simp [Logbook.begin]
  lanes k l hl := by
    refine ⟨[], (List.append_nil _).symm, [], [], [], [], ?_⟩
    obtain ⟨tracker, -, rfl⟩ : ∃ tracker, s.surroundings.trackers.names[k]? = some tracker ∧
        { tracker, ownWay := false } = l := by
      simpa [Logbook.begin, Listening.begin] using hl
    exact ⟨rfl, .waiting, rfl, rfl, rfl, rfl, by simp [logOf, begunIn, Logbook.begin], by
      simp [logOf, begunIn, Logbook.begin], by simp, by simp [logOf, begunIn, Logbook.begin], by
      simp [Lane.runs]⟩
  accepted _ _ _ := ⟨[], .refl _, fun _ => rfl⟩

theorem routed_run (hnames : s.surroundings.trackers.names.Nodup) (events : List ListenerEvent) :
    ((Logbook.begin s).run events).Routed s := by
  suffices ∀ b : Logbook τ, b.Routed s → (b.run events).Routed s from this _ (routed_begin s)
  induction events with
  | nil => exact fun _ h => h
  | cons event events ih => exact fun b h => ih _ (routed_step hnames h event)

/-! ### What a tracker is given -/

end Logbook

/-- The delivery for a tracker that a request becomes. -/
def Session.deliveryTo? (s : Session τ) (tracker : String) (h : HttpRequest) : Option Delivery :=
  match s.reception h with
  | .accepted x r => if x.trackerName = tracker then some ⟨x, r⟩ else none
  | _ => none

theorem Visit.For.delivery_eq {s : Session τ} {h : HttpRequest} {v : Visit} (hv : v.For s h) (tracker : String) :
    (v.delivery?.toList.filter fun d => d.subscription.trackerName = tracker) =
      if v.isAnswered then (s.deliveryTo? tracker h).toList else [] := by
  cases hv with
  | arrived => rfl
  | resolved => rfl
  | answered =>
    unfold Session.deliveryTo?
    cases s.reception h with
    | accepted x r =>
      by_cases htracker : x.trackerName = tracker <;>
        simp [Visit.delivery?, Visit.isAnswered, htracker]
    | _ => rfl

namespace Logbook

/-- The requests that are answered. -/
def answeredRequests (b : Logbook τ) : List HttpRequest :=
  ((b.requests.zip b.listening.visits).filter (·.2.isAnswered)).map (·.1)

variable {s : Session τ} {b : Logbook τ}

theorem filterMap_delivery {requests : List HttpRequest} {visits : List Visit}
    (hlength : requests.length = visits.length)
    (hfor : ∀ (i : Nat) (h : HttpRequest) (v : Visit), requests[i]? = some h →
      visits[i]? = some v → v.For s h) (tracker : String) :
    ((visits.filterMap Visit.delivery?).filter fun d => d.subscription.trackerName = tracker) =
      (((requests.zip visits).filter (·.2.isAnswered)).map (·.1)).filterMap
        (s.deliveryTo? tracker) := by
  induction requests generalizing visits with
  | nil =>
    obtain rfl := List.length_eq_zero_iff.mp hlength.symm
    rfl
  | cons h requests ih =>
    cases visits with
    | nil => cases hlength
    | cons v visits =>
      have hrest := ih (by simpa using hlength) fun i h v hq hv =>
        hfor (i + 1) h v (by simpa using hq) (by simpa using hv)
      have hsplit : (v :: visits).filterMap Visit.delivery? =
          v.delivery?.toList ++ visits.filterMap Visit.delivery? := by
        cases hv : v.delivery? <;> simp [hv]
      rw [hsplit, List.filter_append, (hfor 0 h v rfl rfl).delivery_eq, hrest]
      cases hanswered : v.isAnswered <;> cases hdelivery : s.deliveryTo? tracker h <;>
        simp [hanswered, hdelivery]

theorem Routed.deliveriesFor_eq (h : b.Routed s) (tracker : String) :
    b.deliveriesFor tracker = b.answeredRequests.filterMap (s.deliveryTo? tracker) :=
  filterMap_delivery h.length h.visits tracker

/-- What the tracker of a lane was given, and the runs of jobs that came of it. -/
structure RoutesTo (s : Session τ) (b : Logbook τ) (k : Nat) (l : Lane τ)
    (given : List Delivery) : Prop where
  passed : b.session.world.passed l.tracker = s.world.passed l.tracker ++ given
  accepted : ∃ missed, (b.answeredRequests.filterMap (s.deliveryTo? l.tracker)).Perm
    (enqueuedIn k b.listening.marks ++ missed) ∧ (l.hasEnded = false → missed = [])
  inOrder : ∃ taken, enqueuedIn k b.listening.marks = given ++ taken ++ l.inbox ∧
    taken.length ≤ 1 ∧ (l.isWaiting = true → taken = [])
  settled : l.isWaiting = true → l.inbox = [] →
    (∀ v ∈ b.listening.visits, v.isAnswered = true) →
      given.Perm (b.requests.filterMap (s.deliveryTo? l.tracker))
  read : ∃ unanswered, given = (b.answersOf k).map (·.1) ++ unanswered ∧
    unanswered.length ≤ 1 ∧ (l.isWaiting = true → unanswered = [])
  jobs : ∀ x ∈ b.begunIn k, ∃ d, (readAs (b.answersOf k))[x.round]? = some (d, x.update) ∧
    (s.config.jobsOf d.subscription.triggerName)[x.run]? = some x.job
  once : ((b.begunIn k).map fun x => (x.round, x.run)).Nodup
  all : ∀ n d u, (readAs (b.answersOf k))[n]? = some (d, u) → n < l.round →
    ∀ j < (s.config.jobsOf d.subscription.triggerName).length,
      ∃ x ∈ b.begunIn k, x.round = n ∧ x.run = j
  rounds : l.isWaiting = true → l.round = (readAs (b.answersOf k)).length

/-- When every request is answered, the answered ones are all. -/
theorem answeredRequests_eq (hlength : b.requests.length = b.listening.visits.length)
    (h : ∀ v ∈ b.listening.visits, v.isAnswered = true) : b.answeredRequests = b.requests := by
  have hall : (b.requests.zip b.listening.visits).filter (·.2.isAnswered) =
      b.requests.zip b.listening.visits :=
    List.filter_eq_self.mpr fun x hx => h _ (List.of_mem_zip hx).2
  rw [answeredRequests, hall, List.map_fst_zip (by omega)]

theorem Routed.routesTo (h : b.Routed s) {k : Nat} {l : Lane τ}
    (hl : b.listening.lanes[k]? = some l) : ∃ given, b.RoutesTo s k l given := by
  obtain ⟨given, hgiven, unasked, unanswered, past, current, hk⟩ := h.lanes k l hl
  obtain ⟨missed, hperm, hmissed⟩ := h.accepted k l hl
  rw [h.deliveriesFor_eq] at hperm
  obtain ⟨hunasked, hunanswered, hwaits⟩ := hk.stands.holds
  have hconserved : enqueuedIn k b.listening.marks = given ++ unasked ++ l.inbox := hk.conserved
  have hanswered : given = (b.answersOf k).map (·.1) ++ unanswered := hk.answered
  have hupdates : readAs (b.answersOf k) = past ++ current := hk.updates
  refine ⟨given, hgiven, ⟨missed, hperm, hmissed⟩, ?_, ?_, ?_, ?_, hk.begun.once, ?_, ?_⟩
  · exact ⟨unasked, hconserved, hunasked, fun hwaiting => (hwaits (stage_of_isWaiting hwaiting)).1⟩
  · intro hwaiting hinbox hall
    have hlive : l.hasEnded = false := by
      simp [Lane.hasEnded, stage_of_isWaiting hwaiting]
    have hunasked := (hwaits (stage_of_isWaiting hwaiting)).1
    rw [answeredRequests_eq h.length hall, hmissed hlive, hconserved, hunasked, hinbox] at hperm
    simpa using hperm.symm
  · exact ⟨unanswered, hanswered, hunanswered, fun hwaiting =>
      (hwaits (stage_of_isWaiting hwaiting)).2.1⟩
  · intro x hx
    rw [hupdates]
    exact hk.begun.known x hx
  · intro n d u hn hround
    rw [hupdates, List.getElem?_append_left (by rwa [hk.round])] at hn
    exact hk.begun.all n d u hn
  · intro hwaiting
    rw [hupdates, (hwaits (stage_of_isWaiting hwaiting)).2.2, List.append_nil, hk.round]

/-! ### Requests that no listener gets -/

/-- What a request that no listener gets does: it is answered with this status after two turns at
most, and changes nothing else. -/
structure Drops (b : Logbook τ) (i code : Nat) : Prop where
  session : (b.step (.visit i)).session = b.session
  lanes : (b.step (.visit i)).listening.lanes = b.listening.lanes
  marks : (b.step (.visit i)).listening.marks = b.listening.marks
  answers : (b.step (.visit i)).answers = b.answers
  begun : (b.step (.visit i)).begun = b.begun
  status : ∀ r, b.listening.visits[i]? = some (.answered r) → r.status = code
  answered : ∃ r, ((b.step (.visit i)).step (.visit i)).listening.visits[i]? =
    some (.answered r) ∧ r.status = code

/-- The subscription of a tracker to mails. -/
def mailbox (id tracker : String) : Subscription :=
  { id, trackerName := tracker, triggerName := "mail", baseUrl := "http://localhost"
    createdAt := default }

/-- A session whose desk reads every mail as a letter. There is a job for mails and one for letters,
and a subscription of a board that is not registered. -/
def receiving : Session Unit where
  config :=
    { server := { baseUrl := "http://localhost" }
      jobs := [Course.openTask, { name := "file", triggerName := "post" }] }
  surroundings :=
    { Course.desk with
      trackers :=
        { Course.desk.trackers with
          handleWebhook := fun _ _ _ s =>
            ({ settle := fun s => (.ok (some { triggerName := "post" }), s) }, s) } }
  world :=
    { store := .memory
        { subscriptions := (Dict.empty.insert "s1" (mailbox "s1" "desk")).insert "s2"
            (mailbox "s2" "board") }
      trackers := () }

/-- A request to the hook of an id. -/
def knock (id : String) : HttpRequest := { method := "POST", target := "/" ++ id }

end Logbook
end TicketSync.Engine
