import TicketSync.Proofs.DeliveryClock
import TicketSync.Proofs.RunAtomicity

/-! # What listening comes to

The ends of listeners are seen one by one, in the order in which the listeners have ended. Only the
first failure among them counts: seeing it cancels the token of all, and it is what listening comes to
when every listener has ended, whatever the others have ended with before and after. What carries this
is that the ends are those that were seen, of which the verdict keeps the first failure, followed by
those that were not. -/
namespace TicketSync.Engine

variable {τ : Type}

/-! ### Listeners and their ends -/

/-- One that listens: a tracker, by the index of its lane, or the endpoint. -/
inductive Listener where
  | lane (i : Nat)
  | endpoint
  deriving DecidableEq

/-- All that listen when there are so many trackers. -/
def listeners (n : Nat) : List Listener := (List.range n).map .lane ++ [.endpoint]

@[simp] theorem lane_mem_listeners {i n : Nat} : .lane i ∈ listeners n ↔ i < n := by
  simp [listeners]

@[simp] theorem endpoint_mem_listeners (n : Nat) : .endpoint ∈ listeners n := by simp [listeners]

theorem nodup_listeners (n : Nat) : (listeners n).Nodup := by
  have hlanes : ((List.range n).map Listener.lane).Nodup :=
    List.pairwise_map.mpr (List.nodup_range.imp fun hij h => hij (Listener.lane.inj h))
  exact List.nodup_append.mpr ⟨hlanes, List.pairwise_singleton _ _, by simp⟩

/-- What a listener has failed with. A cancellation is no failure. -/
def failureOf? : Outcome Unit → Option Failure
  | .ok _ => none
  | .error f => if f.isCancelled then none else some f

theorem failureOf?_eq_some_iff {r : Outcome Unit} {f : Failure} :
    failureOf? r = some f ↔ r = .error f ∧ f ≠ .cancelled := by
  cases r with
  | ok u => simp [failureOf?]
  | error f' =>
    by_cases hf : f' = .cancelled
    · subst hf
      simp +contextual [failureOf?, Failure.isCancelled, eq_comm]
    · simp only [failureOf?, Failure.isCancelled_iff, hf, if_false, Option.some.injEq,
        Except.error.injEq]
      exact ⟨fun h => ⟨h, h ▸ hf⟩, fun h => h.1⟩

/-- The failure of the first listener that has failed, where the ends of listeners are in order. -/
def firstFailure (ends : List (Listener × Outcome Unit)) : Option Failure :=
  ends.findSome? fun e => failureOf? e.2

theorem firstFailure_append (ends more : List (Listener × Outcome Unit)) :
    firstFailure (ends ++ more) = (firstFailure ends).or (firstFailure more) :=
  List.findSome?_append

theorem firstFailure_cons (w : Listener) (r : Outcome Unit)
    (ends : List (Listener × Outcome Unit)) :
    firstFailure ((w, r) :: ends) = (failureOf? r).or (firstFailure ends) := by
  cases h : failureOf? r <;> simp [firstFailure, h]

theorem firstFailure_concat (ends : List (Listener × Outcome Unit)) (w : Listener)
    (r : Outcome Unit) : firstFailure (ends ++ [(w, r)]) = (firstFailure ends).or (failureOf? r) := by
  rw [firstFailure_append, firstFailure_cons]
  simp [firstFailure]

/-- A verdict keeps the first failure that was seen. -/
theorem Verdict.failure_see_eq (v : Verdict) (r : Outcome Unit) :
    (v.see r).failure = v.failure.or (failureOf? r) := by
  obtain ⟨_ | f⟩ := v
  · cases r with
    | ok u => rfl
    | error f => cases h : f.isCancelled <;> simp [see, failureOf?, h]
  · cases r <;> rfl

/-- The event that a listener ends. -/
def Listener.ending : Listener → Outcome Unit → ListenerEvent
  | .lane i, r => .leave i r
  | .endpoint, r => .close r

/-- Whether a listener may end so at its beginning. A tracker with a way of its own may end in any way,
and any other one as cancelled after the token was. The endpoint may fail at any time, and ends well
after the token was cancelled. -/
def Listener.MayEnd (names : List String) (ownWay : String → Bool) (isCancelled : Bool) :
    Listener → Outcome Unit → Prop
  | .lane i, r => (∃ name, names[i]? = some name ∧ ownWay name = true) ∨
      isCancelled = true ∧ Listening.wasCancelled r = true
  | .endpoint, .ok _ => isCancelled = true
  | .endpoint, .error _ => True

/-- Whether listeners may end in this order at their beginning. The first failure has the token
cancelled for those that come after it. -/
def MayEndInOrder (names : List String) (ownWay : String → Bool) :
    (isCancelled : Bool) → List (Listener × Outcome Unit) → Prop
  | _, [] => True
  | isCancelled, (w, r) :: order => w.MayEnd names ownWay isCancelled r ∧
      MayEndInOrder names ownWay (isCancelled || (failureOf? r).isSome) order

/-- Listeners end in an order, and each end is seen at once. -/
def endings (order : List (Listener × Outcome Unit)) : List ListenerEvent :=
  order.flatMap fun e => [e.1.ending e.2, .see]

/-- How the listener of a lane has ended, if it has. -/
def Lane.end? (l : Lane τ) : Option (Outcome Unit) :=
  match l.stage with
  | .ended r => some r
  | _ => none

namespace Lane

variable {l : Lane τ}

theorem hasEnded_eq (l : Lane τ) : l.hasEnded = l.end?.isSome := by
  cases h : l.stage <;> simp [hasEnded, end?, h]

theorem end?_of_isWaiting (h : l.isWaiting = true) : l.end? = none := by
  rw [end?, stage_of_isWaiting h]

@[simp] theorem end?_take (l : Lane τ) : l.take.end? = l.end? := by
  rcases l.take_cases with htake | ⟨d, inbox, hstage, -, htake⟩
  · rw [htake]
  · rw [htake, end?, end?, hstage]

@[simp] theorem end?_next (l : Lane τ) : l.next.end? = l.end? := by
  rcases l.next_cases with hnext | ⟨d, runs, hstage, -, hnext⟩
  · rw [hnext]
  · rw [hnext, end?, end?, hstage]

@[simp] theorem end?_modifyRun (l : Lane τ) (j : Nat) (f : JobRun τ → JobRun τ) :
    (l.modifyRun j f).end? = l.end? := by
  cases h : l.stage <;> simp [modifyRun, end?, h]

@[simp] theorem end?_turn (l : Lane τ) (s : Session τ) : (l.turn s).1.end? = l.end? := by
  cases hstage : l.stage with
  | reading d task =>
    have hnone : l.end? = none := by simp [end?, hstage]
    cases houtcome : task.outcome? with
    | none => simp [turn, end?, hstage, houtcome]
    | some a => cases hread : Inbox.toHandle a <;> simp [turn, end?, hstage, houtcome, hread]
  | _ => simp [turn, end?, hstage]

end Lane

namespace Listening

variable {x x' : Listening τ} {s : Session τ} {i j : Nat} {l : Lane τ}

/-- How a listener has ended, if it has. -/
def end? (x : Listening τ) : Listener → Option (Outcome Unit)
  | .lane i => x.lanes[i]?.bind Lane.end?
  | .endpoint => x.endpoint

theorem mem_listeners_of_end? {w : Listener} {r : Outcome Unit} (h : x.end? w = some r) :
    w ∈ listeners x.lanes.length := by
  cases w with
  | endpoint => exact endpoint_mem_listeners _
  | lane i =>
    obtain ⟨l, hl, -⟩ := Option.bind_eq_some_iff.mp h
    exact lane_mem_listeners.mpr (List.getElem?_eq_some_iff.mp hl).1

/-- The listener that an event has end, with what it ends with. -/
def ending? (x : Listening τ) (isCancelled : Bool) : ListenerEvent → Option (Listener × Outcome Unit)
  | .leave i r =>
    if x.lanes[i]?.any fun l => x.canLeave isCancelled l r then some (.lane i, r) else none
  | .close r => if x.canClose isCancelled r then some (.endpoint, r) else none
  | _ => none

/-- The ends of listeners that events bring about, in order. -/
def ends (x : Listening τ × Session τ) : List ListenerEvent → List (Listener × Outcome Unit)
  | [] => []
  | e :: events => (x.1.ending? x.2.world.isCancelled e).toList ++ ends (x.1.step x.2 e) events

theorem ends_append (x : Listening τ × Session τ) (events more : List ListenerEvent) :
    ends x (events ++ more) = ends x events ++ ends (run x events) more := by
  induction events generalizing x with
  | nil => rfl
  | cons e events ih =>
    rw [List.cons_append, ends, ends, ih, List.append_assoc]
    rfl

/-! ### What one event does -/

/-- No listener has ended and no end was seen. -/
structure Quiet (x x' : Listening τ) : Prop where
  count : x'.lanes.length = x.lanes.length
  ends : ∀ w, x'.end? w = x.end? w
  unseen : x'.unseen = x.unseen
  verdict : x'.verdict = x.verdict

theorem Quiet.of_eq (hlanes : x'.lanes = x.lanes) (hendpoint : x'.endpoint = x.endpoint)
    (hunseen : x'.unseen = x.unseen) (hverdict : x'.verdict = x.verdict) : x.Quiet x' := by
  refine ⟨by rw [hlanes], fun w => ?_, hunseen, hverdict⟩
  cases w <;> simp [end?, hlanes, hendpoint]

/-- A lane that changes without an end of its listener. -/
theorem Quiet.of_lane (l' : Lane τ) (hl : x.lanes[i]? = some l) (hend : l'.end? = l.end?)
    (hlanes : x'.lanes = x.lanes.set i l') (hendpoint : x'.endpoint = x.endpoint)
    (hunseen : x'.unseen = x.unseen) (hverdict : x'.verdict = x.verdict) : x.Quiet x' := by
  refine ⟨by rw [hlanes, List.length_set], fun w => ?_, hunseen, hverdict⟩
  cases w with
  | endpoint => exact hendpoint
  | lane k =>
    rw [end?, end?, hlanes]
    by_cases hk : i = k
    · subst hk
      rw [List.getElem?_set_self (List.getElem?_eq_some_iff.mp hl).1, hl]
      exact hend
    · rw [List.getElem?_set_ne hk]

theorem Quiet.mark (h : x.Quiet x') (m : Mark) : x.Quiet (x'.mark m) :=
  ⟨h.count, h.ends, h.unseen, h.verdict⟩

theorem quiet_modify (x : Listening τ) (i : Nat) {f : Lane τ → Lane τ}
    (hf : ∀ l, (f l).end? = l.end?) : x.Quiet (x.modify i f) := by
  cases hl : x.lanes[i]? with
  | none => exact .of_eq (modify_of_getElem?_none hl) rfl rfl rfl
  | some l => exact .of_lane (f l) hl (hf l) (modify_of_getElem? hl) rfl rfl rfl

theorem quiet_advance (x : Listening τ) (i j round : Nat) (before after : JobRun τ) :
    x.Quiet (x.advance i j round before after) := by
  have hrun : x.Quiet (x.modifyRun i j after) := x.quiet_modify i fun l => by simp
  unfold advance
  split
  · exact hrun.mark _
  · exact hrun

theorem quiet_pass (x : Listening τ) (i : Nat) (d : Delivery) : x.Quiet (x.pass i d) := by
  unfold pass
  split
  · exact .of_eq rfl rfl rfl rfl
  · split
    · exact .of_eq rfl rfl rfl rfl
    · next k l hl =>
      split
      · exact .of_eq rfl rfl rfl rfl
      · split
        · exact .of_lane (l.enqueue d) hl rfl (modify_of_getElem? hl) rfl rfl rfl
        · exact .of_eq rfl rfl rfl rfl

theorem quiet_visit (x : Listening τ) (s : Session τ) (i : Nat) : x.Quiet (x.visit s i).1 := by
  unfold visit
  split
  · split <;> exact .of_eq rfl rfl rfl rfl
  · exact x.quiet_pass i _
  · exact .of_eq rfl rfl rfl rfl

/-- Apart from the end of a listener and the sight of an end, no event changes what is known of the
ends of listeners. -/
theorem quiet_step (x : Listening τ) (s : Session τ) {e : ListenerEvent}
    (hleave : ∀ i r, e ≠ .leave i r) (hclose : ∀ r, e ≠ .close r) (hsee : e ≠ .see) :
    x.Quiet (x.step s e).1 := by
  cases e with
  | arrive r =>
    simp only [step]
    split <;> exact .of_eq rfl rfl rfl rfl
  | visit i => exact x.quiet_visit s i
  | take i =>
    simp only [step, take]
    split
    · next l hl =>
      split
      · exact .of_lane l.take hl l.end?_take rfl rfl rfl rfl
      · exact .of_eq rfl rfl rfl rfl
    · exact .of_eq rfl rfl rfl rfl
  | read i =>
    simp only [step, read]
    split
    · next l hl => exact .of_lane (l.turn s).1 hl (l.end?_turn s) rfl rfl rfl rfl
    · exact .of_eq rfl rfl rfl rfl
  | start i j =>
    simp only [step, start]
    split
    · split
      · exact (x.quiet_modify i fun l => by simp).mark _
      · exact .of_eq rfl rfl rfl rfl
    · exact .of_eq rfl rfl rfl rfl
  | turn i j =>
    simp only [step, turn]
    split
    · exact x.quiet_advance i j _ _ _
    · exact .of_eq rfl rfl rfl rfl
  | expire i j =>
    simp only [step, expire]
    split
    · exact x.quiet_advance i j _ _ _
    · exact .of_eq rfl rfl rfl rfl
  | next i => exact x.quiet_modify i fun l => l.end?_next
  | leave i r => exact absurd rfl (hleave i r)
  | close r => exact absurd rfl (hclose r)
  | revoke => exact .of_eq rfl rfl rfl rfl
  | see => exact absurd rfl hsee

/-- What happened to the ends of listeners, with the one that came about: nothing, a listener ended,
or the end that has waited longest was seen. -/
inductive Tells (x x' : Listening τ) : Option (Listener × Outcome Unit) → Prop
  | rests (quiet : x.Quiet x') : Tells x x' none
  | ends (w : Listener) (r : Outcome Unit) (count : x'.lanes.length = x.lanes.length)
      (before : x.end? w = none) (after : ∀ v, x'.end? v = if v = w then some r else x.end? v)
      (unseen : x'.unseen = x.unseen ++ [r]) (verdict : x'.verdict = x.verdict) :
      Tells x x' (some (w, r))
  | sees (r : Outcome Unit) (count : x'.lanes.length = x.lanes.length)
      (ends : ∀ w, x'.end? w = x.end? w) (unseen : x.unseen = r :: x'.unseen)
      (verdict : x'.verdict = x.verdict.see r) : Tells x x' none

theorem tells_leave (x : Listening τ) (isCancelled : Bool) (i : Nat) (r : Outcome Unit) :
    x.Tells (x.leave isCancelled i r) (x.ending? isCancelled (.leave i r)) := by
  have hrests : x.Tells x none := .rests (.of_eq rfl rfl rfl rfl)
  cases hl : x.lanes[i]? with
  | none => simpa [leave, ending?, hl] using hrests
  | some l =>
    cases hcan : x.canLeave isCancelled l r with
    | false => simpa [leave, ending?, hl, hcan] using hrests
    | true =>
      have hwaits : l.isWaiting = true := (Bool.and_eq_true_iff.mp hcan).1
      simp only [leave, ending?, hl, hcan, Option.any_some, if_true]
      refine .ends (.lane i) r (by simp [modify]) ?_ (fun v => ?_) rfl rfl
      · simp [end?, hl, Lane.end?_of_isWaiting hwaits]
      · cases v with
        | endpoint => rfl
        | lane k =>
          simp only [end?, modify, List.getElem?_modify, Listener.lane.injEq]
          by_cases hk : i = k
          · subst hk
            simp [hl, Lane.leave, Lane.end?]
          · simp [hk, Ne.symm hk]

theorem tells_close (x : Listening τ) (isCancelled : Bool) (r : Outcome Unit) :
    x.Tells (x.close isCancelled r) (x.ending? isCancelled (.close r)) := by
  cases hcan : x.canClose isCancelled r with
  | false =>
    have hrests : x.Tells x none := .rests (.of_eq rfl rfl rfl rfl)
    simpa [close, ending?, hcan] using hrests
  | true =>
    have hopen : x.endpoint = none := Option.isNone_iff_eq_none.mp (Bool.and_eq_true_iff.mp hcan).1
    simp only [close, ending?, hcan, if_true]
    refine .ends .endpoint r rfl hopen (fun v => ?_) rfl rfl
    cases v <;> simp [end?]

theorem tells_see (x : Listening τ) : x.Tells x.see.1 none := by
  unfold see
  split
  · next r unseen hunseen => exact .sees r rfl (fun w => by cases w <;> rfl) hunseen rfl
  · exact .rests (.of_eq rfl rfl rfl rfl)

/-- Whatever happens, at most one listener ends, and it has not ended before; and only the end that
has waited longest is seen. -/
theorem tells_step (x : Listening τ) (s : Session τ) (e : ListenerEvent) :
    x.Tells (x.step s e).1 (x.ending? s.world.isCancelled e) := by
  cases e with
  | leave i r => exact x.tells_leave s.world.isCancelled i r
  | close r => exact x.tells_close s.world.isCancelled r
  | see => exact x.tells_see
  | _ => exact .rests (x.quiet_step s nofun nofun nofun)

/-! ### What many events do -/

/-- What is known of the ends of listeners that have come about in this order: each is of another
listener, and they have been seen in this order, as far as they have been seen. -/
structure Heard (n : Nat) (ends : List (Listener × Outcome Unit)) (x : Listening τ) : Prop where
  count : x.lanes.length = n
  once : (ends.map Prod.fst).Nodup
  ended : ∀ w r, (w, r) ∈ ends ↔ x.end? w = some r
  seen : ∃ seen waiting, ends = seen ++ waiting ∧ waiting.map Prod.snd = x.unseen ∧
    x.verdict.failure = firstFailure seen

variable {n : Nat} {past : List (Listener × Outcome Unit)}

theorem Heard.begin (names : List String) (ownWay : String → Bool) :
    (Listening.begin names ownWay : Listening τ).Heard names.length [] where
  count := List.length_map _
  once := List.nodup_nil
  ended w r := by
    cases w with
    | endpoint => simp [end?, Listening.begin]
    | lane i => cases hi : names[i]? <;> simp [end?, Listening.begin, Lane.end?, hi]
  seen := ⟨[], [], rfl, rfl, rfl⟩

theorem Heard.tells {ended : Option (Listener × Outcome Unit)} (h : x.Heard n past)
    (htells : x.Tells x' ended) : x'.Heard n (past ++ ended.toList) := by
  obtain ⟨seen, waiting, hpast, hwaiting, hfailure⟩ := h.seen
  cases htells with
  | rests quiet =>
    rw [Option.toList_none, List.append_nil]
    exact ⟨quiet.count.trans h.count, h.once, fun w r => by rw [quiet.ends, h.ended],
      seen, waiting, hpast, hwaiting.trans quiet.unseen.symm, quiet.verdict ▸ hfailure⟩
  | ends w r count before after unseen verdict =>
    have hnew : w ∉ past.map Prod.fst := by
      intro hmem
      obtain ⟨⟨v, r'⟩, hv, rfl⟩ := List.mem_map.mp hmem
      cases before.symm.trans ((h.ended v r').mp hv)
    refine ⟨count.trans h.count, ?_, fun v r' => ?_, seen, waiting ++ [(w, r)], ?_, ?_,
      verdict ▸ hfailure⟩
    · rw [Option.toList_some, List.map_append]
      refine List.nodup_append.mpr ⟨h.once, List.pairwise_singleton _ _, ?_⟩
      rintro v hv v' hv' rfl
      have hvw : v = w := List.mem_singleton.mp hv'
      exact hnew (hvw ▸ hv)
    · rw [Option.toList_some, List.mem_append, List.mem_singleton, after]
      by_cases hv : v = w
      · subst hv
        have hnot : (v, r') ∉ past := fun hmem => hnew (List.mem_map_of_mem hmem)
        simp [hnot, eq_comm]
      · simp [hv, h.ended]
    · rw [hpast, List.append_assoc]
      rfl
    · simp [hwaiting, unseen]
  | sees r count ends unseen verdict =>
    rw [unseen] at hwaiting
    obtain ⟨⟨w, r⟩, waiting', rfl, rfl, hwaiting'⟩ := List.map_eq_cons_iff.mp hwaiting
    rw [Option.toList_none, List.append_nil]
    refine ⟨count.trans h.count, h.once, fun v r' => by rw [ends, h.ended],
      seen ++ [(w, r)], waiting', by simp [hpast], hwaiting', ?_⟩
    rw [verdict, Verdict.failure_see_eq, hfailure, firstFailure_concat]

theorem Heard.runs (h : x.Heard n past) (s : Session τ) (events : List ListenerEvent) :
    (Listening.run (x, s) events).1.Heard n (past ++ Listening.ends (x, s) events) := by
  induction events generalizing x s past with
  | nil => simpa [Listening.run, Listening.ends] using h
  | cons e events ih =>
    rw [run_cons, Listening.ends, ← List.append_assoc]
    exact ih (h.tells (x.tells_step s e)) (x.step s e).2

/-- Listening is over when every listener has ended and every end has been seen. -/
theorem isOver_iff (x : Listening τ) :
    x.isOver = true ↔
      (∀ w ∈ listeners x.lanes.length, (x.end? w).isSome = true) ∧ x.unseen = [] := by
  have hlanes : (∀ w ∈ listeners x.lanes.length, (x.end? w).isSome = true) ↔
      x.endpoint.isSome = true ∧ ∀ l ∈ x.lanes, l.hasEnded = true := by
    constructor
    · intro h
      refine ⟨h .endpoint (endpoint_mem_listeners _), fun l hl => ?_⟩
      obtain ⟨i, hi⟩ := List.getElem?_of_mem hl
      have hend := h (.lane i) (lane_mem_listeners.mpr (List.getElem?_eq_some_iff.mp hi).1)
      simpa [end?, hi, Lane.hasEnded_eq] using hend
    · rintro ⟨hendpoint, hended⟩ w hw
      cases w with
      | endpoint => exact hendpoint
      | lane i =>
        have hi := List.getElem?_eq_getElem (lane_mem_listeners.mp hw)
        simpa [end?, hi, Lane.hasEnded_eq] using hended _ (List.mem_of_getElem? hi)
  rw [hlanes, isOver]
  simp

/-- All listeners have ended when their ends are those of all, once each. -/
theorem Heard.perm_iff (h : x.Heard n past) :
    (past.map Prod.fst).Perm (listeners n) ↔ ∀ w ∈ listeners n, (x.end? w).isSome = true := by
  rw [List.perm_ext_iff_of_nodup h.once (nodup_listeners n)]
  have hmem : ∀ w, w ∈ past.map Prod.fst ↔ (x.end? w).isSome = true := by
    intro w
    rw [Option.isSome_iff_exists]
    constructor
    · intro hw
      obtain ⟨⟨v, r⟩, hv, rfl⟩ := List.mem_map.mp hw
      exact ⟨r, (h.ended v r).mp hv⟩
    · rintro ⟨r, hr⟩
      exact List.mem_map_of_mem ((h.ended w r).mpr hr)
  constructor
  · exact fun hperm w hw => (hmem w).mp ((hperm w).mpr hw)
  · refine fun hended w => ⟨fun hw => ?_, fun hw => (hmem w).mpr (hended w hw)⟩
    obtain ⟨r, hr⟩ := Option.isSome_iff_exists.mp ((hmem w).mp hw)
    exact h.count ▸ mem_listeners_of_end? hr

/-- When every end has been seen the verdict is the first failure of all. -/
theorem Heard.failure (h : x.Heard n past) (hseen : x.unseen = []) :
    x.verdict.failure = firstFailure past := by
  obtain ⟨seen, waiting, hpast, hwaiting, hfailure⟩ := h.seen
  rw [hseen, List.map_eq_nil_iff] at hwaiting
  rw [hfailure, hpast, hwaiting, List.append_nil]

/-- What listening comes to, and when. -/
theorem Heard.outcome?_eq_some_iff (h : x.Heard n past) (r : Outcome Unit) :
    x.outcome? = some r ↔ (past.map Prod.fst).Perm (listeners n) ∧ x.unseen = [] ∧
      r = .error ((firstFailure past).getD .cancelled) := by
  rw [h.perm_iff, ← and_assoc, ← h.count, ← x.isOver_iff, outcome?]
  cases hover : x.isOver with
  | false => simp
  | true =>
    have hfailure := h.failure (x.isOver_iff.mp hover).2
    simp [Verdict.outcome, hfailure, eq_comm]

/-! ### The sight of the ends -/

theorem see_cons {r : Outcome Unit} {unseen : List (Outcome Unit)} (h : x.unseen = r :: unseen) :
    x.see = ({ x with unseen, verdict := x.verdict.see r },
      (x.verdict.see r).cancels && !x.verdict.cancels) := by
  simp only [see, h]

/-- After as many sights as there are ends that were not seen, all are seen. -/
theorem unseen_run_see (x : Listening τ) (s : Session τ) :
    (run (x, s) (List.replicate x.unseen.length .see)).1.unseen = [] := by
  induction hunseen : x.unseen generalizing x s with
  | nil => exact hunseen
  | cons r unseen ih =>
    rw [List.length_cons, List.replicate_succ, run_cons]
    exact ih (x.step s .see).1 (x.step s .see).2 (by simp only [step, see_cons hunseen])

theorem ends_see (x : Listening τ × Session τ) (k : Nat) :
    ends x (List.replicate k .see) = [] := by
  induction k generalizing x with
  | zero => rfl
  | succ k ih =>
    rw [List.replicate_succ, ends, ih]
    rfl

/-- Once all listeners have ended, listening is over when their ends have been seen. -/
theorem Heard.outcome?_run_see (h : x.Heard n past) (s : Session τ)
    (hended : ∀ w ∈ listeners n, (x.end? w).isSome = true) :
    (run (x, s) (List.replicate x.unseen.length .see)).1.outcome? =
      some (.error ((firstFailure past).getD .cancelled)) := by
  have hrun := h.runs s (List.replicate x.unseen.length .see)
  rw [ends_see, List.append_nil] at hrun
  exact (hrun.outcome?_eq_some_iff _).mpr ⟨h.perm_iff.mpr hended, x.unseen_run_see s, rfl⟩

/-! ### The token -/

/-- The sight of an end cancels the token when it is the first failure that is seen. -/
theorem see_cancels_iff {seen waiting : List (Listener × Outcome Unit)}
    (hwaiting : waiting.map Prod.snd = x.unseen) (hfailure : x.verdict.failure = firstFailure seen) :
    x.see.2 = true ↔ firstFailure seen = none ∧
      ∃ w f later, waiting = (w, .error f) :: later ∧ f ≠ .cancelled := by
  cases waiting with
  | nil =>
    have hseen : x.unseen = [] := hwaiting.symm
    simp [see, hseen]
  | cons e later =>
    obtain ⟨w, r⟩ := e
    rw [see_cons hwaiting.symm]
    simp only [Verdict.cancels, Verdict.failure_see_eq, hfailure]
    cases hnone : firstFailure seen with
    | some f => simp
    | none =>
      rw [Option.none_or, Option.isSome_none, Bool.not_false, Bool.and_true,
        Option.isSome_iff_exists]
      simp only [failureOf?_eq_some_iff]
      constructor
      · rintro ⟨f, rfl, hf⟩
        exact ⟨trivial, w, f, later, rfl, hf⟩
      · rintro ⟨-, w', f, later', hlater, hf⟩
        cases hlater
        exact ⟨f, rfl, hf⟩

end Listening

/-- The look-up of a subscription leaves the token as it is. -/
theorem World.respects_token (e : Surroundings τ) :
    (handler e).Respects (fun q => ∃ id, q = .findSubscription id)
      fun w w' => w'.isCancelled = w.isCancelled where
  refl _ := rfl
  trans h h' := h'.trans h
  asked q w hq := by
    obtain ⟨id, rfl⟩ := hq
    exact guarded_elim (p := fun r => r.2.isCancelled = w.isCancelled) w .getSubscription
      rfl rfl
  answered q w w' hq := by
    obtain ⟨id, rfl⟩ := hq
    rfl

namespace Listening

variable {x : Listening τ} {s : Session τ}

theorem isCancelled_visit (x : Listening τ) (s : Session τ) (i : Nat) :
    (x.visit s i).2.world.isCancelled = s.world.isCancelled := by
  unfold visit
  split
  · next h _ =>
    have htoken := (receive_asks (fun id => ⟨id, rfl⟩) h).run
      (World.respects_token s.surroundings) s.world
    split
    all_goals
      next hr =>
        have hworld := congrArg (fun y => y.2.world.isCancelled) hr
        exact hworld.symm.trans htoken
  · rfl
  · rfl

/-- Apart from the sight of an end, only the caller cancels the token, or a tracker while it reads or
is called by a run. -/
theorem revoked_by {e : ListenerEvent} (hsee : e ≠ .see) (hbefore : s.world.isCancelled = false)
    (hafter : (x.step s e).2.world.isCancelled = true) :
    e = .revoke ∨ (∃ i, e = .read i) ∨ ∃ i j, e = .turn i j := by
  have hsame : ∀ b, b = s.world.isCancelled → b = true → False := by
    rintro b rfl hb
    cases hbefore.symm.trans hb
  cases e with
  | revoke => exact .inl rfl
  | read i => exact .inr (.inl ⟨i, rfl⟩)
  | turn i j => exact .inr (.inr ⟨i, j, rfl⟩)
  | see => exact absurd rfl hsee
  | visit i => exact (hsame _ (x.isCancelled_visit s i) hafter).elim
  | _ => exact (hsame _ rfl hafter).elim

/-! ### Ends in any order -/

/-- Listeners of which these have not done anything yet, and the ends of the others were seen. -/
structure Ready (names : List String) (ownWay : String → Bool) (rest : List Listener)
    (x : Listening τ) : Prop where
  visits : x.visits = []
  unseen : x.unseen = []
  lanes : ∀ i, .lane i ∈ rest → ∃ name, names[i]? = some name ∧
    x.lanes[i]? = some { tracker := name, ownWay := ownWay name }
  endpoint : .endpoint ∈ rest → x.endpoint = none

variable {names : List String} {ownWay : String → Bool} {w : Listener} {rest : List Listener}
  {r : Outcome Unit}

theorem Ready.begin (names : List String) (ownWay : String → Bool) {rest : List Listener}
    (hrest : ∀ w ∈ rest, w ∈ listeners names.length) :
    (Listening.begin names ownWay : Listening τ).Ready names ownWay rest where
  visits := rfl
  unseen := rfl
  lanes i hi := by
    have hname := List.getElem?_eq_getElem (lane_mem_listeners.mp (hrest _ hi))
    exact ⟨_, hname, by simp [Listening.begin, hname]⟩
  endpoint _ := rfl

/-- A listener that has not done anything yet ends as it may, and that changes nothing else. -/
theorem Ready.ending (h : x.Ready names ownWay (w :: rest)) (hw : w ∉ rest)
    (hmay : w.MayEnd names ownWay s.world.isCancelled r) :
    x.ending? s.world.isCancelled (w.ending r) = some (w, r) ∧
      ∃ x' : Listening τ, x.step s (w.ending r) = ({ x' with unseen := [r] }, s) ∧
        x'.Ready names ownWay rest ∧ x'.verdict = x.verdict := by
  cases w with
  | endpoint =>
    have hopen := h.endpoint List.mem_cons_self
    have hcan : x.canClose s.world.isCancelled r = true := by
      cases r with
      | ok u =>
        have hcancelled : s.world.isCancelled = true := hmay
        simp [canClose, hopen, h.visits, hcancelled]
      | error f => simp [canClose, hopen]
    refine ⟨by simp [Listener.ending, ending?, hcan], { x with endpoint := some r }, ?_,
      ⟨h.visits, h.unseen, fun i hi => h.lanes i (List.mem_cons_of_mem _ hi),
        fun hmem => absurd hmem hw⟩, rfl⟩
    simp [Listener.ending, step, close, hcan, h.unseen]
  | lane i =>
    obtain ⟨name, hname, hl⟩ := h.lanes i List.mem_cons_self
    have hcan : x.canLeave s.world.isCancelled { tracker := name, ownWay := ownWay name } r = true := by
      rcases hmay with ⟨_, hname', hown⟩ | ⟨hcancelled, hr⟩
      · cases hname.symm.trans hname'
        simp [canLeave, Lane.isWaiting, hown]
      · simp [canLeave, Lane.isWaiting, hcancelled, hr]
    refine ⟨by simp [Listener.ending, ending?, hl, hcan], x.modify i (·.leave r), ?_,
      ⟨h.visits, h.unseen, fun k hk => ?_, fun hmem => h.endpoint (List.mem_cons_of_mem _ hmem)⟩, rfl⟩
    · simp [Listener.ending, step, leave, hl, hcan, h.unseen]
    · have hki : i ≠ k := by
        rintro rfl
        exact hw hk
      obtain ⟨name', hname', hl'⟩ := h.lanes k (List.mem_cons_of_mem _ hk)
      exact ⟨name', hname', by simp [modify, hki, hl']⟩

/-- Its end is seen. -/
theorem Ready.ending_seen (h : x.Ready names ownWay (w :: rest)) (hw : w ∉ rest)
    (hmay : w.MayEnd names ownWay s.world.isCancelled r) :
    ends (x, s) [w.ending r, .see] = [(w, r)] ∧
      ∃ x' : Listening τ, run (x, s) [w.ending r, .see] =
          (x', s.revoke ((x.verdict.see r).cancels && !x.verdict.cancels)) ∧
        x'.Ready names ownWay rest ∧ x'.verdict = x.verdict.see r := by
  obtain ⟨hends, x', hstep, hready, hverdict⟩ := h.ending hw hmay
  refine ⟨by rw [ends, hends]; rfl, { x' with verdict := x.verdict.see r }, ?_,
    ⟨hready.visits, hready.unseen, hready.lanes, hready.endpoint⟩, rfl⟩
  rw [run_cons, hstep]
  simp [run, step, see, hverdict, hready.unseen]

/-- Listeners that have not done anything yet can end in any order, each as it may then. -/
theorem Ready.ends_in_order {order : List (Listener × Outcome Unit)}
    (h : x.Ready names ownWay (order.map Prod.fst)) (honce : (order.map Prod.fst).Nodup)
    (htoken : x.verdict.failure.isSome = true → s.world.isCancelled = true)
    (hmay : MayEndInOrder names ownWay s.world.isCancelled order) :
    ends (x, s) (endings order) = order ∧ (run (x, s) (endings order)).1.unseen = [] ∧
      (run (x, s) (endings order)).2.world.isCancelled =
        (s.world.isCancelled || (firstFailure order).isSome) := by
  induction order generalizing x s with
  | nil => exact ⟨rfl, h.unseen, (Bool.or_false _).symm⟩
  | cons e order ih =>
    obtain ⟨w, r⟩ := e
    obtain ⟨hw, honce⟩ := List.nodup_cons.mp honce
    obtain ⟨hfirst, hmay⟩ := hmay
    obtain ⟨hends, x', hrun, hready, hverdict⟩ := Ready.ending_seen h hw hfirst
    have hafter : (s.revoke ((x.verdict.see r).cancels && !x.verdict.cancels)).world.isCancelled =
        (s.world.isCancelled || (failureOf? r).isSome) := by
      simp only [Session.revoke, Verdict.cancels, Verdict.failure_see_eq]
      cases hfailure : x.verdict.failure with
      | none => simp
      | some f => simp [htoken (by rw [hfailure]; rfl)]
    obtain ⟨hothers, hunseen, hcancelled⟩ := ih hready honce
      (s := s.revoke ((x.verdict.see r).cancels && !x.verdict.cancels))
      (fun hfailure => by
        rw [hverdict, Verdict.failure_see_eq, Option.isSome_or, Bool.or_eq_true] at hfailure
        rw [hafter, Bool.or_eq_true]
        exact hfailure.imp_left htoken)
      (hafter ▸ hmay)
    have hevents : endings ((w, r) :: order) = [w.ending r, .see] ++ endings order := rfl
    rw [hevents, ends_append, run_append, hends, hrun, hothers]
    refine ⟨rfl, hunseen, ?_⟩
    rw [hcancelled, hafter, firstFailure_cons, Option.isSome_or, Bool.or_assoc]

/-! ### What listening comes to -/

/-- Listeners some of whose ends have been seen, and what follows for their outcome and their token.
Ends are listed in the order in which they came about. -/
structure SeenSoFar (n : Nat) (seen waiting : List (Listener × Outcome Unit)) (x : Listening τ)
    (s : Session τ) : Prop where
  ended : ∀ w r, (w, r) ∈ seen ++ waiting ↔ x.end? w = some r
  unseen : waiting.map Prod.snd = x.unseen
  /-- Listening is over when all have ended, each once, and have been seen. -/
  outcome : ∀ r, x.outcome? = some r ↔ waiting = [] ∧ (seen.map Prod.fst).Perm (listeners n) ∧
    r = .error ((firstFailure seen).getD .cancelled)
  /-- To see an end cancels the token when it is the first failure. -/
  sight : ∃ first, (x.step s .see).2 = s.revoke first ∧
    (first = true ↔ firstFailure seen = none ∧
      ∃ w f later, waiting = (w, .error f) :: later ∧ f ≠ .cancelled)
  /-- The end itself cancels nothing. -/
  endings : ∀ (w : Listener) r, (x.step s (w.ending r)).2 = s
  /-- Otherwise only the caller cancels the token, or a tracker. -/
  others : ∀ e, e ≠ .see → s.world.isCancelled = false →
    (x.step s e).2.world.isCancelled = true →
    e = .revoke ∨ (∃ i, e = .read i) ∨ ∃ i j, e = .turn i j

theorem Heard.seenSoFar (h : x.Heard n past) (s : Session τ) :
    ∃ seen waiting, past = seen ++ waiting ∧ x.SeenSoFar n seen waiting s := by
  obtain ⟨seen, waiting, rfl, hwaiting, hfailure⟩ := h.seen
  refine ⟨seen, waiting, rfl, h.ended, hwaiting, fun r => ?_,
    ⟨_, rfl, see_cancels_iff hwaiting hfailure⟩, fun w r => by cases w <;> rfl,
    fun e hsee => revoked_by hsee⟩
  rw [h.outcome?_eq_some_iff, ← hwaiting, List.map_eq_nil_iff]
  constructor
  · rintro ⟨hperm, rfl, hr⟩
    rw [List.append_nil] at hperm hr
    exact ⟨rfl, hperm, hr⟩
  · rintro ⟨rfl, hperm, hr⟩
    rw [List.append_nil]
    exact ⟨hperm, rfl, hr⟩

/-- What listening comes to, whoever listens, whatever each of them ends with, and in whatever order.
The ends are seen one by one in that order, and `SeenSoFar` says when listening is over and what
cancels its token. It is over once all have ended and been seen. Then it has come to the failure of
the first listener that has failed, which no later failure replaces, or to a cancellation when none
has. And every order does happen in which each listener ends as it may then. -/
theorem listening_comes_to_first_failure (s : Session τ) (names : List String)
    (ownWay : String → Bool) :
    let start : Listening τ × Session τ := (Listening.begin names ownWay, s)
    (∀ events, ∃ seen waiting, ends start events = seen ++ waiting ∧
      (run start events).1.SeenSoFar names.length seen waiting (run start events).2) ∧
    (∀ events, (∀ w ∈ listeners names.length, ((run start events).1.end? w).isSome = true) →
      (run start
        (events ++ List.replicate (run start events).1.unseen.length .see)).1.outcome? =
          some (.error ((firstFailure (ends start events)).getD .cancelled))) ∧
    (∀ events more f r, firstFailure (ends start events) = some f →
      (run start (events ++ more)).1.outcome? = some r → r = .error f) ∧
    ∀ order, (order.map Prod.fst).Perm (listeners names.length) →
      MayEndInOrder names ownWay s.world.isCancelled order →
      ends start (endings order) = order ∧
      (run start (endings order)).1.outcome? =
        some (.error ((firstFailure order).getD .cancelled)) ∧
      (run start (endings order)).2.world.isCancelled =
        (s.world.isCancelled || (firstFailure order).isSome) := by
  intro start
  have hheard : ∀ events, (run start events).1.Heard names.length (ends start events) :=
    fun events => (Heard.begin names ownWay).runs s events
  refine ⟨fun events => (hheard events).seenSoFar _, fun events hended => ?_,
    fun events more f r hfirst hr => ?_, fun order hperm hmay => ?_⟩
  · rw [run_append]
    exact (hheard events).outcome?_run_see _ hended
  · obtain ⟨-, -, rfl⟩ := ((hheard (events ++ more)).outcome?_eq_some_iff r).mp hr
    rw [ends_append, firstFailure_append, hfirst]
    rfl
  · have hready : (Listening.begin names ownWay : Listening τ).Ready names ownWay
        (order.map Prod.fst) := Ready.begin names ownWay fun w hw => hperm.mem_iff.mp hw
    have honce := hperm.nodup_iff.mpr (nodup_listeners names.length)
    obtain ⟨hends, hunseen, hcancelled⟩ :=
      hready.ends_in_order honce (s := s) (fun hfailure => by cases hfailure) hmay
    refine ⟨hends, ?_, hcancelled⟩
    exact ((hheard (endings order)).outcome?_eq_some_iff _).mpr
      ⟨by rwa [hends], hunseen, by rw [hends]⟩

/-- A session with two trackers that listen in a way of their own, and one that does not. -/
def threeDesks : Session Unit where
  config := { server := { baseUrl := "http://localhost" } }
  surroundings := Course.desk
  world := { store := .memory {}, trackers := () }

/-- One tracker ends as cancelled, and that changes nothing. The next one fails, and then the others
end, the endpoint with a failure of its own. -/
def lostThenLate : List (Listener × Outcome Unit) :=
  [(.lane 0, .error .cancelled), (.lane 1, .error (.transport "lost")),
    (.endpoint, .error (.transport "late")), (.lane 2, .error .cancelled)]

theorem lost_connection_returned :
    let names := ["mail", "chat", "desk"]
    let ownWay := fun tracker => decide (tracker ≠ "desk")
    let start : Listening Unit × Session Unit := (Listening.begin names ownWay, threeDesks)
    let lost := endings (lostThenLate.take 2)
    let late := endings (lostThenLate.drop 2)
    (lostThenLate.map Prod.fst).Perm (listeners names.length) ∧
      MayEndInOrder names ownWay threeDesks.world.isCancelled lostThenLate ∧
      ends start (endings lostThenLate) = lostThenLate ∧
      (∀ w ∈ listeners names.length, ((run start (lost ++ late)).1.end? w).isSome = true) ∧
      firstFailure (ends start lost) = some (.transport "lost") ∧
      (run start (lost ++ late)).1.outcome? = some (.error (.transport "lost")) ∧
      (run start (endings (lostThenLate.take 1))).2.world.isCancelled = false ∧
      (run start (lost ++ late)).2.world.isCancelled = true := by
  intro names ownWay start lost late
  have hperm : (lostThenLate.map Prod.fst).Perm (listeners names.length) := by decide
  have hmay : MayEndInOrder names ownWay threeDesks.world.isCancelled lostThenLate := by
    simp [lostThenLate, MayEndInOrder, Listener.MayEnd, names, ownWay, failureOf?,
      Failure.isCancelled, wasCancelled]
  have hended : ∀ w ∈ listeners names.length,
      ((run start (lost ++ late)).1.end? w).isSome = true := by decide +kernel
  have hlost : firstFailure (ends start lost) = some (.transport "lost") := by decide +kernel
  obtain ⟨-, hreturns, hkept, horder⟩ :=
    listening_comes_to_first_failure threeDesks names ownWay
  obtain ⟨hends, -, hcancelled⟩ := horder lostThenLate hperm hmay
  have hseen : (run start (lost ++ late)).1.unseen = [] := by decide +kernel
  have hover := hreturns (lost ++ late) hended
  rw [hseen, List.length_nil, List.replicate_zero, List.append_nil] at hover
  have hfirst := hkept lost late (.transport "lost") _ hlost hover
  exact ⟨hperm, hmay, hends, hended, hlost, hover.trans (congrArg some hfirst), by decide +kernel,
    hcancelled⟩

end Listening
end TicketSync.Engine
