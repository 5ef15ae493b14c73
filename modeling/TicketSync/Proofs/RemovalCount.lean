import TicketSync.Proofs.SessionClock
import TicketSync.Proofs.Teardown

/-! # The count of removed subscriptions

Removals run side by side, and each of them deletes at most the row of its own subscription. At any
time the rows that are left and the removals that have ended with yes make up the rows that were
there at first. So the count is right when all removals have ended. When the limit cuts them off it
is zero, also if some rows are gone by then. -/
namespace TicketSync

namespace Dict

variable {α : Type} {k : String}

/-- Where keys differ, one entry stands under a key that is found. -/
theorem length_filter_ne {l : List (String × α)} (hl : l.Pairwise fun a b => a.1 ≠ b.1)
    (hfound : (find k l).isSome) : (l.filter fun e => e.1 ≠ k).length + 1 = l.length := by
  induction l with
  | nil => cases hfound
  | cons e l ih =>
    obtain ⟨hfirst, hrest⟩ := List.pairwise_cons.mp hl
    by_cases he : e.1 = k
    · have hall : l.filter (fun e => e.1 ≠ k) = l :=
        List.filter_eq_self.mpr fun e' he' => by simpa [he] using (hfirst e' he').symm
      rw [List.filter_cons_of_neg (by simp [he]), hall, List.length_cons]
    · have hlength := ih hrest (by simpa [find, he] using hfound)
      simp only [ne_eq, he, not_false_eq_true, decide_true, List.filter_cons_of_pos,
        List.length_cons] at hlength ⊢
      omega

theorem size_erase {d : Dict α} (hk : d.contains k = true) : (d.erase k).size + 1 = d.size :=
  length_filter_ne d.pairwise_ne hk

end Dict

/-! ### Turns of a task -/

namespace Task

variable {D : Dialogue} {σ α : Type} {h : Handler D σ} {t : Task D σ α} {s : σ}

/-- Whether a task has ended with yes. -/
def confirms (t : Task D σ Bool) : Bool :=
  match t.outcome? with
  | some (.ok true) => true
  | _ => false

/-- A turn without an exchange leaves a task that has ended as it is, and ends no other one. -/
theorem outcome?_of_no_exchange (hx : t.exchange? h s = none) :
    (t.step h s).1.outcome? = t.outcome? := by
  cases t with
  | ready script =>
    cases script with
    | done x => rfl
    | fail f => rfl
    | ask q next =>
      simp only [exchange?] at hx
      split at hx
      · cases hx
      · next hslow => simp [step, hslow, outcome?]
  | waiting q answer next => cases hx

/-- A turn with an exchange is taken by a task that has not ended, and its script goes on from there. -/
theorem ready_of_exchange {x : Exchange D} (hx : t.exchange? h s = some x) :
    t.outcome? = none ∧ ∃ script, (t.step h s).1 = .ready script := by
  cases t with
  | ready script =>
    cases script with
    | done y => cases hx
    | fail f => cases hx
    | ask q next =>
      simp only [exchange?] at hx
      split at hx
      · next hnow => exact ⟨rfl, _, by simp only [step, hnow, if_true]; rfl⟩
      · cases hx
  | waiting q answer next => exact ⟨rfl, _, rfl⟩

theorem CameFrom.leads_of_ready {begun script : Script D α} {asked : List D.Question}
    {told : List (Exchange D)} (ht : CameFrom h begun asked told (Task.ready script)) :
    begun.Leads told script := by
  cases ht with
  | ready leads => exact leads

end Task

theorem Pool.confirmed_eq {D : Dialogue} {σ : Type} (pool : Pool D σ Bool) :
    pool.confirmed = pool.countP Task.confirms := rfl

namespace Engine

variable {τ : Type} {e : Surroundings τ} {w : World τ} {x : Subscription}

/-! ### A turn of a removal -/

/-- The last exchange of a removal: the deletion that ends it, or one that changes no row and after
which it has not ended with yes. -/
theorem Removal.last {told : List (Exchange Engine)} {ex : Exchange Engine}
    {rest : Script Engine Bool} (h : Removal x (told ++ [ex]) rest) :
    (∃ a, ex = ⟨.deleteSubscription x.id, a⟩ ∧ rest = .done (isGone a)) ∨
      (ex.question.writesRows = false ∧ rest ≠ .done true) := by
  generalize hall : told ++ [ex] = all at h
  have hlast : all.getLast? = some ex := by simp [← hall]
  cases h with
  | begun => cases hlast
  | bare noRef a =>
    obtain rfl : _ = ex := by simpa using hlast
    exact .inl ⟨a, rfl, rfl⟩
  | orphan =>
    obtain rfl : _ = ex := by simpa using hlast
    exact .inr ⟨rfl, by simp⟩
  | known =>
    obtain rfl : _ = ex := by simpa using hlast
    exact .inr ⟨rfl, by simp⟩
  | kept =>
    obtain rfl : _ = ex := by simpa using hlast
    exact .inr ⟨rfl, by simp⟩
  | gone =>
    obtain rfl : _ = ex := by simpa using hlast
    exact .inr ⟨rfl, by simp [discard, inquire]⟩
  | deleted hasRef a b =>
    obtain rfl : _ = ex := by simpa using hlast
    exact .inl ⟨b, rfl, rfl⟩

theorem Store.deleteSubscription_of_contains {s : Store} {id : String}
    (hrow : s.rows.contains id = true) : ∃ s', s.deleteSubscription id = .ok s' := by
  cases s with
  | memory m =>
    have hknown : m.subscriptions.contains id = true := by
      rwa [Store.rows, Dict.contains_map] at hrow
    simp [Store.deleteSubscription, MemoryStore.deleteSubscription, hknown, Except.map]
  | disk d =>
    have hknown : d.subscriptions.contains id = true := by
      rwa [Store.rows, Dict.contains_map] at hrow
    simp [Store.deleteSubscription, DiskStore.deleteSubscription, hknown, Except.map]

/-- The deletion of a row that is there says that it is gone only if it has deleted it. -/
theorem World.deleted_of_isGone {id : String} (hrow : w.store.rows.contains id = true)
    (hgone : isGone (w.deleteSubscription id).1 = true) : (w.deleteSubscription id).1 = .ok () := by
  unfold World.deleteSubscription World.guarded at hgone ⊢
  split
  · next hfault =>
    rw [if_pos hfault] at hgone
    cases hgone
  · obtain ⟨store, hstore⟩ := Store.deleteSubscription_of_contains hrow
    simp [World.keep, hstore]

theorem World.answer_of_deletion {w' : World τ} {q? : Option (Dialogue.Question Engine)} {id : String}
    {a : Outcome Unit}
    (h : Task.Turn (World.handler e) w q? (some ⟨.deleteSubscription id, a⟩) w') :
    a = (w.deleteSubscription id).1 := by
  generalize hx : some (⟨.deleteSubscription id, a⟩ : Exchange Engine) = x? at h
  cases h with
  | rest => cases hx
  | prompt q now =>
    cases hx
    rfl
  | asked => cases hx
  | answered q w₀ slow =>
    cases hx
    exact absurd (World.delay_of_writesRows rfl w₀) slow

/-- A turn of a removal changes no row and does not confirm anything new, or it deletes the row of
its subscription and has confirmed that. -/
theorem removal_turn {asked : List (Dialogue.Question Engine)} {told : List (Exchange Engine)}
    {t : Task Engine (World τ) Bool} (ht : Task.CameFrom (World.handler e) (remove x) asked told t)
    (hrow : t.confirms = false → w.store.rows.contains x.id = true) :
    ((t.step (World.handler e) w).2.store.rows = w.store.rows ∧
      (t.step (World.handler e) w).1.confirms = t.confirms) ∨
    ((t.step (World.handler e) w).2.store.rows = w.store.rows.erase x.id ∧ t.confirms = false ∧
      (t.step (World.handler e) w).1.confirms = true) := by
  have heffect := World.rowEffect_of_turn (ht.turn w)
  have hturn := ht.turn w
  have hcame := ht.step w
  cases hx : t.exchange? (World.handler e) w with
  | none =>
    rw [hx] at heffect
    refine .inl ⟨?_, by simp only [Task.confirms, Task.outcome?_of_no_exchange hx]⟩
    cases heffect with
    | kept same => exact same.rows
  | some ex =>
    obtain ⟨hgoes, script, hready⟩ := Task.ready_of_exchange hx
    have hopen : t.confirms = false := by simp [Task.confirms, hgoes]
    rw [hx] at heffect hturn hcame
    rw [hready] at hcame ⊢
    rcases (removal_of_leads hcame.leads_of_ready).last with ⟨a, rfl, rfl⟩ | ⟨hreads, hnot⟩
    · have ha := World.answer_of_deletion hturn
      cases a with
      | ok =>
        cases heffect with
        | deleted id rows => exact .inr ⟨rows, hopen, rfl⟩
        | kept same quiet => cases quiet _ rfl
      | error f =>
        have hstays : isGone (.error f) = false := by
          cases hgone : isGone (.error f) with
          | false => rfl
          | true =>
            rw [ha] at hgone
            exact absurd (ha.trans (World.deleted_of_isGone (hrow hopen) hgone)) (by simp)
        refine .inl ⟨?_, ?_⟩
        · cases heffect with
          | kept same => exact same.rows
        · rw [hstays, hopen]
          rfl
    · refine .inl ⟨?_, ?_⟩
      · cases heffect with
        | created => cases hreads
        | updated => cases hreads
        | deleted => cases hreads
        | kept same => exact same.rows
      · rw [hopen]
        cases script with
        | done b => cases b <;> simp_all [Task.confirms, Task.outcome?]
        | fail f => rfl
        | ask q next => rfl

/-! ### The rows and the confirmed removals -/

/-- Removals of subscriptions on their way, from a store with certain rows: those that are left, and
one for each removal that has ended with yes. -/
structure Counted (e : Surroundings τ) (xs : List Subscription) (before : Dict (Outcome Subscription))
    (y : Pool Engine (World τ) Bool × World τ) : Prop where
  came : ∃ asked told, Pool.CameFrom (World.handler e) (xs.map remove) asked told y.1
  stands : ∀ (i : Nat) (t : Task Engine (World τ) Bool) (x : Subscription), y.1[i]? = some t →
    xs[i]? = some x → t.confirms = false →
    y.2.store.rows.contains x.id = true
  left : y.2.store.rows.entries.Sublist before.entries
  count : y.1.confirmed + y.2.store.rows.size = before.size

namespace Counted

variable {xs : List Subscription} {before : Dict (Outcome Subscription)}
  {y : Pool Engine (World τ) Bool × World τ}

theorem start (hstored : ∀ x ∈ xs, w.store.rows.contains x.id = true) (hrows : w.store.rows = before) :
    Counted e xs before ((xs.map remove).map .ready, w) where
  came := ⟨fun _ => [], fun _ => [], .start _ _ (fun _ => rfl) fun _ => rfl⟩
  stands i t x _ hx _ := hstored x (List.mem_of_getElem? hx)
  left := hrows ▸ .refl _
  count := by
    have hnone : Pool.confirmed ((xs.map remove).map .ready : Pool Engine (World τ) Bool) = 0 := by
      rw [Pool.confirmed_eq, List.countP_eq_zero]
      intro t ht
      simp only [List.map_map, List.mem_map, Function.comp_apply] at ht
      obtain ⟨x, -, rfl⟩ := ht
      simp [Task.confirms, remove_begins]
    rw [hnone, hrows, Nat.zero_add]

section Turn

variable {i : Nat} {t t' : Task Engine (World τ) Bool} {w' : World τ}

/-- A turn after which the rows are the same, and as much is confirmed. -/
theorem kept (hcounted : Counted e xs before y) (hi : y.1[i]? = some t)
    (hcame : ∃ asked told, Pool.CameFrom (World.handler e) (xs.map remove) asked told (y.1.set i t'))
    (hrows : w'.store.rows = y.2.store.rows) (hsame : t'.confirms = t.confirms) :
    Counted e xs before (y.1.set i t', w') where
  came := hcame
  stands j t₁ x₁ hj hx₁ hopen := by
    rw [hrows]
    obtain ⟨rfl, rfl⟩ | ⟨-, hj⟩ := getElem?_set_cases hj
    · exact hcounted.stands j t x₁ hi hx₁ (hsame ▸ hopen)
    · exact hcounted.stands j t₁ x₁ hj hx₁ hopen
  left := by
    rw [hrows]
    exact hcounted.left
  count := by
    have hcount := hcounted.count
    have hconfirmed := countP_set_of_getElem? (p := Task.confirms) (b := t') hi
    rw [hsame] at hconfirmed
    rw [Pool.confirmed_eq] at hcount
    simp only [Pool.confirmed_eq, hrows]
    omega

/-- A turn after which one more is confirmed and its row is gone. -/
theorem deleted {x : Subscription} (hcounted : Counted e xs before y)
    (hids : xs.Pairwise fun x y => x.id ≠ y.id) (hi : y.1[i]? = some t) (hx : xs[i]? = some x)
    (hcame : ∃ asked told, Pool.CameFrom (World.handler e) (xs.map remove) asked told (y.1.set i t'))
    (hrows : w'.store.rows = y.2.store.rows.erase x.id) (hopen : t.confirms = false)
    (hconfirms : t'.confirms = true) : Counted e xs before (y.1.set i t', w') where
  came := hcame
  stands j t₁ x₁ hj hx₁ hopen₁ := by
    obtain ⟨rfl, rfl⟩ | ⟨hji, hj⟩ := getElem?_set_cases hj
    · cases hconfirms.symm.trans hopen₁
    · -- The row of another removal stands under another id.
      have hid : x.id ≠ x₁.id := fun hid => hji (Chronicle.eq_of_pairwise hids hx₁ hx hid.symm)
      have hrow := hcounted.stands j t₁ x₁ hj hx₁ hopen₁
      rw [hrows, Dict.contains, Dict.get?_erase, if_neg hid]
      exact hrow
  left := by
    rw [hrows]
    exact List.filter_sublist.trans hcounted.left
  count := by
    have hcount := hcounted.count
    have hsize := Dict.size_erase (hcounted.stands i t x hi hx hopen)
    have hconfirmed := countP_set_of_getElem? (p := Task.confirms) (b := t') hi
    simp only [hopen, hconfirms, Bool.false_eq_true, if_false, if_true] at hconfirmed
    rw [Pool.confirmed_eq] at hcount
    simp only [Pool.confirmed_eq, hrows]
    omega

end Turn

theorem step (hcounted : Counted e xs before y) (hids : xs.Pairwise fun x y => x.id ≠ y.id)
    (i : Nat) : Counted e xs before (y.1.step (World.handler e) y.2 i) := by
  obtain ⟨asked, told, hpool⟩ := hcounted.came
  have hcame : ∃ asked told, Pool.CameFrom (World.handler e) (xs.map remove) asked told
      (y.1.step (World.handler e) y.2 i).1 :=
    ⟨_, _, hpool.step y.2 i (fun _ => rfl) fun _ => rfl⟩
  cases hi : y.1[i]? with
  | none =>
    have hsame : y.1.step (World.handler e) y.2 i = y := by simp [Pool.step, hi]
    rwa [hsame]
  | some t =>
    obtain ⟨x, hx⟩ : ∃ x, xs[i]? = some x := by
      have hlt := (List.getElem?_eq_some_iff.mp hi).1
      rw [hpool.length, List.length_map] at hlt
      exact ⟨xs[i], List.getElem?_eq_getElem hlt⟩
    obtain ⟨t', ht', htask⟩ := hpool.task i (remove x) (by simp [hx])
    obtain rfl := Option.some.inj (ht'.symm.trans hi)
    rw [Pool.step_of_getElem? hi] at hcame ⊢
    obtain ⟨hrows, hsame⟩ | ⟨hrows, hopen, hconfirms⟩ :=
      removal_turn htask (hcounted.stands i t' x hi hx)
    · exact hcounted.kept hi hcame hrows hsame
    · exact hcounted.deleted hids hi hx hcame hrows hopen hconfirms

theorem run (hcounted : Counted e xs before y) (hids : xs.Pairwise fun x y => x.id ≠ y.id)
    {g : Gathering} {y' : Pool Engine (World τ) Bool × World τ}
    (hcomes : g.Comes (World.handler e) y y') : Counted e xs before y' := by
  induction hcomes with
  | refl => exact hcounted
  | turn i before goes ih => exact ih.step hids i

end Counted

/-! ### The count of a session -/

namespace Session

variable {s : Session τ} {tracker : String} {xs : List Subscription}

theorem removing_counted (hkeyed : s.world.store.Keyed) (hlisted : (s.listingOf tracker).1 = .ok xs)
    {g : Gathering} {y : Pool Engine (World τ) Bool × World τ}
    (hcomes : g.Comes (World.handler s.surroundings)
      ((xs.map Engine.remove).map .ready, (s.listingOf tracker).2) y) :
    Counted s.surroundings xs s.world.store.rows y := by
  have hlist := Chronicle.listingOf_eq_ok hlisted
  have hrows := (Chronicle.listingOf_sameRows s tracker).rows
  refine (Counted.start (fun x hx => ?_) hrows).run
    (Store.pairwise_of_listSubscriptions hlist hkeyed) hcomes
  rw [hrows, Dict.contains, Store.get?_of_listSubscriptions hlist hkeyed hx]
  rfl

/-- Whether the limit cuts off the removal of a tracker's subscriptions. -/
def removalCutOff (s : Session τ) (tracker : String) : Bool :=
  match (s.listingOf tracker).1 with
  | .ok xs => (s.removing tracker xs).timedOut
  | .error _ => false

/-- A tracker drops the webhook of a subscription, or refuses to, within the limit of removals. -/
def DropsInTime (s : Session τ) (x : Subscription) : Prop :=
  ∀ ref trackers, x.trackerRef = some ref → ∃ d ≤ removalLimit,
    (s.surroundings.trackers.unsubscribe x.trackerName ref trackers).1.delay = some d

theorem removing_in_time (hdrops : ∀ x ∈ xs, s.DropsInTime x) :
    (s.removing tracker xs).timedOut = false := by
  have hquick : ∀ q w, Drops xs q →
      ∃ d ≤ removalLimit, (World.handler s.surroundings q w).1.delay = some d := by
    rintro q w ⟨x, hx, ref, href, rfl⟩
    exact hdrops x hx ref w.trackers href
  exact Gathering.run_in_time _ _ _ _ rfl (remove_waits xs) (World.handler_prompt _) (by simp) rfl
    hquick

/-- The number of subscriptions that a session reports as removed is the number of rows that are
gone, unless the limit cuts the removals off. Then it is zero, whatever is gone by that time. No
removal is cut off if the trackers of the subscriptions that are removed answer in time. -/
theorem count_of_removal (s : Session τ) (tracker : String) (hkeyed : s.world.store.Keyed) :
    let after := (s.remove tracker).2.world.store.rows
    after.entries.Sublist s.world.store.rows.entries ∧
      (s.removalCutOff tracker = false →
        (s.remove tracker).1 + after.size = s.world.store.rows.size) ∧
      (s.removalCutOff tracker = true → (s.remove tracker).1 = 0) ∧
      ((∀ x, s.world.store.rows.get? x.id = some (.ok x) →
          (trackerFilter tracker).all (· = x.trackerName) → s.DropsInTime x) →
        s.removalCutOff tracker = false) := by
  obtain ⟨hcount, hafter⟩ := s.remove_eq_removing tracker
  rw [hcount, hafter, removalCutOff]
  cases hlisted : (s.listingOf tracker).1 with
  | error f =>
    have hrows := (Chronicle.listingOf_sameRows s tracker).rows
    simp only [hrows]
    exact ⟨.refl _, fun _ => Nat.zero_add _, Bool.noConfusion, fun _ => trivial⟩
  | ok xs =>
    obtain ⟨pool, hcomes, hmirrors⟩ := s.removing_mirrors tracker xs
    obtain ⟨-, -, hleft, hconfirmed⟩ := removing_counted hkeyed hlisted hcomes
    have hlist := Chronicle.listingOf_eq_ok hlisted
    simp only
    refine ⟨hleft, fun htimed => ?_, fun htimed => by simp [removed, htimed], fun hdrops => ?_⟩
    · rw [removed_of_in_time (s.removing_settled tracker xs) hmirrors htimed]
      exact hconfirmed
    · obtain ⟨ys, -, hperm⟩ := Store.values_of_listSubscriptions hlist
      refine removing_in_time fun x hx => hdrops x
        (Store.get?_of_listSubscriptions hlist hkeyed hx) ?_
      simpa using (List.mem_filter.mp (hperm.mem_iff.mp hx)).2

end Session

/-- A subscription that its tracker knows. -/
def linked : Subscription :=
  { (default : Subscription) with id := "s1", trackerName := "desk", trackerRef := some "w1" }

/-- A subscription that its tracker does not know. -/
def unlinked : Subscription := { (default : Subscription) with id := "s2", trackerName := "desk" }

/-- A session with both stored, whose tracker takes its time to drop a webhook. -/
def twoStored (delay : Nat) : Session Unit where
  config := { server := { baseUrl := "http://localhost" } }
  surroundings :=
    { Course.desk with
      trackers :=
        { Course.desk.trackers with
          unsubscribe := fun _ _ s => ({ delay := some delay, settle := fun s => (.ok (), s) }, s) } }
  world :=
    { store := .memory
        { subscriptions := (Dict.empty.insert "s1" linked).insert "s2" unlinked }
      trackers := () }

theorem twoStored_keyed (delay : Nat) : (twoStored delay).world.store.Keyed := by
  intro id x hrow
  have hentry := (Dict.mem_entries_iff _ _ _).mpr hrow
  rcases List.mem_cons.mp hentry with hfirst | hrest
  · cases hfirst
    rfl
  · cases List.mem_singleton.mp hrest
    rfl

/-- Removals that end when the limit does are counted. -/
theorem answered_at_the_limit : (twoStored removalLimit).world.store.Keyed ∧
    ((twoStored removalLimit).remove "").1 +
      ((twoStored removalLimit).remove "").2.world.store.rows.size = 2 := by
  have hcount := (twoStored removalLimit).count_of_removal "" (twoStored_keyed removalLimit)
  have hdrops : ∀ x, (twoStored removalLimit).DropsInTime x := fun _ _ _ _ =>
    ⟨removalLimit, Nat.le_refl _, rfl⟩
  exact ⟨twoStored_keyed removalLimit, hcount.2.1 (hcount.2.2.2 fun x _ _ => hdrops x)⟩

theorem twoStored_listed (delay : Nat) :
    ((twoStored delay).listingOf "").1 = .ok [linked, unlinked] := by
  have hsorted : listed none [linked, unlinked] = [linked, unlinked] :=
    List.mergeSort_of_pairwise (by decide)
  exact congrArg Except.ok hsorted

/-- A tracker that takes longer than the limit keeps its own row only, but no removal is reported. -/
theorem removal_before_the_limit_not_counted : (twoStored 31000).world.store.Keyed ∧
    ((twoStored 31000).remove "").1 = 0 ∧ (twoStored 31000).world.store.rows.size = 2 ∧
    ((twoStored 31000).remove "").2.world.store.rows.keys = ["s1"] := by
  obtain ⟨hcount, hafter⟩ := (twoStored 31000).remove_eq_removing ""
  rw [hcount, hafter, twoStored_listed]
  refine ⟨twoStored_keyed 31000, ?_, ?_, ?_⟩ <;> decide +kernel

end Engine
end TicketSync
