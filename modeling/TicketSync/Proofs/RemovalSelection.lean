import TicketSync.CommandLine.Report
import TicketSync.Proofs.RemovalCount

/-! # Which subscriptions a removal tries

The removals of some subscriptions run side by side. The questions that are asked in their turns are
recorded, and so are the answers, each with the index of the subscription whose removal asks. Each
removal asks all until its tracker has to answer, goes on when the webhook is gone, and asks about
its own subscription only; the log tells what was asked. So what the program removes for an argument
is told by which rows it lists for it. It lists the rows that the list of subscriptions shows for
the same argument, except for the empty text: there the list shows nothing but rows of a tracker
without a name, while the removal takes all rows. -/
namespace TicketSync

/-! ### What is asked in turns -/

namespace Gathering

variable {D : Dialogue} {σ α : Type} {g : Gathering} {h : Handler D σ} {x y : Pool D σ α × σ}

/-- A pool and its state after turns that it takes while it does not rest, with the questions that
are asked in these turns and the exchanges that are completed, in order, each with the index of the
task whose turn it is. -/
inductive Records (g : Gathering) (h : Handler D σ) (x : Pool D σ α × σ) :
    List (Nat × D.Question) → List (Nat × Exchange D) → Pool D σ α × σ → Prop
  | refl : Records g h x [] [] x
  | turn {asked : List (Nat × D.Question)} {told : List (Nat × Exchange D)} {y : Pool D σ α × σ}
      (i : Nat) (before : Records g h x asked told y) (goes : g.rests y.1 = false) :
      Records g h x (asked ++ ((y.1.question? i).map (i, ·)).toList)
        (told ++ ((y.1.exchange? h y.2 i).map (i, ·)).toList) (y.1.step h y.2 i)

theorem Comes.records (hcomes : g.Comes h x y) : ∃ asked told, g.Records h x asked told y := by
  induction hcomes with
  | refl => exact ⟨[], [], .refl⟩
  | turn i before goes ih =>
    obtain ⟨asked, told, hrecords⟩ := ih
    exact ⟨_, _, hrecords.turn i goes⟩

end Gathering

namespace Engine

variable {τ : Type} {e : Surroundings τ} {w w' : World τ} {x : Subscription}
  {xs : List Subscription}

/-! ### What one removal asks -/

/-- What the removal of a subscription asks, in order, while the answers let it go on. Nothing is
asked of a tracker that is not among the registered ones. -/
def removalSteps (names : List String) (x : Subscription) : List Question :=
  match x.trackerRef with
  | none => [.deleteSubscription x.id]
  | some ref =>
    if x.trackerName ∈ names then
      [.isRegistered x.trackerName, .unsubscribe x.trackerName ref, .deleteSubscription x.id]
    else [.isRegistered x.trackerName]

/-- What the removal of a subscription asks at least: all until its tracker has to answer. -/
def removalStart (names : List String) (x : Subscription) : List Question :=
  match x.trackerRef with
  | none => [.deleteSubscription x.id]
  | some ref =>
    if x.trackerName ∈ names then [.isRegistered x.trackerName, .unsubscribe x.trackerName ref]
    else [.isRegistered x.trackerName]

/-- What an answer says that a tracker gives when a webhook is there no more: it was dropped, or not
found. -/
def SaysGone (a : Outcome Unit) : Prop := a = .ok () ∨ ∃ what key, a = .error (.notFound what key)

theorem isGone_of_saysGone {a : Outcome Unit} (h : SaysGone a) : isGone a = true := by
  rcases h with rfl | ⟨what, key, rfl⟩ <;> rfl

/-- How far a removal has gone that can go no further by itself, from what it has asked and was
told: it has asked all until its tracker has to answer, at most what it asks in all, and all of that
if its webhook is gone. -/
structure Attempt (names : List String) (x : Subscription) (asked : List Question)
    (told : List (Exchange Engine)) : Prop where
  begun : removalStart names x <+: asked
  within : asked <+: removalSteps names x
  finished : ∀ ref a, x.trackerRef = some ref → ⟨.unsubscribe x.trackerName ref, a⟩ ∈ told →
    SaysGone a → asked = removalSteps names x

/-- What the log says about a question of a removal. -/
def Question.removalEvent? : Question → Option Event
  | .unsubscribe tracker ref => some (.unsubscribed tracker ref)
  | .deleteSubscription id => some (.wrote .deleteSubscription id)
  | _ => none

section Known

/-! The steps of a removal once it is known whether its tracker is registered. -/

variable {ref : String} {known : Bool}

theorem removalSteps_of_known (hasRef : x.trackerRef = some ref)
    (hknown : (World.handler e).Gives ⟨.isRegistered x.trackerName, known⟩) :
    removalSteps e.trackers.names x =
      if known then [.isRegistered x.trackerName, .unsubscribe x.trackerName ref,
        .deleteSubscription x.id] else [.isRegistered x.trackerName] := by
  rw [isRegistered_given hknown]
  simp [removalSteps, hasRef]

theorem removalStart_of_known (hasRef : x.trackerRef = some ref)
    (hknown : (World.handler e).Gives ⟨.isRegistered x.trackerName, known⟩) :
    removalStart e.trackers.names x =
      if known then [.isRegistered x.trackerName, .unsubscribe x.trackerName ref]
      else [.isRegistered x.trackerName] := by
  rw [isRegistered_given hknown]
  simp [removalStart, hasRef]

end Known

/-- A removal asks first whether the tracker of its webhook is registered, or deletes its row where
no webhook is known. -/
theorem first_of_remove {q : Dialogue.Question Engine}
    {next : Dialogue.Answer Engine q → Script Engine Bool} (hask : remove x = .ask q next) :
    x.trackerRef = none ∧ q = .deleteSubscription x.id ∨
      ∃ ref, x.trackerRef = some ref ∧ q = .isRegistered x.trackerName := by
  cases href : x.trackerRef with
  | none =>
    simp only [remove, href, discard, inquire, Script.bind_eq, Script.ask_bind] at hask
    cases hask
    exact .inl ⟨rfl, rfl⟩
  | some ref =>
    simp only [remove, href, inquire, Script.bind_eq, Script.ask_bind] at hask
    cases hask
    exact .inr ⟨ref, rfl, rfl⟩

/-- The questions that were answered, and the one that a removal has come to, are its first ones. -/
theorem Removal.asks_in_order {told : List (Exchange Engine)} {rest : Script Engine Bool}
    (h : Removal x told rest) (hgiven : ∀ ex ∈ told, (World.handler e).Gives ex) :
    told.map (·.question) <+: removalSteps e.trackers.names x ∧
      ∀ q next, rest = .ask q next →
        told.map (·.question) ++ [q] <+: removalSteps e.trackers.names x := by
  cases h with
  | begun =>
    refine ⟨List.nil_prefix, fun q next hask => ?_⟩
    rcases first_of_remove hask with ⟨href, rfl⟩ | ⟨ref, href, rfl⟩
    · simp [removalSteps, href]
    · simp only [removalSteps, href]
      split <;> simp
  | bare noRef => simp [removalSteps, noRef]
  | orphan hasRef =>
    rw [removalSteps_of_known hasRef (hgiven _ List.mem_cons_self)]
    simp
  | known hasRef =>
    rw [removalSteps_of_known hasRef (hgiven _ List.mem_cons_self)]
    refine ⟨by simp, fun q next hask => ?_⟩
    cases hask
    simp
  | kept hasRef =>
    rw [removalSteps_of_known hasRef (hgiven _ List.mem_cons_self)]
    simp
  | gone hasRef =>
    rw [removalSteps_of_known hasRef (hgiven _ List.mem_cons_self)]
    refine ⟨by simp, fun q next hask => ?_⟩
    cases hask
    simp
  | deleted hasRef =>
    rw [removalSteps_of_known hasRef (hgiven _ List.mem_cons_self)]
    simp

/-- A removal that waits for an answer waits for its tracker's. -/
theorem Removal.attempt_of_slow {told : List (Exchange Engine)} {q : Dialogue.Question Engine}
    {next : Dialogue.Answer Engine q → Script Engine Bool} (h : Removal x told (.ask q next))
    (hgiven : ∀ ex ∈ told, (World.handler e).Gives ex)
    (hslow : (World.handler e q w).1.delay ≠ some 0) :
    Attempt e.trackers.names x (told.map (·.question) ++ [q]) told := by
  have hwithin := (h.asks_in_order hgiven).2 q next rfl
  generalize hrest : Script.ask q next = rest at h
  cases h with
  | begun =>
    rcases first_of_remove hrest.symm with ⟨-, rfl⟩ | ⟨-, -, rfl⟩
    · exact absurd (World.delay_of_writesRows rfl w) hslow
    · exact absurd rfl hslow
  | known hasRef =>
    cases hrest
    refine ⟨?_, hwithin, fun ref a _ hmem _ => ?_⟩
    · rw [removalStart_of_known hasRef (hgiven _ List.mem_cons_self)]
      simp
    · cases List.mem_singleton.mp hmem
  | gone hasRef =>
    cases hrest
    exact absurd (World.delay_of_writesRows rfl w) hslow
  | _ => cases hrest

/-- A removal that has ended without asking all was told that its tracker is not registered, or that
it keeps the webhook. -/
theorem Removal.attempt_of_ended {told : List (Exchange Engine)} {r : Outcome Bool}
    (h : Removal x told (.ofOutcome r)) (hgiven : ∀ ex ∈ told, (World.handler e).Gives ex) :
    Attempt e.trackers.names x (told.map (·.question)) told := by
  have hwithin := (h.asks_in_order hgiven).1
  generalize hrest : (Script.ofOutcome r : Script Engine Bool) = rest at h
  cases h with
  | begun =>
    have hbegins := remove_begins (σ := World τ) x
    rw [← hrest, Task.outcome?_ofOutcome] at hbegins
    cases hbegins
  | bare noRef =>
    exact ⟨by simp [removalStart, noRef], hwithin, fun ref a href => by cases noRef.symm.trans href⟩
  | orphan hasRef =>
    refine ⟨?_, hwithin, fun ref a _ hmem _ => ?_⟩
    · rw [removalStart_of_known hasRef (hgiven _ List.mem_cons_self)]
      simp
    · cases List.mem_singleton.mp hmem
  | known => cases r <;> cases hrest
  | kept hasRef b stays =>
    refine ⟨?_, hwithin, fun ref a _ hmem hgone => ?_⟩
    · rw [removalStart_of_known hasRef (hgiven _ List.mem_cons_self)]
      simp
    · simp only [List.mem_cons, List.not_mem_nil, or_false] at hmem
      rcases hmem with hother | hsame
      · cases hother
      · cases hsame
        exact absurd (stays.symm.trans (isGone_of_saysGone hgone)) Bool.false_ne_true
  | gone => cases r <;> cases hrest
  | deleted hasRef =>
    refine ⟨?_, hwithin, fun ref a _ _ _ => ?_⟩
    · rw [removalStart_of_known hasRef (hgiven _ List.mem_cons_self)]
      simp
    · rw [removalSteps_of_known hasRef (hgiven _ List.mem_cons_self)]
      simp

theorem attempt_of_paused {asked : List (Dialogue.Question Engine)}
    {told : List (Exchange Engine)} {t : Task Engine (World τ) Bool}
    (hcame : Task.CameFrom (World.handler e) (remove x) asked told t)
    (hgiven : ∀ ex ∈ told, (World.handler e).Gives ex)
    (hpaused : (∃ delay wake, t.PausedAt (.asleep delay wake)) ∨ t.outcome?.isSome = true) :
    Attempt e.trackers.names x asked told := by
  rcases hpaused with ⟨delay, wake, hpaused⟩ | hended
  · cases hpaused with
    | asleep q answer next =>
      cases hcame with
      | waiting w leads slow => exact (removal_of_leads leads).attempt_of_slow hgiven slow
  · obtain ⟨r, hr⟩ := Option.isSome_iff_exists.mp hended
    obtain ⟨hleads, rfl⟩ := hcame.leads_of_outcome hr
    exact (removal_of_leads hleads).attempt_of_ended hgiven

/-! ### What a question of a removal leaves in the log -/

/-- Whether a question is one that removals ask. -/
def Question.removes : Question → Bool
  | .isRegistered _ | .unsubscribe _ _ | .deleteSubscription _ => true
  | _ => false

theorem remove_asks_removes (x : Subscription) :
    (remove x).Asks fun q => Question.removes q = true :=
  remove_asks x rfl (fun _ _ => rfl) rfl

/-- Where no operation of the store is made to fail, the log tells which webhooks and rows were to
be removed. -/
theorem World.log_of_asked {q : Question} (hq : q.removes = true) (hfaults : w.faults = []) :
    (World.handler e q w).2.log = w.log ++ q.removalEvent?.toList ∧
      (World.handler e q w).2.faults = [] := by
  cases q with
  | isRegistered tracker => exact ⟨(List.append_nil _).symm, hfaults⟩
  | unsubscribe tracker ref => exact ⟨rfl, hfaults⟩
  | deleteSubscription id =>
    have hgoes : (World.handler e (.deleteSubscription id) w).2 =
        ((w.note (.wrote .deleteSubscription id)).keep (w.store.deleteSubscription id)).2 := by
      simp [World.handler, World.atOnce, World.deleteSubscription, World.guarded, hfaults]
    rw [hgoes]
    cases w.store.deleteSubscription id <;> exact ⟨rfl, hfaults⟩
  | _ => cases hq

theorem World.log_of_answered {q : Question} (hq : q.removes = true) (w w' : World τ) :
    ((World.handler e q w).1.finish w').2.log = w'.log ∧
      ((World.handler e q w).1.finish w').2.faults = w'.faults := by
  cases q with
  | isRegistered => exact ⟨rfl, rfl⟩
  | unsubscribe => exact ⟨rfl, rfl⟩
  | deleteSubscription => exact ⟨rfl, rfl⟩
  | _ => cases hq

theorem World.log_of_turn {q? : Option (Dialogue.Question Engine)} {x? : Option (Exchange Engine)}
    (h : Task.Turn (World.handler e) w q? x? w')
    (hasked : ∀ q, q? = some q → Question.removes q = true)
    (hanswered : ∀ ex, x? = some ex → Question.removes ex.question = true)
    (hfaults : w.faults = []) :
    w'.log = w.log ++ (q?.bind Question.removalEvent?).toList ∧ w'.faults = [] := by
  cases h with
  | rest => exact ⟨(List.append_nil _).symm, hfaults⟩
  | prompt q =>
    obtain ⟨hlog, hquiet⟩ := World.log_of_asked (e := e) (hasked q rfl) hfaults
    obtain ⟨hlog', hquiet'⟩ :=
      World.log_of_answered (e := e) (hasked q rfl) w (World.handler e q w).2
    exact ⟨hlog'.trans hlog, hquiet'.trans hquiet⟩
  | asked q => exact World.log_of_asked (hasked q rfl) hfaults
  | answered q w₀ =>
    obtain ⟨hlog, hquiet⟩ := World.log_of_answered (e := e) (hanswered _ rfl) w₀ w
    exact ⟨hlog.trans (List.append_nil _).symm, hquiet.trans hfaults⟩

/-! ### Removals side by side -/

/-- Removals of subscriptions on their way from a world, with what was asked and told in their
turns: each has come from its own script with what it has asked and was told. The log tells what was
asked, and no rows have changed but those of the subscriptions. -/
structure Asking (e : Surroundings τ) (xs : List Subscription) (before : World τ)
    (asked : List (Nat × Dialogue.Question Engine)) (told : List (Nat × Exchange Engine))
    (y : Pool Engine (World τ) Bool × World τ) : Prop where
  came : Pool.CameFrom (World.handler e) (xs.map remove) (entriesOf · asked) (entriesOf · told) y.1
  given : ∀ y ∈ told, (World.handler e).Gives y.2
  faultless : y.2.faults = []
  log : y.2.log = before.log ++ asked.filterMap fun q => Question.removalEvent? q.2
  rows : ∀ id, (∀ x ∈ xs, x.id ≠ id) → y.2.store.rows.get? id = before.store.rows.get? id

/-- A turn of removals leaves the rows of all other subscriptions. -/
theorem rows_of_turn {asked : Nat → List (Dialogue.Question Engine)}
    {told : Nat → List (Exchange Engine)} {pool : Pool Engine (World τ) Bool} {i : Nat}
    {id : String}
    (hpool : Pool.CameFrom (World.handler e) (xs.map remove) asked told pool)
    (hid : ∀ x ∈ xs, x.id ≠ id) :
    (pool.step (World.handler e) w i).2.store.rows.get? id = w.store.rows.get? id := by
  have heffect := World.rowEffect_of_turn (hpool.turn w i)
  have hown : ∀ ex, pool.exchange? (World.handler e) w i = some ex →
      Question.removes ex.question = true ∧
        ∀ id, ex.question = .deleteSubscription id → ∃ x ∈ xs, x.id = id := by
    intro ex hex
    obtain ⟨script, hmem, hasks⟩ := hpool.exchange_asked hex
    obtain ⟨x, hx, rfl⟩ := List.mem_map.mp (List.mem_of_getElem? hmem)
    refine ⟨hasks _ (remove_asks_removes x), fun id hdelete => ⟨x, hx, ?_⟩⟩
    exact hasks (fun q => ∀ id, q = .deleteSubscription id → x.id = id)
      (remove_asks x (by simp) (by simp) (by simp)) id hdelete
  generalize pool.exchange? (World.handler e) w i = x? at heffect hown
  cases heffect with
  | created => cases (hown _ rfl).1
  | updated => cases (hown _ rfl).1
  | deleted id' rows =>
    obtain ⟨x, hx, rfl⟩ := (hown _ rfl).2 id' rfl
    rw [rows, Dict.get?_erase, if_neg (hid x hx)]
  | kept same => rw [same.rows]

namespace Asking

variable {before : World τ} {asked : List (Nat × Dialogue.Question Engine)}
  {told : List (Nat × Exchange Engine)} {y : Pool Engine (World τ) Bool × World τ}

theorem start (hfaults : w.faults = []) :
    Asking e xs w [] [] ((xs.map remove).map .ready, w) where
  came := .start _ _ (fun _ => rfl) fun _ => rfl
  given := by simp
  faultless := hfaults
  log := (List.append_nil _).symm
  rows _ _ := rfl

theorem step (h : Asking e xs before asked told y) (i : Nat) :
    Asking e xs before (asked ++ ((y.1.question? i).map (i, ·)).toList)
      (told ++ ((y.1.exchange? (World.handler e) y.2 i).map (i, ·)).toList)
      (y.1.step (World.handler e) y.2 i) := by
  have hturn := h.came.turn y.2 i
  have hscript : ∀ script ∈ xs.map remove, script.Asks fun q => Question.removes q = true := by
    intro script hscript
    obtain ⟨x, -, rfl⟩ := List.mem_map.mp hscript
    exact remove_asks_removes x
  obtain ⟨hlog, hfaults⟩ := World.log_of_turn hturn
    (fun q hq => h.came.question_asked hscript hq)
    (fun ex hex => by
      obtain ⟨script, hmem, hasks⟩ := h.came.exchange_asked hex
      exact hasks _ (hscript script (List.mem_of_getElem? hmem))) h.faultless
  refine ⟨h.came.step y.2 i (fun j => ?_) (fun j => ?_), fun z hz => ?_, hfaults, ?_,
    fun id hid => ?_⟩
  · rw [entriesOf_append, entriesOf_toList]
  · rw [entriesOf_append, entriesOf_toList]
  · rcases List.mem_append.mp hz with hz | hz
    · exact h.given z hz
    · obtain ⟨ex, hex, rfl⟩ := Option.map_eq_some_iff.mp (Option.mem_toList.mp hz)
      exact hturn.gives ex hex
  · rw [hlog, h.log, List.filterMap_append, List.append_assoc]
    cases y.1.question? i <;> rfl
  · rw [← h.rows id hid]
    exact rows_of_turn h.came hid

theorem run {g : Gathering} (hfaults : w.faults = [])
    (hrecords : g.Records (World.handler e) ((xs.map remove).map .ready, w) asked told y) :
    Asking e xs w asked told y := by
  induction hrecords with
  | refl => exact start hfaults
  | turn i before goes ih => exact ih.step i

end Asking

/-! ### The removals of a session -/

/-- Between two worlds the removals of some subscriptions were tried, with what was asked and told,
each entry with the index of the subscription that it is for: each removal went as far as it could
by itself, and nothing else was asked. The log tells what was asked, and all other rows are as they
were. -/
structure Tried (names : List String) (xs : List Subscription) (asked : List (Nat × Question))
    (told : List (Nat × Exchange Engine)) (w w' : World τ) : Prop where
  attempts : ∀ i x, xs[i]? = some x → Attempt names x (entriesOf i asked) (entriesOf i told)
  noOther : ∀ y ∈ asked, y.1 < xs.length
  log : w'.log = w.log ++ asked.filterMap fun y => y.2.removalEvent?
  rows : ∀ id, (∀ x ∈ xs, x.id ≠ id) → w'.store.rows.get? id = w.store.rows.get? id

/-- What a removal has to ask is in the log. -/
theorem Tried.logged {names : List String} {asked : List (Nat × Question)}
    {told : List (Nat × Exchange Engine)} {i : Nat} {q : Question} {event : Event}
    (h : Tried names xs asked told w w') (hx : xs[i]? = some x) (hq : q ∈ removalStart names x)
    (hevent : q.removalEvent? = some event) : event ∈ w'.log := by
  have hasked : (i, q) ∈ asked := mem_entriesOf.mp ((h.attempts i x hx).begun.subset hq)
  rw [h.log]
  exact List.mem_append_right _ (List.mem_filterMap.mpr ⟨_, hasked, hevent⟩)

namespace Session

variable {s : Session τ} {tracker : String}

/-- Listing changes nothing where no operation of the store is made to fail. -/
theorem listingOf_of_faultless (tracker : String) (hfaults : s.world.faults = []) :
    s.listingOf tracker = (s.world.store.listSubscriptions (trackerFilter tracker), s.world) := by
  simp [listingOf, Handler.atOnce, World.handler, World.atOnce, World.guarded, Pending.now, hfaults]

/-- A session tries to remove all the subscriptions that it lists for a tracker, and no other. -/
theorem remove_tries (hfaults : s.world.faults = [])
    (hlisted : s.world.store.listSubscriptions (trackerFilter tracker) = .ok xs) :
    ∃ asked told pool, removals.Records (World.handler s.surroundings)
        ((xs.map Engine.remove).map .ready, s.world) asked told
        (pool, (s.remove tracker).2.world) ∧
      Tried s.surroundings.trackers.names xs asked told s.world (s.remove tracker).2.world := by
  have hlisting := listingOf_of_faultless tracker hfaults
  obtain ⟨-, hafter⟩ := s.remove_eq_removing tracker
  obtain ⟨pool, hcomes, hmirrors⟩ := s.removing_mirrors tracker xs
  simp only [hlisting, hlisted] at hafter hcomes
  rw [hafter]
  obtain ⟨asked, told, hrecords⟩ := hcomes.records
  have hasking := Asking.run hfaults hrecords
  refine ⟨asked, told, pool, hrecords, fun i x hx => ?_, fun y hy => ?_, hasking.log, hasking.rows⟩
  · obtain ⟨t, ht, hcame⟩ := hasking.came.task i (Engine.remove x) (by simp [hx])
    exact attempt_of_paused hcame (fun ex hex => hasking.given _ (mem_entriesOf.mp hex))
      (hmirrors.paused rfl rfl ht)
  · refine Nat.lt_of_not_le fun hle => ?_
    have hnone := (hasking.came.silent y.1 (by simpa using hle)).1
    have hmem : y.2 ∈ entriesOf y.1 asked := mem_entriesOf.mpr hy
    rw [hnone] at hmem
    cases hmem

end Session

end Engine

/-! ### The program -/

namespace CommandLine

open Engine

variable {τ : Type} {h : Host τ} {path : String} {tracker : Option String} {c : Config}
  {store : Store} {xs : List Subscription}

/-- An empty name stands for all trackers in a removal, and so does none at all. -/
theorem trackerFilter_getD (tracker : Option String) :
    trackerFilter (tracker.getD "") = if tracker = some "" then none else tracker := by
  cases tracker with
  | none => rfl
  | some name => by_cases hname : name = "" <;> simp [trackerFilter, hname]

theorem listSubscriptions_eq (hload : loadConfig h path = .ok c)
    (hopen : openStore h c.store = .ok store) (json : Bool) (tracker : Option String) :
    listSubscriptions h path json tracker =
      match store.listSubscriptions tracker with
      | .ok xs => ({ output := subscriptionsText json xs } : Report).leaving c.store store
      | .error f => .failed f.message := by
  simp only [listSubscriptions, hload, hopen, bind, Except.bind]
  cases store.listSubscriptions tracker <;> rfl

theorem leaving_output (r : Report) (config : StoreConfig) (store : Store) :
    (r.leaving config store).output = r.output := by
  unfold Report.leaving
  split <;> rfl

/-- The report that is left is saved with the store, whatever it says. -/
theorem leaving_saved {r r' : Report} (hsaved : r.saved = r'.saved) (config : StoreConfig)
    (store : Store) : (r.leaving config store).saved = (r'.leaving config store).saved := by
  unfold Report.leaving
  split
  · rfl
  · exact hsaved

/-- A new session lists what its store lists, and is as it was. -/
theorem newSession_lists (scope : String) :
    (newSession h c store).perform (Engine.listSubscriptions scope) =
      (store.listSubscriptions (trackerFilter scope), newSession h c store) := by
  rw [Session.perform_listingOf, Session.listingOf_of_faultless scope rfl]
  rfl

section Removal

variable (hload : loadConfig h path = .ok c) (hopen : openStore h c.store = .ok store)
  (hconnect : connectTrackers h c = .ok ())
include hload hopen hconnect

theorem removeWebhooks_of_ok (json : Bool)
    (hlisted : store.listSubscriptions (trackerFilter (tracker.getD "")) = .ok xs) :
    let after := (newSession h c store).remove (tracker.getD "")
    (removeWebhooks h path json tracker).output = removalText json after.1 xs.length ∧
      (removeWebhooks h path json tracker).saved =
        (({} : Report).leaving c.store after.2.world.store).saved := by
  intro after
  simp only [removeWebhooks, hload, hopen, hconnect, newSession_lists, hlisted, bind, Except.bind]
  refine ⟨(leaving_output _ _ _).trans ?_, leaving_saved ?_ _ _⟩
  · split <;> exact String.append_empty
  · split <;> rfl

theorem removeWebhooks_of_error (json : Bool) {f : Failure}
    (hlisted : store.listSubscriptions (trackerFilter (tracker.getD "")) = .error f) :
    removeWebhooks h path json tracker = .failed f.message := by
  simp only [removeWebhooks, hload, hopen, hconnect, newSession_lists, hlisted, bind, Except.bind]
  rfl

end Removal

/-- For an argument the removal tries the subscriptions that are listed for the same argument, each
of them and no other, which is told by the questions that are asked in its turns; but for the empty
text it tries those that are listed without an argument. Both commands fail alike where the store
cannot be read. -/
theorem removal_tries_what_is_listed (hload : loadConfig h path = .ok c)
    (hopen : openStore h c.store = .ok store) (hconnect : connectTrackers h c = .ok ())
    (json : Bool) (tracker : Option String) :
    let shown := if tracker = some "" then none else tracker
    let before := newSession h c store
    let after := before.remove (tracker.getD "")
    (∀ f, store.listSubscriptions shown = .error f →
      listSubscriptions h path json shown = .failed f.message ∧
        removeWebhooks h path json tracker = .failed f.message) ∧
    (∀ xs, store.listSubscriptions shown = .ok xs →
      (listSubscriptions h path json shown).output = subscriptionsText json xs ∧
        (removeWebhooks h path json tracker).output = removalText json after.1 xs.length ∧
        (removeWebhooks h path json tracker).saved =
          (({} : Report).leaving c.store after.2.world.store).saved ∧
        (∀ x ∈ xs, shown.all (· = x.trackerName)) ∧
        ∃ asked told pool, removals.Records (World.handler before.surroundings)
            ((xs.map Engine.remove).map .ready, before.world) asked told (pool, after.2.world) ∧
          Tried before.surroundings.trackers.names xs asked told before.world after.2.world) := by
  intro shown before after
  have hfilter : trackerFilter (tracker.getD "") = shown := trackerFilter_getD tracker
  refine ⟨fun f hfails => ?_, fun xs hlisted => ?_⟩
  · rw [listSubscriptions_eq hload hopen, hfails]
    exact ⟨rfl, removeWebhooks_of_error hload hopen hconnect json (hfilter ▸ hfails)⟩
  · have hremoves := removeWebhooks_of_ok hload hopen hconnect json
      (hfilter.symm ▸ hlisted : store.listSubscriptions (trackerFilter (tracker.getD "")) = .ok xs)
    refine ⟨?_, hremoves.1, hremoves.2, fun x hx => ?_, ?_⟩
    · rw [listSubscriptions_eq hload hopen, hlisted]
      exact leaving_output _ _ _
    · obtain ⟨ys, -, hperm⟩ := Store.values_of_listSubscriptions hlisted
      exact (List.mem_filter.mp (hperm.mem_iff.mp hx)).2
    · exact before.remove_tries rfl (hfilter.symm ▸ hlisted)

/-- A subscription that another tracker knows. -/
def elsewhere : Subscription :=
  { (default : Subscription) with id := "s3", trackerName := "board", trackerRef := some "w3" }

/-- A store on disk with rows of two trackers, of which one row has no webhook. -/
def hallStore : DiskStore where
  subscriptions := ((Dict.empty.insert "s1" linked.toJson).insert "s2" unlinked.toJson).insert "s3"
    elsewhere.toJson

/-- A machine with this store that reaches both trackers. -/
def hall : Host Unit where
  file _ := .text ("server:\n  base_url: http://x\ntrackers:\n" ++
    "  - name: desk\n    plugin:\n      address: a\n" ++
    "  - name: board\n    plugin:\n      address: b\n")
  disk _ := .ok hallStore
  launch _ := .ok ()
  dial _ := .ok ()
  bind _ := .ok ()
  surroundings :=
    { Course.desk with trackers := { Course.desk.trackers with names := ["desk", "board"] } }
  trackers := ()

theorem hall_listed :
    (Store.disk hallStore).listSubscriptions (some "desk") = .ok [linked, unlinked] := by
  have hread : hallStore.subscriptions.values.mapM (DiskStore.readRecord Subscription.ofJson?) =
      .ok [linked, unlinked, elsewhere] := rfl
  have hkept : listed (some "desk") [linked, unlinked, elsewhere] = [linked, unlinked] :=
    List.mergeSort_of_pairwise (by decide)
  rw [Store.listSubscriptions, DiskStore.listSubscriptions, hread]
  exact congrArg Except.ok hkept

theorem hall_ready : ∃ c, loadConfig hall "p" = .ok c ∧
    openStore hall c.store = .ok (.disk hallStore) ∧ connectTrackers hall c = .ok () := by
  have hready : ((loadConfig hall "p").bind fun c => (connectTrackers hall c).map fun _ =>
      c.store).toOption = some (.disk "tracksync.redb") := by decide +kernel
  cases hload : loadConfig hall "p" with
  | error reason =>
    rw [hload] at hready
    cases hready
  | ok c =>
    rw [hload] at hready
    change ((connectTrackers hall c).map fun _ => c.store).toOption = _ at hready
    refine ⟨c, rfl, ?_⟩
    cases hconnect : connectTrackers hall c with
    | error reason =>
      rw [hconnect] at hready
      cases hready
    | ok =>
      rw [hconnect] at hready
      have hstore : c.store = .disk "tracksync.redb" := Option.some.inj hready
      rw [hstore]
      exact ⟨rfl, rfl⟩

/-- A removal for one of two trackers asks it to drop its webhook, deletes its row that has none,
and leaves the row of the other one. -/
theorem removal_of_desk_keeps_board : ∃ c, loadConfig hall "p" = .ok c ∧
    openStore hall c.store = .ok (.disk hallStore) ∧ connectTrackers hall c = .ok () ∧
    (listSubscriptions hall "p" false (some "desk")).output =
      subscriptionsText false [linked, unlinked] ∧
    let before := newSession hall c (.disk hallStore)
    let after := before.remove "desk"
    (∃ asked told pool, removals.Records (World.handler before.surroundings)
        (([linked, unlinked].map Engine.remove).map .ready, before.world) asked told
        (pool, after.2.world) ∧
      Tried ["desk", "board"] [linked, unlinked] asked told before.world after.2.world) ∧
    .unsubscribed "desk" "w1" ∈ after.2.world.log ∧
    .wrote .deleteSubscription "s2" ∈ after.2.world.log ∧
    after.2.world.store.rows.get? "s3" = some (.ok elsewhere) := by
  obtain ⟨c, hload, hopen, hconnect⟩ := hall_ready
  obtain ⟨houtput, -, -, -, asked, told, pool, hrecords, htried⟩ := (removal_tries_what_is_listed
    hload hopen hconnect false (some "desk")).2 [linked, unlinked] hall_listed
  refine ⟨c, hload, hopen, hconnect, houtput, ?_⟩
  intro before after
  have htries : Tried ["desk", "board"] [linked, unlinked] asked told before.world
    after.2.world := htried
  refine ⟨⟨asked, told, pool, hrecords, htries⟩, ?_, ?_, ?_⟩
  · exact htries.logged (i := 0) rfl (q := .unsubscribe "desk" "w1") (by decide) rfl
  · exact htries.logged (i := 1) rfl (q := .deleteSubscription "s2") (by decide) rfl
  · rw [htries.rows "s3" (by decide)]
    rfl

/-- A store on disk with a subscription that its tracker does not know. -/
def officeStore : DiskStore := { subscriptions := Dict.empty.insert "s2" unlinked.toJson }

/-- A machine with this store, whose configuration names no trackers. -/
def office : Host Unit where
  file _ := .text "server: \x7bbase_url: http://x\x7d\n"
  disk _ := .ok officeStore
  launch _ := .ok ()
  dial := dialOffline
  bind _ := .ok ()
  surroundings := { Course.desk with trackers := noTrackers }
  trackers := ()

/-- For the empty name nothing is listed, and the subscription of a tracker with a name is
removed. -/
theorem empty_name_removes_unlisted :
    (listSubscriptions office "p" false (some "")).output = "no subscriptions\n" ∧
    (removeWebhooks office "p" false (some "")).output = "removed 1 of 1 subscriptions\n" ∧
    unlinked.trackerName = "desk" ∧
    ((removeWebhooks office "p" false (some "")).saved.map fun s => s.2.subscriptions.keys) =
      some [] := by
  decide +kernel

end CommandLine
end TicketSync
