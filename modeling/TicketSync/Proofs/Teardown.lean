import TicketSync.Proofs.SessionStore

/-! # The teardown of a session

However a session got there, its teardown lists the stored subscriptions once and removes each of
them on its own. A row with a reference is deleted only after its tracker has said that the webhook
is gone. What carries this through every order of the removals is that a row is left exactly as long
as its own removal has not deleted it. -/
namespace TicketSync.Engine

variable {τ : Type}

/-! ### One removal -/

/-- How far the removal of a subscription can be, with what is left of its script. -/
inductive Removal (x : Subscription) : List (Exchange Engine) → Script Engine Bool → Prop
  | begun : Removal x [] (remove x)
  | bare (noRef : x.trackerRef = none) (a : Outcome Unit) :
      Removal x [⟨.deleteSubscription x.id, a⟩] (.done (isGone a))
  | orphan {ref : String} (hasRef : x.trackerRef = some ref) :
      Removal x [⟨.isRegistered x.trackerName, false⟩] (.done false)
  | known {ref : String} (hasRef : x.trackerRef = some ref) :
      Removal x [⟨.isRegistered x.trackerName, true⟩]
        (.ask (.unsubscribe x.trackerName ref) fun a =>
          if isGone a then discard x.id else .done false)
  | kept {ref : String} (hasRef : x.trackerRef = some ref) (a : Outcome Unit)
      (stays : isGone a = false) :
      Removal x [⟨.isRegistered x.trackerName, true⟩, ⟨.unsubscribe x.trackerName ref, a⟩]
        (.done false)
  | gone {ref : String} (hasRef : x.trackerRef = some ref) (a : Outcome Unit)
      (gone : isGone a = true) :
      Removal x [⟨.isRegistered x.trackerName, true⟩, ⟨.unsubscribe x.trackerName ref, a⟩]
        (discard x.id)
  | deleted {ref : String} (hasRef : x.trackerRef = some ref) (a b : Outcome Unit)
      (gone : isGone a = true) :
      Removal x [⟨.isRegistered x.trackerName, true⟩, ⟨.unsubscribe x.trackerName ref, a⟩,
        ⟨.deleteSubscription x.id, b⟩] (.done (isGone b))

theorem leads_discard {id : String} {told : List (Exchange Engine)} {rest : Script Engine Bool}
    (h : (discard id).Leads told rest) : told = [] ∧ rest = discard id ∨
      ∃ a, told = [⟨.deleteSubscription id, a⟩] ∧ rest = .done (isGone a) := by
  cases h with
  | refl => exact .inl ⟨rfl, rfl⟩
  | ask a more =>
    obtain ⟨rfl, rfl⟩ := Script.leads_done_iff.mp more
    exact .inr ⟨a, rfl, rfl⟩

theorem removal_of_leads {x : Subscription} {told : List (Exchange Engine)}
    {rest : Script Engine Bool} (h : (remove x).Leads told rest) : Removal x told rest := by
  cases href : x.trackerRef with
  | none =>
    have hbare : remove x = discard x.id := by simp [remove, href]
    rw [hbare] at h
    rcases leads_discard h with ⟨rfl, rfl⟩ | ⟨a, rfl, rfl⟩
    · exact hbare ▸ .begun
    · exact .bare href a
  | some ref =>
    have hscript : remove x = .ask (.isRegistered x.trackerName) fun known =>
        if known then .ask (.unsubscribe x.trackerName ref) fun a =>
          if isGone a then discard x.id else .done false
        else .done false := by
      simp only [remove, href, inquire, Script.bind_eq, Script.ask_bind, Script.done_bind]
      congr 1
    rw [hscript] at h
    cases h with
    | refl => exact hscript ▸ .begun
    | ask known more =>
      cases known with
      | false =>
        obtain ⟨rfl, rfl⟩ := Script.leads_done_iff.mp more
        exact .orphan href
      | true =>
        cases more with
        | refl => exact .known href
        | ask a more =>
          cases hgone : isGone a with
          | false =>
            simp only [hgone, Bool.false_eq_true, if_false] at more
            obtain ⟨rfl, rfl⟩ := Script.leads_done_iff.mp more
            exact .kept href a hgone
          | true =>
            simp only [hgone, if_true] at more
            rcases leads_discard more with ⟨rfl, rfl⟩ | ⟨b, rfl, rfl⟩
            · exact .gone href a hgone
            · exact .deleted href a b hgone

/-! ### The rows that are left -/

namespace Chronicle

variable {s : Session τ} {c c' : Chronicle τ} {xs : List Subscription}

/-- The rows of the store are those that were listed and that their own removal has not deleted. -/
def Left (c : Chronicle τ) (xs : List Subscription) : Prop :=
  ∀ id r, c.world.store.rows.get? id = some r ↔
    ∃ (i : Nat) (x : Subscription), xs[i]? = some x ∧ x.id = id ∧ r = .ok x ∧
      (⟨.deleteSubscription id, .ok ()⟩ : Exchange Engine) ∉ c.exchangesOf (.removal i)

theorem eq_of_pairwise {α β : Type} {f : α → β} {l : List α} (h : l.Pairwise fun x y => f x ≠ f y)
    {i j : Nat} {x y : α} (hx : l[i]? = some x) (hy : l[j]? = some y) (hxy : f x = f y) : i = j := by
  obtain ⟨hi, rfl⟩ := List.getElem?_eq_some_iff.mp hx
  obtain ⟨hj, rfl⟩ := List.getElem?_eq_some_iff.mp hy
  have hpairs := List.pairwise_iff_getElem.mp h
  rcases Nat.lt_trichotomy i j with hlt | heq | hgt
  · exact absurd hxy (hpairs i j hi hj hlt)
  · exact heq
  · exact absurd hxy.symm (hpairs j i hj hi hgt)

theorem Left.congr (hleft : c.Left xs) (hrows : c'.world.store.rows = c.world.store.rows)
    (htold : ∀ i, c'.exchangesOf (.removal i) = c.exchangesOf (.removal i)) : c'.Left xs := by
  intro id r
  simp only [hrows, htold]
  exact hleft id r

/-- One turn of a removal: it deletes the row of its own subscription, or no row at all. -/
theorem Left.removal {x? : Option (Exchange Engine)} {i : Nat} (hleft : c.Left xs)
    (hids : xs.Pairwise fun x y => x.id ≠ y.id)
    (heffect : World.RowEffect s.surroundings c.world c'.world x?)
    (htold : ∀ j, c'.exchangesOf (.removal j) =
      c.exchangesOf (.removal j) ++ if j = i then x?.toList else [])
    (hown : ∀ x, x? = some x → OnlyDeletes x.question ∧
      ∀ id, x.question = .deleteSubscription id → ∃ y, xs[i]? = some y ∧ y.id = id) :
    c'.Left xs := by
  intro id r
  cases heffect with
  | created x =>
    obtain ⟨id', hid'⟩ := (hown _ rfl).1 rfl
    cases hid'
  | updated x =>
    obtain ⟨id', hid'⟩ := (hown _ rfl).1 rfl
    cases hid'
  | deleted id' hrows =>
    obtain ⟨x, hx, hid'⟩ := (hown _ rfl).2 id' rfl
    rw [hrows, Dict.get?_erase]
    by_cases hid : id' = id
    · -- The row is gone, and the only removal of a subscription with its id has deleted it.
      simp only [hid, if_true, reduceCtorEq, false_iff]
      rintro ⟨j, y, hy, hyid, -, hnot⟩
      obtain rfl := eq_of_pairwise hids hy hx ((hyid.trans hid.symm).trans hid'.symm)
      exact hnot (by simp [htold, hid])
    · rw [if_neg hid, hleft id r]
      have hother : ∀ j, (⟨.deleteSubscription id, .ok ()⟩ : Exchange Engine) ∈
          c'.exchangesOf (.removal j) ↔
          (⟨.deleteSubscription id, .ok ()⟩ : Exchange Engine) ∈ c.exchangesOf (.removal j) := by
        intro j
        rw [htold, List.mem_append]
        split
        · simp [Ne.symm hid]
        · simp
      simp only [hother]
  | kept same quiet =>
    have hother : ∀ j, (⟨.deleteSubscription id, .ok ()⟩ : Exchange Engine) ∈
        c'.exchangesOf (.removal j) ↔
        (⟨.deleteSubscription id, .ok ()⟩ : Exchange Engine) ∈ c.exchangesOf (.removal j) := by
      intro j
      rw [htold, List.mem_append]
      constructor
      · rintro (hold | hnew)
        · exact hold
        · split at hnew
          · cases quiet _ (Option.mem_toList.mp hnew)
          · cases hnew
      · exact .inl
    simp only [same.rows, hother]
    exact hleft id r

theorem listingOf_eq_ok {s : Session τ} {tracker : String} (h : (s.listingOf tracker).1 = .ok xs) :
    s.world.store.listSubscriptions (trackerFilter tracker) = .ok xs := by
  have hguarded : (s.world.guarded .listSubscriptions fun w =>
      (w.store.listSubscriptions (trackerFilter tracker), w)).1 = .ok xs := h
  unfold World.guarded at hguarded
  split at hguarded
  · cases hguarded
  · exact hguarded

theorem listing_eq_ok {s : Session τ} (h : s.listing.1 = .ok xs) :
    s.world.store.listSubscriptions none = .ok xs :=
  (listingOf_eq_ok h : s.world.store.listSubscriptions (trackerFilter "") = .ok xs)

/-- What holds of the store in the life of a session: rows stand under their own ids, and once they
are listed those are left that their own removal has not deleted. -/
structure Kept (c : Chronicle τ) : Prop where
  keyed : c.world.store.Keyed
  left : ∀ xs, c.Listed (.ok xs) → c.Left xs ∧ ∃ w, c.listedIn = some w ∧
    w.store.Keyed ∧ w.store.listSubscriptions none = .ok xs

theorem kept_begin (hkeyed : s.world.store.Keyed) (ownWay : String → Bool) :
    (Chronicle.begin s ownWay).Kept where
  keyed := by
    simpa [Chronicle.begin, Chronicle.world, Life.begin, Life.registered_world] using hkeyed
  left xs hlisted := by cases hlisted.1

/-- While nothing is listed there is nothing to keep but the ids. -/
theorem Untouched.not_listed (h : c.Untouched) (a : Outcome (List Subscription)) : ¬c.Listed a := by
  intro hlisted
  cases h.listing.1.symm.trans hlisted.1

/-- When nothing is told, what was listed and what is left of it stay the same. -/
theorem Kept.quiet {heard? : Option (Listening τ)} (hkept : c.Kept)
    (hfollows : c.Follows c' none none heard?)
    (heffect : World.RowEffect s.surroundings c.world c'.world none)
    (hlisted : c'.Listed (.ok xs)) : c'.Left xs ∧ ∃ w, c'.listedIn = some w ∧
      w.store.Keyed ∧ w.store.listSubscriptions none = .ok xs := by
  have hsame : ∀ who, c'.questionsOf who = c.questionsOf who ∧
      c'.exchangesOf who = c.exchangesOf who := fun who => hfollows.same who (by simp) (by simp)
  rw [Listed, (hsame _).1, (hsame _).2] at hlisted
  obtain ⟨hleft, hin⟩ := hkept.left xs hlisted
  refine ⟨hleft.congr ?_ fun i => (hsame _).2, ?_⟩
  · cases heffect with
    | kept same quiet => exact same.rows
  · have hlistedIn : c'.listedIn = c.listedIn := hfollows.listedIn
    rwa [hlistedIn]

/-- Right after the listing what is left is what was listed. -/
theorem left_of_listing (hlist : c.world.store.listSubscriptions none = .ok xs)
    (hkeyed : c.world.store.Keyed) (hrows : c'.world.store.rows = c.world.store.rows)
    (hsilent : ∀ i, c'.exchangesOf (.removal i) = []) : c'.Left xs := by
  intro id r
  rw [hrows, Store.mem_rows_of_listSubscriptions hlist hkeyed]
  simp only [hsilent, List.not_mem_nil, not_false_eq_true, and_true]
  constructor
  · rintro ⟨x, hx, hid, hr⟩
    obtain ⟨i, hi⟩ := List.getElem?_of_mem hx
    exact ⟨i, x, hi, hid, hr⟩
  · rintro ⟨i, x, hi, hid, hr⟩
    exact ⟨x, List.mem_of_getElem? hi, hid, hr⟩

/-- The removal of a subscription writes nothing but the deletion of its own row. -/
theorem removal_exchange {pool : Pool Engine (World τ) Bool} {w : World τ} {i : Nat}
    {x : Exchange Engine} (hpool : c.Removing s xs pool)
    (hx : pool.exchange? (World.handler s.surroundings) w i = some x) :
    ∃ y, xs[i]? = some y ∧ OnlyDeletes x.question ∧
      ∀ id, x.question = .deleteSubscription id → y.id = id := by
  obtain ⟨script, hscript, hasks⟩ := hpool.exchange_asked hx
  obtain ⟨y, hy, rfl⟩ := by simpa using hscript
  refine ⟨y, hy, hasks _ (remove_asks y ?_ ?_ ?_), ?_⟩
  · exact fun hwrites => by cases hwrites
  · exact fun ref _ hwrites => by cases hwrites
  · exact fun _ => ⟨y.id, rfl⟩
  · exact hasks (fun q => ∀ id, q = .deleteSubscription id → y.id = id)
      (remove_asks y (by simp) (by simp) (by simp))

theorem Kept.step (hkept : c.Kept) (h : c.Sound s) (event : LifeEvent) : (c.step event).Kept := by
  have hfollows := Follows.step c event
  have heffect := rowEffect_step h event
  have hkeyed := keyed_step h hkept.keyed event
  have hstands := h.stands
  have hhappens := c.life.happens event
  generalize c.step event = c' at *
  generalize c.life.asked? event = asked? at *
  generalize c.life.told? event = told? at *
  generalize c.life.heard? event = heard? at *
  generalize c.life.step event = l' at *
  refine ⟨hkeyed, ?_⟩
  intro xs hlisted
  cases hhappens with
  | registration stage cancelled =>
    rw [stage] at hstands
    have huntouched := hfollows.untouched hstands.2.2.2 (by simp) (by simp)
    exact absurd hlisted (huntouched.not_listed _)
  | listening stage =>
    rw [stage] at hstands
    have huntouched := hfollows.untouched hstands.2.2.2 (by simp) (by simp)
    exact absurd hlisted (huntouched.not_listed _)
  | @listed r ys stage answer =>
    rw [stage] at hstands
    obtain ⟨registered, -, -, -, huntouched⟩ := hstands
    have hanswer : c'.exchangesOf .listing = [⟨.listSubscriptions none, .ok ys⟩] := by
      simp [hfollows.exchanges, huntouched.listing.2, entriesOf]
    obtain rfl : ys = xs := by simpa using hanswer.symm.trans hlisted.2
    have hrows : c.world.store.listSubscriptions none = .ok ys := listing_eq_ok answer
    have hsame : c'.world.store.rows = c.world.store.rows := by
      cases heffect with
      | kept same quiet => exact same.rows
    refine ⟨left_of_listing hrows hkept.keyed hsame fun i => ?_, c.world,
      by simpa using hfollows.listedIn, hkept.keyed, hrows⟩
    rw [(hfollows.same (.removal i) (by simp) (by simp)).2]
    exact (huntouched.removal i).2
  | @unlisted r f stage answer =>
    rw [stage] at hstands
    obtain ⟨registered, -, -, -, huntouched⟩ := hstands
    have hanswer : c'.exchangesOf .listing = [⟨.listSubscriptions none, .error f⟩] := by
      simp [hfollows.exchanges, huntouched.listing.2, entriesOf]
    have hboth := hanswer.symm.trans hlisted.2
    simp at hboth
  | @removal i r pool stage =>
    rw [stage] at hstands
    obtain ⟨registered, ys, -, -, -, hys, hpool⟩ := hstands
    have hlisting := hfollows.same .listing (by simp) (by simp)
    obtain rfl : ys = xs := by
      have hboth := hys.2.symm.trans (hlisting.2.symm.trans hlisted.2)
      simpa using hboth
    obtain ⟨hleft, w, hin, hw, hlist⟩ := hkept.left ys hys
    refine ⟨?_, w, by rwa [hfollows.listedIn_same (by simp)], hw, hlist⟩
    rw [map_snd_map] at heffect
    refine hleft.removal (Store.pairwise_of_listSubscriptions hlist hw) heffect
      (fun j => (hfollows.turn .removal (by simp) j).2) fun x hx => ?_
    rw [h.surroundings] at hx
    obtain ⟨y, hy, honly, hown⟩ := removal_exchange hpool hx
    exact ⟨honly, fun id hid => ⟨y, hy, hown id hid⟩⟩
  | expired stage => exact hkept.quiet hfollows heffect hlisted
  | cancelled => exact hkept.quiet hfollows heffect hlisted
  | nothing event => exact hkept.quiet hfollows heffect hlisted

/-! ### A row with a reference is deleted last -/

end Chronicle

/-- The deletion of a subscription with a reference comes right after its tracker has said that the
webhook is gone. -/
theorem Removal.gone_of_deletion {x : Subscription} {told : List (Exchange Engine)} {id ref : String}
    {a : Outcome Unit} {rest : Script Engine Bool} (href : x.trackerRef = some ref)
    (h : Removal x (told ++ [⟨.deleteSubscription id, a⟩]) rest) :
    ∃ a, (⟨.unsubscribe x.trackerName ref, a⟩ : Exchange Engine) ∈ told ∧ isGone a = true := by
  generalize hall : told ++ [(⟨.deleteSubscription id, a⟩ : Exchange Engine)] = all at h
  have hlast : all.getLast? = some ⟨.deleteSubscription id, a⟩ := by simp [← hall]
  cases h with
  | begun => cases hlast
  | bare noRef => cases noRef.symm.trans href
  | orphan => simp at hlast
  | known => simp at hlast
  | kept => simp at hlast
  | gone => simp at hlast
  | deleted hasRef a' b hgone =>
    cases href.symm.trans hasRef
    have hinit := congrArg List.dropLast hall
    simp only [List.dropLast_concat] at hinit
    refine ⟨a', ?_, hgone⟩
    simp [hinit]

namespace Chronicle

variable {s : Session τ} {c c' : Chronicle τ} {xs : List Subscription}

/-- Only a removal deletes a row, and only the one of its subscription. -/
theorem deleted_by_removal (h : c.Sound s) (event : LifeEvent) {id : String}
    (htold : (c.life.told? event).map (·.2) = some ⟨.deleteSubscription id, .ok ()⟩) :
    ∃ (i : Nat) (x : Subscription) (xs : List Subscription) (rest : Script Engine Bool),
      c.Listed (.ok xs) ∧ xs[i]? = some x ∧ x.id = id ∧
      Removal x (c.exchangesOf (.removal i) ++ [⟨.deleteSubscription id, .ok ()⟩]) rest := by
  have hstands := h.stands
  have hsurroundings := h.surroundings
  have hhappens := c.life.happens event
  generalize c.life.asked? event = asked? at *
  generalize c.life.told? event = told? at *
  generalize c.life.heard? event = heard? at *
  generalize c.life.step event = l' at *
  cases hhappens with
  | @registration i pool stage cancelled =>
    rw [stage] at hstands
    rw [map_snd_map, hsurroundings] at htold
    obtain ⟨script, hscript, hasks⟩ := hstands.2.1.exchange_asked htold
    obtain ⟨t, -, rfl⟩ := List.mem_map.mp (List.mem_of_getElem? hscript)
    have hnot := hasks DeletesNothing (register_asks _ t nofun nofun nofun (fun _ => nofun)
      (fun _ => nofun) (fun _ => nofun) fun _ => nofun)
    exact absurd rfl (hnot id)
  | listening stage => cases htold
  | listed stage answer => cases htold
  | unlisted stage answer => cases htold
  | @removal i r pool stage =>
    rw [stage] at hstands
    obtain ⟨registered, xs, -, -, -, hlisted, hpool⟩ := hstands
    rw [map_snd_map, hsurroundings] at htold
    obtain ⟨x, hx, -, hown⟩ := removal_exchange hpool htold
    have hstep : Pool.CameFrom (World.handler s.surroundings) (xs.map remove)
        (fun j => c.questionsOf (.removal j) ++ if j = i then (pool.question? i).toList else [])
        (fun j => c.exchangesOf (.removal j) ++
          if j = i then (pool.exchange? (World.handler s.surroundings) c.world i).toList else [])
        (pool.step (World.handler s.surroundings) c.world i).1 :=
      hpool.step c.world i (fun _ => rfl) fun _ => rfl
    obtain ⟨rest, hleads, -⟩ := hstep.came (getElem?_map_remove hx)
    have htold' : pool.exchange? (World.handler s.surroundings) c.world i =
        some ⟨.deleteSubscription id, .ok ()⟩ := htold
    rw [htold'] at hleads
    exact ⟨i, x, xs, rest, hlisted, hx, hown id rfl, removal_of_leads (by simpa using hleads)⟩
  | expired stage => cases htold
  | cancelled => cases htold
  | nothing event => cases htold

/-- A row with a reference is deleted only after its tracker has said that the webhook is gone. -/
theorem deleted_after_unsubscribe (h : c.Sound s) (hkept : c.Kept) (event : LifeEvent)
    {id ref : String} {x : Subscription} (hbefore : c.world.store.getSubscription id = .ok x)
    (href : x.trackerRef = some ref) (hafter : (c.step event).world.store.getSubscription id =
      .error (subscriptionNotFound id)) :
    ∃ i a, (⟨.unsubscribe x.trackerName ref, a⟩ : Exchange Engine) ∈ c.exchangesOf (.removal i) ∧
      isGone a = true := by
  rw [Store.getSubscription_eq_ok_iff] at hbefore
  rw [Store.getSubscription_eq_notFound_iff] at hafter
  have heffect := rowEffect_step h event
  generalize htold : (c.life.told? event).map (·.2) = x? at heffect
  have hinsert : ∀ {k : String} {v : Outcome Subscription},
      (c.step event).world.store.rows = c.world.store.rows.insert k v → False := by
    intro k v hrows
    rw [hrows, Dict.get?_insert] at hafter
    split at hafter
    · cases hafter
    · cases hafter.symm.trans hbefore
  cases heffect with
  | created y number rows => exact (hinsert rows).elim
  | updated y known rows => exact (hinsert rows).elim
  | kept same quiet =>
    rw [same.rows] at hafter
    cases hafter.symm.trans hbefore
  | deleted id' rows =>
    obtain rfl : id' = id := by
      rw [rows, Dict.get?_erase] at hafter
      split at hafter
      · assumption
      · cases hafter.symm.trans hbefore
    obtain ⟨i, y, xs, rest, hlisted, hy, hid, hremoval⟩ := deleted_by_removal h event htold
    obtain ⟨hleft, w, -, hw, hlist⟩ := hkept.left xs hlisted
    obtain ⟨j, y', hy', hid', hsame, -⟩ := (hleft _ _).mp hbefore
    obtain rfl := eq_of_pairwise (Store.pairwise_of_listSubscriptions hlist hw) hy hy'
      (hid.trans hid'.symm)
    cases hsame
    cases hy.symm.trans hy'
    obtain ⟨a, ha, hgone⟩ := hremoval.gone_of_deletion href
    exact ⟨i, a, ha, hgone⟩

end Chronicle

/-! ### After the last removal -/

/-- The shape of a removal that has ended. -/
theorem Removal.ended {x : Subscription} {told : List (Exchange Engine)} {r : Outcome Bool}
    (h : Removal x told (.ofOutcome r)) :
    (x.trackerRef = none ∧ ∃ a, told = [⟨.deleteSubscription x.id, a⟩]) ∨
    ∃ ref, x.trackerRef = some ref ∧ (told = [⟨.isRegistered x.trackerName, false⟩] ∨
      ∃ a, (isGone a = false ∧
        told = [⟨.isRegistered x.trackerName, true⟩, ⟨.unsubscribe x.trackerName ref, a⟩]) ∨
      (isGone a = true ∧ ∃ b, told = [⟨.isRegistered x.trackerName, true⟩,
        ⟨.unsubscribe x.trackerName ref, a⟩, ⟨.deleteSubscription x.id, b⟩])) := by
  generalize hrest : (Script.ofOutcome r : Script Engine Bool) = rest at h
  cases h with
  | begun =>
    cases href : x.trackerRef <;> cases r <;>
      simp [remove, href, discard, inquire, Script.ofOutcome] at hrest
  | bare noRef a => exact .inl ⟨noRef, a, rfl⟩
  | orphan hasRef => exact .inr ⟨_, hasRef, .inl rfl⟩
  | known hasRef => cases r <;> simp [Script.ofOutcome] at hrest
  | kept hasRef a stays => exact .inr ⟨_, hasRef, .inr ⟨a, .inl ⟨stays, rfl⟩⟩⟩
  | gone hasRef a hgone => cases r <;> simp [Script.ofOutcome, discard, inquire] at hrest
  | deleted hasRef a b hgone => exact .inr ⟨_, hasRef, .inr ⟨a, .inr ⟨hgone, b, rfl⟩⟩⟩

/-- Whether a question asks a tracker to drop a webhook. -/
def Question.isUnsubscribe : Question → Bool
  | .unsubscribe .. => true
  | _ => false

/-- What the trackers of a registry are asked to drop for a subscription: its webhook, if it has a
reference and its tracker is registered. -/
def webhooksOf (names : List String) (x : Subscription) : List Question :=
  match x.trackerRef with
  | some ref => if x.trackerName ∈ names then [.unsubscribe x.trackerName ref] else []
  | none => []

/-- Whether the store has failed to do its part of a teardown. -/
def storeFailed : Exchange Engine → Bool
  | ⟨.listSubscriptions _, .error _⟩ | ⟨.deleteSubscription _, .error _⟩ => true
  | _ => false

/-- What keeps a subscription stored after its removal has ended: its tracker is not registered, or
has failed to drop the webhook for another reason than that it is not there. -/
def Stays (names : List String) (x : Subscription) (told : List (Exchange Engine)) : Prop :=
  ∃ ref, x.trackerRef = some ref ∧ (x.trackerName ∉ names ∨
    ∃ f, (⟨.unsubscribe x.trackerName ref, .error f⟩ : Exchange Engine) ∈ told ∧
      f.isNotFound = false)

/-- A removal that has ended, with answers that the surroundings give, has asked its tracker once
where it could, and has deleted its row unless something keeps it. -/
theorem Removal.settled {e : Surroundings τ} {x : Subscription} {told : List (Exchange Engine)}
    {r : Outcome Bool} (h : Removal x told (.ofOutcome r))
    (hgiven : ∀ y ∈ told, (World.handler e).Gives y) (hstore : ∀ y ∈ told, storeFailed y = false) :
    ((⟨.deleteSubscription x.id, .ok ()⟩ : Exchange Engine) ∉ told ↔
      Stays e.trackers.names x told) ∧
    (told.map (·.question)).filter Question.isUnsubscribe = webhooksOf e.trackers.names x := by
  have hok : ∀ a : Outcome Unit, (⟨.deleteSubscription x.id, a⟩ : Exchange Engine) ∈ told →
      a = .ok () := by
    intro a ha
    cases a with
    | ok => rfl
    | error f => cases hstore _ ha
  rcases h.ended with ⟨href, a, rfl⟩ | ⟨ref, href, rfl | ⟨a, ⟨hstays, rfl⟩ | ⟨hgone, b, rfl⟩⟩⟩
  · obtain rfl := hok a (by simp)
    simp [Stays, webhooksOf, href, Question.isUnsubscribe]
  · have hknown := isRegistered_given (hgiven _ List.mem_cons_self)
    have hunknown : x.trackerName ∉ e.trackers.names := by simpa using hknown
    simp [Stays, webhooksOf, href, Question.isUnsubscribe, hunknown]
  · have hknown : x.trackerName ∈ e.trackers.names := by
      simpa using isRegistered_given (hgiven _ List.mem_cons_self)
    obtain ⟨f, rfl⟩ : ∃ f, a = .error f := by
      cases a with
      | ok => cases hstays
      | error f => exact ⟨f, rfl⟩
    have hfailed : f.isNotFound = false := hstays
    simp [Stays, webhooksOf, href, Question.isUnsubscribe, hknown, hfailed]
  · have hknown : x.trackerName ∈ e.trackers.names := by
      simpa using isRegistered_given (hgiven _ List.mem_cons_self)
    obtain rfl := hok b (by simp)
    have hnone : ∀ f, Except.error f = a → f.isNotFound = true := by
      rintro f rfl
      exact hgone
    simp only [Stays, webhooksOf, href, hknown]
    refine ⟨?_, rfl⟩
    constructor
    · simp
    · rintro ⟨ref', href', hunknown | ⟨f, hf, hfailed⟩⟩
      · exact absurd trivial hunknown
      · cases href'
        have hanswer : Except.error f = a := by simpa using hf
        rw [hnone f hanswer] at hfailed
        cases hfailed

namespace Chronicle

variable {s : Session τ} {c : Chronicle τ}

/-- The phases of a session, and what may be asked in them. They are entered in their order, up to
the present one; the listeners begin only after all registrations have succeeded; and the
subscriptions are listed once, after the listeners are over, and removed then and not before. -/
structure InOrder (s : Session τ) (c : Chronicle τ) : Prop where
  present : c.life.entered.getLast? = some c.life.stage.phase
  order : ∃ registered, c.life.entered <+: phases registered ∧
    (c.life.stage.phase = .stopped → c.life.entered = phases registered) ∧
    (c.life.stage.phase ≠ .registering → c.Registered s registered)
  untouched : c.life.stage.phase.isTeardown = false → c.Untouched
  wentOver : c.life.stage.phase.isTeardown = true → .listening ∈ c.life.entered →
    ∃ x, c.heard = some x ∧ x.isOver = true
  once : c.questionsOf .listing = [] ∨ c.questionsOf .listing = [.listSubscriptions none]
  listed : c.life.stage.phase = .stopped → c.questionsOf .listing = [.listSubscriptions none]

/-- What is left when the store has done its part and the removals were not cut short: the rows that
were listed and that something keeps, and for each row that was listed its tracker was asked once
to drop the webhook, if it could be. -/
def Cleared (s : Session τ) (c : Chronicle τ) : Prop :=
  ∃ w xs, c.listedIn = some w ∧ w.store.listSubscriptions none = .ok xs ∧
    (∀ id x, c.world.store.getSubscription id = .ok x ↔ ∃ i, xs[i]? = some x ∧ x.id = id ∧
      Stays s.surroundings.trackers.names x (c.exchangesOf (.removal i))) ∧
    (∀ id, (∀ x, c.world.store.getSubscription id ≠ .ok x) →
      c.world.store.getSubscription id = .error (subscriptionNotFound id)) ∧
    (∀ i x, xs[i]? = some x → (c.questionsOf (.removal i)).filter Question.isUnsubscribe =
      webhooksOf s.surroundings.trackers.names x)

/-- The store has listed and deleted what it was told to. -/
def StoreSucceeded (c : Chronicle τ) : Prop := ∀ y ∈ c.told, storeFailed y.2 = false

theorem CameTo.wentOver {registered r : Outcome Unit} (h : c.CameTo registered r)
    (hlistening : .listening ∈ phases registered) : ∃ x, c.heard = some x ∧ x.isOver = true := by
  cases registered with
  | ok =>
    obtain ⟨x, hx, hover, -⟩ := h
    exact ⟨x, hx, hover⟩
  | error f => simp [phases] at hlistening

/-- A teardown that is not over has entered all phases but the last. -/
theorem inOrder_of_teardown {registered r : Outcome Unit}
    (hphase : c.life.stage.phase = .unregistering)
    (hphases : c.life.entered = (phases registered).dropLast)
    (hregistered : c.Registered s registered) (hcame : c.CameTo registered r)
    (honce : c.questionsOf .listing = [] ∨ c.questionsOf .listing = [.listSubscriptions none]) :
    c.InOrder s where
  present := by cases registered <;> simp [hphase, hphases, phases]
  order := by
    refine ⟨registered, ?_, by simp [hphase], fun _ => hregistered⟩
    rw [hphases]
    exact List.dropLast_prefix _
  untouched := by simp [hphase, Phase.isTeardown]
  wentOver _ hlistening := by
    rw [hphases] at hlistening
    exact hcame.wentOver (List.dropLast_subset _ hlistening)
  once := honce
  listed := by simp [hphase]

theorem inOrder_of_sound (h : c.Sound s) : c.InOrder s := by
  have hstands := h.stands
  generalize hstage : c.life.stage = stage at hstands
  cases stage with
  | registering pool =>
    obtain ⟨hphases, hpool, hheard, huntouched⟩ := hstands
    refine ⟨?_, ⟨.ok (), ?_, ?_, ?_⟩, fun _ => huntouched, ?_, .inl huntouched.listing.1, ?_⟩ <;>
      simp [hstage, hphases, LifeStage.phase, phases, Phase.isTeardown]
  | listening x =>
    obtain ⟨hphases, hregistered, -, huntouched⟩ := hstands
    refine ⟨?_, ⟨.ok (), ?_, ?_, fun _ => hregistered⟩, fun _ => huntouched, ?_,
      .inl huntouched.listing.1, ?_⟩ <;>
      simp [hstage, hphases, LifeStage.phase, phases, Phase.isTeardown]
  | listing r =>
    obtain ⟨registered, hphases, hregistered, hcame, huntouched⟩ := hstands
    exact inOrder_of_teardown (by rw [hstage]; rfl) hphases hregistered hcame
      (.inl huntouched.listing.1)
  | removing r pool =>
    obtain ⟨registered, xs, hphases, hregistered, hcame, hlisted, -⟩ := hstands
    exact inOrder_of_teardown (by rw [hstage]; rfl) hphases hregistered hcame (.inr hlisted.1)
  | stopped r n =>
    obtain ⟨registered, listened, hphases, hregistered, hcame, -, htorn⟩ := hstands
    refine ⟨?_, ⟨registered, ?_, fun _ => hphases, fun _ => hregistered⟩, ?_, ?_,
      .inr htorn.listed_once, fun _ => htorn.listed_once⟩
    · cases registered <;> simp [hstage, hphases, LifeStage.phase, phases]
    · simp [hphases]
    · simp [hstage, LifeStage.phase, Phase.isTeardown]
    · rw [hphases]
      exact fun _ => hcame.wentOver

theorem cleared_of_stopped {r : Outcome Unit} {n : Nat} (h : c.Sound s) (hkept : c.Kept)
    (hgiven : ∀ y ∈ c.told, (World.handler s.surroundings).Gives y.2)
    (hstage : c.life.stage = .stopped r n) (hexpired : c.expired = false)
    (hstore : c.StoreSucceeded) : c.Cleared s := by
  have hstands := h.stands
  rw [hstage] at hstands
  obtain ⟨-, -, -, -, -, -, htorn⟩ := hstands
  cases htorn with
  | unlisted f listed silent =>
    have hmem : (⟨.listSubscriptions none, .error f⟩ : Exchange Engine) ∈
        c.exchangesOf .listing := by simp [listed.2]
    cases hstore _ (mem_told_of_exchangesOf hmem)
  | listed xs listed came silent ended =>
    obtain ⟨hleft, w, hin, hw, hlist⟩ := hkept.left xs listed
    have hsettled : ∀ (i : Nat) (x : Subscription), xs[i]? = some x →
        ((⟨.deleteSubscription x.id, .ok ()⟩ : Exchange Engine) ∉ c.exchangesOf (.removal i) ↔
          Stays s.surroundings.trackers.names x (c.exchangesOf (.removal i))) ∧
        (c.questionsOf (.removal i)).filter Question.isUnsubscribe =
          webhooksOf s.surroundings.trackers.names x := by
      intro i x hx
      obtain ⟨r, hleads, hasked⟩ := ended hexpired i x hx
      rw [hasked]
      exact (removal_of_leads hleads).settled
        (fun y hy => hgiven _ (mem_told_of_exchangesOf hy))
        fun y hy => hstore _ (mem_told_of_exchangesOf hy)
    refine ⟨w, xs, hin, hlist, ?_, ?_, fun i x hx => (hsettled i x hx).2⟩
    · intro id x
      rw [Store.getSubscription_eq_ok_iff, hleft id]
      constructor
      · rintro ⟨i, y, hy, rfl, hsame, hnot⟩
        cases hsame
        exact ⟨i, hy, rfl, (hsettled i _ hy).1.mp hnot⟩
      · rintro ⟨i, hx, rfl, hstays⟩
        exact ⟨i, x, hx, rfl, rfl, (hsettled i x hx).1.mpr hstays⟩
    · intro id hnone
      rw [Store.getSubscription_eq_notFound_iff]
      cases hrow : c.world.store.rows.get? id with
      | none => rfl
      | some v =>
        obtain ⟨i, y, -, -, rfl, -⟩ := (hleft id v).mp hrow
        exact absurd (Store.getSubscription_eq_ok_iff.mpr hrow) (hnone y)

/-- A tracker is asked to drop a webhook only for a subscription that was listed with a reference,
in the removal of that subscription. -/
theorem listed_of_unsubscribe (h : c.Sound s) {who : Asker} {tracker ref : String}
    (hasked : (who, .unsubscribe tracker ref) ∈ c.asked) :
    ∃ i xs x, who = .removal i ∧ c.Listed (.ok xs) ∧ xs[i]? = some x ∧ x.trackerName = tracker ∧
      x.trackerRef = some ref := by
  have hmem := mem_questionsOf hasked
  cases who with
  | registration i =>
    rcases h.registration i with ⟨script, hscript, hcame⟩ | ⟨-, hnone, -⟩
    · obtain ⟨t, -, rfl⟩ := List.mem_map.mp (List.mem_of_getElem? hscript)
      have hasks : (register s.baseUrl t).Asks (· ≠ Question.unsubscribe tracker ref) :=
        register_asks _ t nofun nofun nofun (fun _ => nofun) (fun _ => nofun) (fun _ => nofun)
          fun _ => nofun
      exact absurd rfl ((hcame.asks hasks).1 _ hmem)
    · rw [hnone] at hmem
      cases hmem
  | listing =>
    rcases (inOrder_of_sound h).once with hnone | hlist
    · rw [hnone] at hmem
      cases hmem
    · rw [hlist] at hmem
      simp at hmem
  | removal i =>
    rcases h.removal i with ⟨xs, x, hlisted, hx, hcame⟩ | hnone
    · have hasks : (remove x).Asks fun q => ∀ tracker ref, q = Question.unsubscribe tracker ref →
          x.trackerName = tracker ∧ x.trackerRef = some ref := by
        refine remove_asks x nofun ?_ nofun
        rintro ref href _ _ ⟨⟩
        exact ⟨rfl, href⟩
      obtain ⟨htracker, href⟩ := (hcame.asks hasks).1 _ hmem tracker ref rfl
      exact ⟨i, xs, x, rfl, hlisted, hx, htracker, href⟩
    · rw [hnone] at hmem
      cases hmem

/-- What is known of a session at any time: where it stands, what holds of its store, and that every
answer was given by the surroundings. -/
theorem known_run (hkeyed : s.world.store.Keyed) (ownWay : String → Bool)
    (events : List LifeEvent) :
    let c := (Chronicle.begin s ownWay).run events
    c.Sound s ∧ c.Kept ∧ ∀ y ∈ c.told, (World.handler s.surroundings).Gives y.2 := by
  refine run_invariant (P := fun c => c.Sound s ∧ c.Kept ∧
    ∀ y ∈ c.told, (World.handler s.surroundings).Gives y.2) ?_
    ⟨sound_begin s ownWay, kept_begin hkeyed ownWay, by simp [Chronicle.begin]⟩ events
  rintro c event ⟨hsound, hkept, hgiven⟩
  exact ⟨sound_step hsound event, hkept.step hsound event, gives_of_step hsound hgiven event⟩

theorem teardown_run (h : c.Sound s) (hdown : c.life.stage.phase.isTeardown = true)
    (later : List LifeEvent) : c.world.SameTickets (c.run later).world := by
  have hrun := run_invariant (P := fun c' => c'.Sound s ∧
    c'.life.stage.phase.isTeardown = true ∧ c.world.SameTickets c'.world) ?_
    ⟨h, hdown, fun _ => rfl⟩ later
  · exact hrun.2.2
  · rintro c' event ⟨hsound, hdown, hsame⟩
    obtain ⟨hdown', hstep⟩ := teardown_step hsound hdown event
    exact ⟨sound_step hsound event, hdown', fun q => (hstep q).trans (hsame q)⟩

/-- Whatever happens in the life of a session, its phases come in their order and its subscriptions
are unregistered once, after the listeners; a row with a reference is deleted only after its tracker
has said that the webhook is gone; the teardown writes no ticket; and when the store does its part
and time suffices, the rows that are left are those that something keeps. -/
theorem session_tears_down (s : Session τ) (hkeyed : s.world.store.Keyed)
    (ownWay : String → Bool) (events : List LifeEvent) :
    let c := (Chronicle.begin s ownWay).run events
    c.life = (Life.begin s ownWay).run events ∧
    c.InOrder s ∧
    (∀ event id x ref, c.world.store.getSubscription id = .ok x → x.trackerRef = some ref →
      (c.step event).world.store.getSubscription id = .error (subscriptionNotFound id) →
      ∃ i a, (⟨.unsubscribe x.trackerName ref, a⟩ : Exchange Engine) ∈ c.exchangesOf (.removal i) ∧
        isGone a = true) ∧
    (∀ who tracker ref, (who, .unsubscribe tracker ref) ∈ c.asked → ∃ i xs x, who = .removal i ∧
      c.Listed (.ok xs) ∧ xs[i]? = some x ∧ x.trackerName = tracker ∧ x.trackerRef = some ref) ∧
    (c.life.stage.phase.isTeardown = true →
      ∀ later, c.world.SameTickets (c.run later).world) ∧
    (∀ r n, c.life.stage = .stopped r n → c.expired = false → c.StoreSucceeded → c.Cleared s) := by
  intro c
  obtain ⟨hsound, hkept, hgiven⟩ := known_run hkeyed ownWay events
  refine ⟨life_run _ events, inOrder_of_sound hsound, ?_, fun _ _ _ => listed_of_unsubscribe hsound,
    teardown_run hsound, ?_⟩
  · intro event id x ref hbefore href hafter
    exact deleted_after_unsubscribe hsound hkept event hbefore href hafter
  · intro r n hstage hexpired hstore
    exact cleared_of_stopped hsound hkept hgiven hstage hexpired hstore

theorem stopped_of_outcome? {l : Life τ} {r : Outcome Unit} {n : Nat}
    (h : l.outcome? = some (r, n)) : l.stage = .stopped r n := by
  unfold Life.outcome? at h
  split at h
  · next hstage =>
    cases h
    exact hstage
  · cases h

/-- A subscription that an earlier session has left at the desk. -/
def leftover : Subscription :=
  { id := "s1", trackerRef := some "7", trackerName := "desk", triggerName := "mail"
    baseUrl := "http://localhost", createdAt := default }

/-- A session without triggers that finds the leftover in its store. -/
def closing : Session Unit where
  config := { server := { baseUrl := "http://localhost" } }
  surroundings := Course.desk
  world := { store := .memory { subscriptions := Dict.empty.insert "s1" leftover }, trackers := () }

/-- The listeners are cancelled, and the removal of the leftover has its turns. -/
def closed : List LifeEvent :=
  [.listen .revoke, .listen (.leave 0 (.error .cancelled)), .listen (.close (.ok ())), .listen .see,
    .listen .see, .list, .turn 0, .turn 0, .turn 0]

theorem closing_keyed : closing.world.store.Keyed := by
  intro id x hx
  simp only [closing, Store.rows, Dict.get?_map, Dict.get?_insert] at hx
  split at hx
  · next hid =>
    cases hx
    exact hid
  · cases hx

theorem leftover_removed :
    closing.world.store.Keyed ∧
    let c := (Chronicle.begin closing fun _ => false).run closed
    c.life.outcome? = some (.ok (), 1) ∧ c.Cleared closing := by
  have hdown := session_tears_down closing closing_keyed (fun _ => false) closed
  have hover : ((Chronicle.begin closing fun _ => false).run closed).life.outcome? =
      some (.ok (), 1) := by decide +kernel
  have htold : ((Chronicle.begin closing fun _ => false).run closed).told.all
      (fun y => !storeFailed y.2) = true := by decide +kernel
  refine ⟨closing_keyed, hover, hdown.2.2.2.2.2 (.ok ()) 1 (stopped_of_outcome? hover) rfl ?_⟩
  simpa [StoreSucceeded] using htold

end Chronicle
end TicketSync.Engine
