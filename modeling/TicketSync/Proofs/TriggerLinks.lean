import TicketSync.Proofs.TriggerRegistration

/-! # The rows of registrations that run together

Each registration holds at most one row. The rows of two registrations never have one id, and all
other rows of the store stay as they were: this is what every turn of every registration keeps, up
to the teardown. So a reference never comes to stand in the row of another trigger. -/
namespace TicketSync.Engine

variable {τ : Type}

/-- A session whose new subscriptions have ids of their own, which its store does not know, and times
that can be written. -/
structure Session.Fresh (s : Session τ) : Prop where
  distinct : ∀ m n, s.world.subscriptions < m → m < n →
    s.surroundings.subscriptionId m ≠ s.surroundings.subscriptionId n
  absent : ∀ n, s.world.subscriptions < n →
    s.world.store.getSubscription (s.surroundings.subscriptionId n) =
      .error (subscriptionNotFound (s.surroundings.subscriptionId n))
  dated : ∀ n, (s.surroundings.createdAt n).Valid

theorem Session.Fresh.eq_of_number {s : Session τ} (h : s.Fresh) {m n : Nat}
    (hm : s.world.subscriptions < m) (hn : s.world.subscriptions < n)
    (heq : s.surroundings.subscriptionId m = s.surroundings.subscriptionId n) : m = n := by
  rcases Nat.lt_trichotomy m n with hlt | rfl | hgt
  · exact absurd heq (h.distinct m n hm hlt)
  · rfl
  · exact absurd heq.symm (h.distinct n m hn hgt)

theorem storedRow?_eq_none {x : Exchange Engine} (h : wroteRow x = false) : storedRow? x = none := by
  obtain ⟨q, a⟩ := x
  cases q with
  | createSubscription y =>
    cases a with
    | ok id => cases h
    | error f => rfl
  | updateSubscription y =>
    cases a with
    | ok => cases h
    | error f => rfl
  | _ => rfl

theorem now_given {e : Surroundings τ} {createdAt : Instant}
    (h : (World.handler e).Gives ⟨.now, createdAt⟩) : ∃ n, createdAt = e.createdAt n := by
  obtain ⟨w, w', hnow⟩ := h
  exact ⟨_, hnow⟩

/-- A subscription that is found in a turn is the one that the store has then. -/
theorem World.found_of_turn {e : Surroundings τ} {w w' : World τ}
    {q? : Option (Dialogue.Question Engine)} {id : String} {y : Subscription}
    (h : Task.Turn (handler e) w q? (some ⟨.findSubscription id, .ok y⟩) w') :
    w.store.getSubscription id = .ok y := by
  generalize hx : some (⟨.findSubscription id, .ok y⟩ : Exchange Engine) = x? at h
  have hguarded : ∀ w : World τ, (w.guarded .getSubscription fun w =>
      (w.store.getSubscription id, w)).1 = .ok y → w.store.getSubscription id = .ok y := by
    intro w hw
    unfold World.guarded at hw
    split at hw
    · cases hw
    · exact hw
  cases h with
  | rest => cases hx
  | prompt q now =>
    injection hx with hx
    injection hx with hq ha
    subst hq
    exact hguarded w (eq_of_heq ha).symm
  | asked q slow => cases hx
  | answered q w₀ slow =>
    injection hx with hx
    injection hx with hq ha
    subst hq
    exact absurd rfl slow

namespace Chronicle

variable {s : Session τ} {c c' : Chronicle τ}

/-- The row that the registration at an index holds. -/
def rowOf (c : Chronicle τ) (i : Nat) : Option Subscription := held (c.exchangesOf (.registration i))

/-- What holds of the rows of registrations, whatever has happened to them: each is in the store, its
id was new and is nobody else's, and the rows that no registration holds are as they were. -/
structure Paired (s : Session τ) (c : Chronicle τ) : Prop where
  stored : ∀ i x, c.rowOf i = some x → c.world.store.rows.get? x.id = some (.ok x)
  others : ∀ id, (∀ i x, c.rowOf i = some x → x.id ≠ id) →
    c.world.store.rows.get? id = s.world.store.rows.get? id
  counted : s.world.subscriptions ≤ c.world.subscriptions
  numbered : ∀ i x, c.rowOf i = some x → ∃ n, s.world.subscriptions < n ∧
    n ≤ c.world.subscriptions ∧ x.id = s.surroundings.subscriptionId n
  distinct : ∀ i j x y, c.rowOf i = some x → c.rowOf j = some y → x.id = y.id → i = j
  dated : ∀ i x, c.rowOf i = some x → x.createdAt.Valid
  unaltered : ∀ i, Unaltered (c.exchangesOf (.registration i))

/-- Turns that store nothing keep the rows of registrations. -/
theorem Paired.kept (h : c.Paired s) (hsame : c.world.SameRows c'.world)
    (hrows : ∀ i, c'.rowOf i = c.rowOf i)
    (hread : ∀ i, Unaltered (c'.exchangesOf (.registration i))) : c'.Paired s := by
  refine ⟨?_, ?_, ?_, ?_, ?_, ?_, hread⟩ <;> simp only [hrows, hsame.rows, hsame.subscriptions]
  · exact h.stored
  · exact h.others
  · exact h.counted
  · exact h.numbered
  · exact h.distinct
  · exact h.dated

/-- A registration stores its row: a new one, or the one that it holds in another form. -/
theorem Paired.put {i : Nat} {x : Subscription} (h : c.Paired s)
    (hrow : ∀ j, c'.rowOf j = if j = i then some x else c.rowOf j)
    (hstored : c'.world.store.rows = c.world.store.rows.insert x.id (.ok x))
    (hcount : c.world.subscriptions ≤ c'.world.subscriptions)
    (hnumber : ∃ n, s.world.subscriptions < n ∧ n ≤ c'.world.subscriptions ∧
      x.id = s.surroundings.subscriptionId n)
    (hbefore : ∀ y, c.rowOf i = some y → y.id = x.id)
    (hown : ∀ j y, c.rowOf j = some y → y.id = x.id → j = i) (hdate : x.createdAt.Valid)
    (hread : ∀ i, Unaltered (c'.exchangesOf (.registration i))) : c'.Paired s := by
  have hcases : ∀ {j y}, c'.rowOf j = some y → j = i ∧ y = x ∨ j ≠ i ∧ c.rowOf j = some y := by
    intro j y hy
    rw [hrow] at hy
    split at hy
    · next hj => exact .inl ⟨hj, (Option.some.inj hy).symm⟩
    · next hj => exact .inr ⟨hj, hy⟩
  refine ⟨?_, ?_, Nat.le_trans h.counted hcount, ?_, ?_, ?_, hread⟩
  · intro j y hy
    rw [hstored, Dict.get?_insert]
    rcases hcases hy with ⟨-, rfl⟩ | ⟨hj, hy⟩
    · simp
    · rw [if_neg fun hid => hj (hown j y hy hid.symm)]
      exact h.stored j y hy
  · intro id hid
    have hx : x.id ≠ id := hid i x (by simp [hrow])
    rw [hstored, Dict.get?_insert, if_neg hx]
    refine h.others id fun j y hy => ?_
    by_cases hj : j = i
    · subst hj
      rw [hbefore y hy]
      exact hx
    · exact hid j y (by simpa [hrow, hj] using hy)
  · intro j y hy
    rcases hcases hy with ⟨-, rfl⟩ | ⟨-, hy⟩
    · exact hnumber
    · obtain ⟨n, hlow, hhigh, hid⟩ := h.numbered j y hy
      exact ⟨n, hlow, Nat.le_trans hhigh hcount, hid⟩
  · intro j k y z hy hz hid
    rcases hcases hy with ⟨rfl, rfl⟩ | ⟨hj, hy⟩
    · rcases hcases hz with ⟨rfl, -⟩ | ⟨hk, hz⟩
      · rfl
      · exact (hown k z hz hid.symm).symm
    · rcases hcases hz with ⟨rfl, rfl⟩ | ⟨hk, hz⟩
      · exact hown j y hy hid
      · exact h.distinct j k y z hy hz hid
  · intro j y hy
    rcases hcases hy with ⟨-, rfl⟩ | ⟨-, hy⟩
    · exact hdate
    · exact h.dated j y hy

/-- After an exchange of one of them, registrations have still read back what they stored. -/
theorem Paired.reads {baseUrl : String} {t : Trigger} {i : Nat} {x : Exchange Engine}
    {next : x.question.Answer → Script Engine Unit} (h : c.Paired s)
    (htold : ∀ j, c'.exchangesOf (.registration j) =
      c.exchangesOf (.registration j) ++ if j = i then [x] else [])
    (hscript : Registration baseUrl t (c.exchangesOf (.registration i)) (.ask x.question next))
    (hfound : ∀ id y, x = ⟨.findSubscription id, .ok y⟩ →
      c.world.store.getSubscription id = .ok y) (j : Nat) :
    Unaltered (c'.exchangesOf (.registration j)) := by
  rw [htold]
  split
  · next hj =>
    subst hj
    refine hscript.unaltered (h.unaltered j) x.answer ?_
    rintro id y z hx hz rfl
    have hstored := Store.getSubscription_eq_ok_iff.mp (hfound z.id y hx)
    cases hstored.symm.trans (h.stored j z hz)
    rfl
  · simpa using h.unaltered j

theorem rowOf_turn {i : Nat} {x : Exchange Engine}
    (htold : ∀ j, c'.exchangesOf (.registration j) =
      c.exchangesOf (.registration j) ++ if j = i then [x] else []) (j : Nat) :
    c'.rowOf j = if j = i then (storedRow? x).or (c.rowOf j) else c.rowOf j := by
  simp only [rowOf, htold]
  split
  · simp [held_append]
  · simp

/-- One turn of a registration keeps the rows of all of them apart. -/
theorem Paired.turn {baseUrl : String} {t : Trigger} {i : Nat} {x : Exchange Engine}
    {next : x.question.Answer → Script Engine Unit} (hfresh : s.Fresh) (h : c.Paired s)
    (heffect : World.RowEffect s.surroundings c.world c'.world (some x))
    (htold : ∀ j, c'.exchangesOf (.registration j) =
      c.exchangesOf (.registration j) ++ if j = i then [x] else [])
    (hscript : Registration baseUrl t (c.exchangesOf (.registration i)) (.ask x.question next))
    (hgiven : ∀ y ∈ c.exchangesOf (.registration i), (World.handler s.surroundings).Gives y)
    (hfound : ∀ id y, x = ⟨.findSubscription id, .ok y⟩ →
      c.world.store.getSubscription id = .ok y) : c'.Paired s := by
  have hread := h.reads htold hscript hfound
  have hrow := rowOf_turn htold
  cases heffect with
  | @created z id number rows readBack count =>
    obtain ⟨hnone, -, createdAt, hnow, rfl⟩ := hscript.of_create
    have hdate : createdAt.Valid := by
      obtain ⟨n, rfl⟩ := now_given (hgiven _ hnow)
      exact hfresh.dated n
    rw [Store.readBack_of_valid (x := { newRow baseUrl t createdAt with id }) hdate] at rows
    have hnone' : c.rowOf i = none := hnone
    refine h.put (i := i) (x := { newRow baseUrl t createdAt with id }) ?_ rows ?_ ?_ ?_ ?_ hdate
      hread
    · intro j
      simp [hrow, storedRow?]
    · omega
    · exact ⟨c.world.subscriptions + 1, by have := h.counted; omega, by omega, number⟩
    · simp [hnone']
    · rintro j y hy hid
      -- The new id has a number that none of the rows before it has.
      obtain ⟨n, hlow, hhigh, hn⟩ := h.numbered j y hy
      have hsame := hfresh.eq_of_number hlow (n := c.world.subscriptions + 1)
        (by have := h.counted; omega) (hn.symm.trans (hid.trans number))
      omega
  | @updated z known rows readBack count =>
    obtain ⟨createdAt, id, ref, hheld, rfl⟩ := hscript.of_update (h.unaltered i)
    have hheld' : c.rowOf i = some { newRow baseUrl t createdAt with id } := hheld
    have hdate : createdAt.Valid := h.dated i _ hheld'
    rw [Store.readBack_of_valid hdate] at rows
    refine h.put (i := i) ?_ rows (Nat.le_of_eq count.symm) ?_ ?_ ?_ hdate hread
    · intro j
      simp [hrow, storedRow?]
    · rw [count]
      exact h.numbered i { newRow baseUrl t createdAt with id } hheld'
    · rintro y hy
      cases hheld'.symm.trans hy
      rfl
    · intro j y hy hid
      exact h.distinct j i y _ hy hheld' hid
  | deleted id rows => exact (Registration.not_delete hscript).elim
  | kept same quiet =>
    refine h.kept same ?_ hread
    intro j
    rw [hrow, storedRow?_eq_none (quiet x rfl)]
    simp

/-- Until the stored subscriptions are listed, only registrations complete exchanges: a turn of a
registration, or nothing that touches a row. -/
theorem Paired.step (hfresh : s.Fresh) (h : c.Sound s)
    (hgiven : ∀ y ∈ c.told, (World.handler s.surroundings).Gives y.2)
    (hpaired : c.questionsOf .listing = [] → c.Paired s) (event : LifeEvent)
    (hlisting : (c.step event).questionsOf .listing = []) : (c.step event).Paired s := by
  have hfollows := Follows.step c event
  have heffect := rowEffect_step h event
  have hstands := h.stands
  have hsurroundings := h.surroundings
  have hhappens := c.life.happens event
  rw [hfollows.questions, List.append_eq_nil_iff] at hlisting
  have hbefore := hpaired hlisting.1
  generalize c.step event = c' at *
  generalize c.life.asked? event = asked? at *
  generalize c.life.told? event = told? at *
  generalize c.life.heard? event = heard? at *
  generalize c.life.step event = l' at *
  have hquiet : told? = none → c'.Paired s := by
    rintro rfl
    have hexchanges : ∀ who, c'.exchangesOf who = c.exchangesOf who := fun who => by
      simp [hfollows.exchanges, entriesOf]
    cases heffect with
    | kept same quiet =>
      refine hbefore.kept same (fun i => by rw [rowOf, rowOf, hexchanges]) fun i => ?_
      rw [hexchanges]
      exact hbefore.unaltered i
  cases hhappens with
  | @registration i pool stage cancelled =>
    rw [stage] at hstands
    obtain ⟨-, hpool, -, -⟩ := hstands
    rw [hsurroundings] at hfollows heffect hquiet
    cases hx : pool.exchange? (World.handler s.surroundings) c.life.session.world i with
    | none => exact hquiet (by simp [hx])
    | some x =>
      have hturn := hpool.turn c.life.session.world i
      rw [hx] at heffect hfollows hturn
      obtain ⟨script, next, hscript, hleads⟩ := hpool.leads_of_exchange hx
      obtain ⟨t, -, rfl⟩ := List.mem_map.mp (List.mem_of_getElem? hscript)
      refine hbefore.turn hfresh heffect (fun j => (hfollows.turn .registration (by simp) j).2)
        (registration_of_leads hleads) ?_ ?_
      · exact fun y hy => hgiven _ (mem_told_of_exchangesOf hy)
      · rintro id y rfl
        exact World.found_of_turn hturn
  | listening stage => exact hquiet rfl
  | listed stage answer => simp [entriesOf] at hlisting
  | unlisted stage answer => simp [entriesOf] at hlisting
  | removal stage =>
    rw [stage] at hstands
    obtain ⟨registered, xs, -, -, -, hlisted, -⟩ := hstands
    cases hlisting.1.symm.trans hlisted.1
  | expired stage => exact hquiet rfl
  | cancelled => exact hquiet rfl
  | nothing event => exact hquiet rfl

/-- Where the registration of a trigger stands. -/
theorem Sound.standing (h : c.Sound s) (hpaired : c.Paired s) {i : Nat} {t : Trigger}
    (ht : s.config.triggers[i]? = some t) :
    Standing s.baseUrl t (c.questionsOf (.registration i)) (c.exchangesOf (.registration i))
      (c.rowOf i) := by
  have hscript : s.registrations[i]? = some (register s.baseUrl t) := by
    simp [Session.registrations, ht]
  rcases h.registration i with ⟨script, hscript', rest, hleads, hasked⟩ | ⟨hnone, -⟩
  · cases hscript.symm.trans hscript'
    exact (registration_of_leads hleads).standing (hpaired.unaltered i) hasked
  · cases hscript.symm.trans hnone

theorem Sound.trigger_of_question (h : c.Sound s) {i : Nat} {q : Question}
    (hq : q ∈ c.questionsOf (.registration i)) : ∃ t, s.config.triggers[i]? = some t := by
  rcases h.registration i with ⟨script, hscript, -⟩ | ⟨-, hnone, -⟩
  · obtain ⟨t, ht, -⟩ := by simpa [Session.registrations] using hscript
    exact ⟨t, ht⟩
  · rw [hnone] at hq
    cases hq

/-- Until the teardown only a registration calls a tracker with a webhook: at the address of the row
that it holds. -/
theorem Sound.subscribed (h : c.Sound s) (hpaired : c.Paired s) (huntouched : c.Untouched)
    {who : Asker} {tracker : String} {r : SubscribeRequest}
    (hcall : .subscribe tracker r ∈ c.questionsOf who) :
    ∃ i t x, who = .registration i ∧ s.config.triggers[i]? = some t ∧ c.rowOf i = some x ∧
      r.webhookUrl = x.url := by
  cases who with
  | listing =>
    rw [huntouched.listing.1] at hcall
    cases hcall
  | removal i =>
    rw [(huntouched.removal i).1] at hcall
    cases hcall
  | registration i =>
    obtain ⟨t, ht⟩ := h.trigger_of_question hcall
    have hstanding := h.standing hpaired ht
    have hmem : .subscribe tracker r ∈
        (c.questionsOf (.registration i)).filter Question.isSubscribe :=
      List.mem_filter.mpr ⟨hcall, rfl⟩
    cases hx : c.rowOf i with
    | none =>
      rw [hx] at hstanding
      cases hstanding with
      | rowless silent => simp [silent] at hmem
    | some x =>
      rw [hx] at hstanding
      obtain ⟨-, -, -, -, vars, -, hcalls, -⟩ := hstanding.of_row
      refine ⟨i, t, x, rfl, ht, hx, ?_⟩
      rcases hcalls with hcalls | hcalls
      · simp [hcalls] at hmem
      · obtain ⟨-, rfl⟩ : tracker = t.tracker ∧ r = ⟨x.url, vars⟩ := by
          simpa [hcalls, subscription] using hmem
        rfl

/-- A session with two triggers at one desk, where subscriptions are numbered by strokes. -/
def opening : Session Unit where
  config :=
    { server := { baseUrl := "http://localhost/" }
      triggers := [{ name := "mail", tracker := "desk" }, { name := "post", tracker := "desk" }] }
  surroundings :=
    { Course.desk with subscriptionId := fun n => String.ofList (List.replicate n 's') }
  world := { store := .memory {}, trackers := () }

end Chronicle
end TicketSync.Engine
