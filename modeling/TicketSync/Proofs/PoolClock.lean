import TicketSync.Proofs.ScriptTrace
import TicketSync.Script.Clock

/-! # Gathered scripts are a pool

Scripts on the clock take their turns one at a time, as a pool of tasks does, and the clock decides
only whose turn is next. So for every gathering there are turns with which the pool of its scripts
comes to the same state and the same ends, and none of them is taken after all have ended, or after
the failure that stops the gathering. -/
namespace TicketSync

variable {D : Dialogue} {σ α : Type}

/-! ### Turns of a pool -/

/-- Whether nothing happens to a pool of gathered scripts any more. -/
def Gathering.rests (g : Gathering) (pool : Pool D σ α) : Bool :=
  pool.ended || (g.stopsAtFailure && pool.failure?.isSome)

/-- A pool and its state after turns that it takes while it does not rest. -/
inductive Gathering.Comes (g : Gathering) (h : Handler D σ) (x : Pool D σ α × σ) :
    Pool D σ α × σ → Prop
  | refl : Comes g h x x
  | turn {y : Pool D σ α × σ} (i : Nat) (before : Comes g h x y) (goes : g.rests y.1 = false) :
      Comes g h x (y.1.step h y.2 i)

theorem Gathering.Comes.trans {g : Gathering} {h : Handler D σ} {x y z : Pool D σ α × σ}
    (hxy : g.Comes h x y) (hyz : g.Comes h y z) : g.Comes h x z := by
  induction hyz with
  | refl => exact hxy
  | turn i before goes ih => exact .turn i ih goes

theorem Pool.step_of_getElem? {h : Handler D σ} {pool : Pool D σ α} {i : Nat} {t : Task D σ α}
    (hi : pool[i]? = some t) (s : σ) :
    pool.step h s i = (pool.set i (t.step h s).1, (t.step h s).2) := by
  simp [Pool.step, hi]

/-- A pool goes on while one task has not ended and no failure stops it. -/
theorem Gathering.goes_of_task {g : Gathering} {pool : Pool D σ α} {i : Nat} {t : Task D σ α}
    (hi : pool[i]? = some t) (ht : t.outcome? = none)
    (hcalm : g.stopsAtFailure = true → ∀ t ∈ pool, ∀ f, t.outcome? ≠ some (.error f)) :
    g.rests pool = false := by
  have hended : pool.ended = false := by
    rw [Pool.ended, List.all_eq_false]
    exact ⟨t, List.mem_of_getElem? hi, by simp [ht]⟩
  rw [rests, hended, Bool.false_or, Bool.and_eq_false_imp]
  intro hstops
  have hnone : pool.failure? = none := by
    rw [Pool.failure?, List.findSome?_eq_none_iff]
    intro t ht
    split
    · next f hf => exact absurd hf (hcalm hstops t ht f)
    · rfl
  rw [hnone]
  rfl

/-- A task as it stands when its script has to wait or has ended. -/
inductive Task.PausedAt : Task D σ α → Pause D σ α → Prop
  | ended (r : Outcome α) : PausedAt (.ready (.ofOutcome r)) (.ended r)
  | asleep (q : D.Question) (p : Pending σ (D.Answer q)) (next : D.Answer q → Script D α) :
      PausedAt (.waiting q p next) (.asleep p.delay fun s => (next (p.finish s).1, (p.finish s).2))

theorem Task.outcome?_ofOutcome (r : Outcome α) :
    (Task.ready (.ofOutcome r) : Task D σ α).outcome? = some r := by
  cases r <;> rfl

/-- A script that runs until it has to wait takes turns of its own task. -/
theorem Gathering.comes_advance {g : Gathering} {h : Handler D σ} {pool : Pool D σ α} {i : Nat}
    (script : Script D α) (s : σ) (hi : pool[i]? = some (.ready script))
    (hcalm : g.stopsAtFailure = true → ∀ j t, pool[j]? = some t → j ≠ i →
      ∀ f, t.outcome? ≠ some (.error f)) :
    ∃ t, t.PausedAt (script.advance h s).1 ∧
      g.Comes h (pool, s) (pool.set i t, (script.advance h s).2) := by
  induction script generalizing pool s with
  | done x =>
    refine ⟨.ready (.done x), .ended (.ok x), ?_⟩
    rw [set_of_getElem? hi]
    exact .refl
  | fail f =>
    refine ⟨.ready (.fail f), .ended (.error f), ?_⟩
    rw [set_of_getElem? hi]
    exact .refl
  | ask q next ih =>
    have hlt : i < pool.length := (List.getElem?_eq_some_iff.mp hi).1
    have hgoes : g.rests pool = false := by
      refine goes_of_task hi rfl fun hstops t ht f hf => ?_
      obtain ⟨j, hj⟩ := List.getElem?_of_mem ht
      by_cases hji : j = i
      · subst hji
        cases hi.symm.trans hj
        cases hf
      · exact hcalm hstops j t hj hji f hf
    have hturn : g.Comes h (pool, s) (pool.step h s i) := .turn i .refl hgoes
    rw [Pool.step_of_getElem? hi] at hturn
    generalize hasked : h q s = asked at *
    obtain ⟨pending, s'⟩ := asked
    by_cases hdelay : pending.delay = some 0
    · simp only [Task.step, hasked, hdelay, if_true] at hturn
      simp only [Script.advance, hasked, hdelay, if_true]
      have hnext : (pool.set i (.ready (next (pending.finish s').1)))[i]? =
          some (.ready (next (pending.finish s').1)) := List.getElem?_set_self hlt
      obtain ⟨t, ht, hcomes⟩ := ih _ (pending.finish s').2 hnext fun hstops j t hj hji => by
        rw [List.getElem?_set_ne (Ne.symm hji)] at hj
        exact hcalm hstops j t hj hji
      refine ⟨t, ht, hturn.trans ?_⟩
      simpa using hcomes
    · simp only [Task.step, hasked, hdelay, if_false] at hturn
      simp only [Script.advance, hasked, hdelay, if_false]
      exact ⟨_, .asleep q pending next, hturn⟩

/-! ### What a gathering shows of its pool -/

/-- The places of gathered scripts: of one that is between two places, of those that are about to
wake, of those that sleep, of those that have not begun, and of those that have ended. -/
def Gathered.places (x : Gathered D σ α) (between : List Nat) (woken : List (Sleeper D σ α))
    (queue : List (Nat × Script D α)) : List Nat :=
  between ++ (woken ++ x.asleep).map (·.index) ++ queue.map (·.1) ++ x.outcomes.map (·.1)

/-- A pool that a gathering stands for. Each script is in one place, and its task stands there; only
scripts that a failure has stopped have none. -/
structure Gathering.Mirrors (g : Gathering) (between : List Nat) (woken : List (Sleeper D σ α))
    (queue : List (Nat × Script D α)) (x : Gathered D σ α) (pool : Pool D σ α) : Prop where
  asleep : ∀ y ∈ woken ++ x.asleep, ∃ delay t, pool[y.index]? = some t ∧
    t.PausedAt (.asleep delay y.wake)
  unlimited : g.eachLimit = none → ∀ y ∈ woken ++ x.asleep, y.expires = none
  queued : ∀ e ∈ queue, pool[e.1]? = some (.ready e.2) ∧
    (Task.ready e.2 : Task D σ α).outcome? = none
  outcomes : ∀ e ∈ x.outcomes, ∃ t, pool[e.1]? = some t ∧ (t.outcome? = some e.2 ∨
    t.outcome? = none ∧ g.eachLimit ≠ none ∧ ∃ l, e.2 = .error (.timeout l))
  ended : ∀ i t, pool[i]? = some t → t.outcome?.isSome = true → i ∉ between →
    i ∈ x.outcomes.map (·.1)
  distinct : (x.places between woken queue).Nodup
  all : g.stopped x = false → ∀ i < pool.length, i ∈ x.places between woken queue
  failsOnce : g.stopsAtFailure = true → ∀ e ∈ x.outcomes, ∀ e' ∈ x.outcomes, ∀ f f',
    e.2 = .error f → e'.2 = .error f' → e = e'

namespace Gathering.Mirrors

variable {g : Gathering} {h : Handler D σ} {between : List Nat} {queue : List (Nat × Script D α)}
  {woken : List (Sleeper D σ α)} {x x' : Gathered D σ α} {pool : Pool D σ α} {i : Nat}

theorem failed_of_mem {e : Nat × Outcome α} {f : Failure} (he : e ∈ x.outcomes)
    (hf : e.2 = .error f) : x.failure?.isSome = true := by
  rw [Gathered.failure?, List.findSome?_isSome_iff]
  obtain ⟨i, r⟩ := e
  cases hf
  exact ⟨_, he, rfl⟩

theorem not_failed (hgoes : g.stopped x = false) (hstops : g.stopsAtFailure = true)
    {e : Nat × Outcome α} (he : e ∈ x.outcomes) (f : Failure) : e.2 ≠ .error f := by
  intro hf
  simp [stopped, hstops, failed_of_mem he hf] at hgoes

/-- Until a failure stops a gathering, no task has failed. -/
theorem calm (hm : g.Mirrors between woken queue x pool) (hgoes : g.stopped x = false)
    (hstops : g.stopsAtFailure = true) {j : Nat} {t : Task D σ α} (hj : pool[j]? = some t)
    (hbetween : j ∉ between) (f : Failure) : t.outcome? ≠ some (.error f) := by
  intro hf
  obtain ⟨e, he, rfl⟩ := List.mem_map.mp (hm.ended j t hj (by simp [hf]) hbetween)
  obtain ⟨t', ht', hr | ⟨hnone, -⟩⟩ := hm.outcomes e he
  · cases hj.symm.trans ht'
    exact not_failed hgoes hstops he f (Option.some.inj (hr.symm.trans hf))
  · cases hj.symm.trans ht'
    simp [hnone] at hf

/-! #### Between two places -/

/-- A script between two places is in none. -/
theorem apart (hm : g.Mirrors [i] woken queue x pool) :
    (∀ y ∈ woken ++ x.asleep, y.index ≠ i) ∧ (∀ e ∈ queue, e.1 ≠ i) ∧
      ∀ e ∈ x.outcomes, e.1 ≠ i := by
  have hfree : i ∉ x.places [] woken queue := (List.nodup_cons.mp hm.distinct).1
  refine ⟨?_, ?_, ?_⟩
  · rintro y hy rfl
    exact hfree (List.mem_append_left _ (List.mem_append_left _ (List.mem_append_right _
      (List.mem_map_of_mem hy))))
  · rintro e he rfl
    exact hfree (List.mem_append_left _ (List.mem_append_right _ (List.mem_map_of_mem he)))
  · rintro e he rfl
    exact hfree (List.mem_append_right _ (List.mem_map_of_mem he))

/-- A script between two places may go on, in any state of the gathering. -/
theorem set (hm : g.Mirrors [i] woken queue x pool) (t : Task D σ α) (state : σ) :
    g.Mirrors [i] woken queue { x with state } (pool.set i t) := by
  obtain ⟨hsleepers, hqueue, hends⟩ := hm.apart
  have hother : ∀ {k : Nat}, k ≠ i → (pool.set i t)[k]? = pool[k]? := fun hk =>
    List.getElem?_set_ne (Ne.symm hk)
  refine ⟨?_, hm.unlimited, ?_, ?_, ?_, hm.distinct, ?_, hm.failsOnce⟩
  · intro y hy
    rw [hother (hsleepers y hy)]
    exact hm.asleep y hy
  · intro e he
    rw [hother (hqueue e he)]
    exact hm.queued e he
  · intro e he
    rw [hother (hends e he)]
    exact hm.outcomes e he
  · intro k t' hk hover hki
    rw [hother (by simpa using hki)] at hk
    exact hm.ended k t' hk hover hki
  · intro hgoes k hk
    rw [List.length_set] at hk
    exact hm.all hgoes k hk

/-- The first of those that are about to wake leaves its place. -/
theorem wakes {y : Sleeper D σ α} (hm : g.Mirrors [] (y :: woken) queue x pool) :
    g.Mirrors [y.index] woken queue x pool where
  asleep z hz := hm.asleep z (List.mem_cons_of_mem _ hz)
  unlimited hlimit z hz := hm.unlimited hlimit z (List.mem_cons_of_mem _ hz)
  queued := hm.queued
  outcomes := hm.outcomes
  ended k t hk hover _ := hm.ended k t hk hover List.not_mem_nil
  distinct := hm.distinct
  all := hm.all
  failsOnce := hm.failsOnce

/-- The first of those that have not begun leaves its place. -/
theorem begins {script : Script D α} (hm : g.Mirrors [] woken ((i, script) :: queue) x pool) :
    g.Mirrors [i] woken queue x pool := by
  have hplaces : (x.places [i] woken queue).Perm (x.places [] woken ((i, script) :: queue)) := by
    rw [List.perm_iff_count]
    intro k
    simp only [Gathered.places, List.map_cons, List.count_append, List.count_cons, List.count_nil]
    omega
  refine ⟨hm.asleep, hm.unlimited, ?_, hm.outcomes, ?_, ?_, ?_, hm.failsOnce⟩
  · exact fun e he => hm.queued e (List.mem_cons_of_mem _ he)
  · exact fun k t hk hover _ => hm.ended k t hk hover List.not_mem_nil
  · exact hplaces.nodup_iff.mpr hm.distinct
  · exact fun hgoes k hk => hplaces.mem_iff.mpr (hm.all hgoes k hk)

theorem places_settled {new : List (Sleeper D σ α)} {fin : List (Nat × Outcome α)}
    (hasleep : x'.asleep = x.asleep ++ new) (houtcomes : x'.outcomes = x.outcomes ++ fin)
    (hplace : new.map (·.index) ++ fin.map (·.1) = [i]) :
    (x'.places [] woken queue).Perm (x.places [i] woken queue) := by
  have hperm : (x'.places [] woken queue).Perm ((new.map (·.index) ++ fin.map (·.1)) ++
      x.places [] woken queue) := by
    rw [List.perm_iff_count]
    intro k
    simp only [Gathered.places, hasleep, houtcomes, List.map_append, List.count_append,
      List.count_nil]
    omega
  rwa [hplace] at hperm

/-- A script comes to its next place: it sleeps, or it has ended. -/
theorem settle {t : Task D σ α} (hm : g.Mirrors [i] woken queue x pool) (hi : pool[i]? = some t)
    (hgoes : g.stopped x = false) (new : List (Sleeper D σ α)) (fin : List (Nat × Outcome α))
    (hasleep : x'.asleep = x.asleep ++ new) (houtcomes : x'.outcomes = x.outcomes ++ fin)
    (hplace : new.map (·.index) ++ fin.map (·.1) = [i])
    (hnew : ∀ y ∈ new, ∃ delay, t.PausedAt (.asleep delay y.wake))
    (hunlimited : g.eachLimit = none → ∀ y ∈ new, y.expires = none)
    (hfin : ∀ e ∈ fin, t.outcome? = some e.2 ∨
      t.outcome? = none ∧ g.eachLimit ≠ none ∧ ∃ l, e.2 = .error (.timeout l))
    (hended : t.outcome?.isSome = true → i ∈ fin.map (·.1)) :
    g.Mirrors [] woken queue x' pool := by
  have hindex : ∀ k ∈ new.map (·.index) ++ fin.map (·.1), k = i := by simp [hplace]
  have hplaces : (x'.places [] woken queue).Perm (x.places [i] woken queue) :=
    places_settled hasleep houtcomes hplace
  refine ⟨?_, ?_, hm.queued, ?_, ?_, ?_, ?_, ?_⟩
  · intro y hy
    rw [hasleep, ← List.append_assoc] at hy
    rcases List.mem_append.mp hy with hy | hy
    · exact hm.asleep y hy
    · obtain ⟨delay, hpaused⟩ := hnew y hy
      rw [hindex y.index (List.mem_append_left _ (List.mem_map_of_mem hy))]
      exact ⟨delay, t, hi, hpaused⟩
  · intro hlimit y hy
    rw [hasleep, ← List.append_assoc] at hy
    rcases List.mem_append.mp hy with hy | hy
    · exact hm.unlimited hlimit y hy
    · exact hunlimited hlimit y hy
  · intro e he
    rw [houtcomes] at he
    rcases List.mem_append.mp he with he | he
    · exact hm.outcomes e he
    · rw [hindex e.1 (List.mem_append_right _ (List.mem_map_of_mem he))]
      exact ⟨t, hi, hfin e he⟩
  · intro k t' hk hover _
    rw [houtcomes, List.map_append, List.mem_append]
    by_cases hki : k = i
    · subst hki
      cases hi.symm.trans hk
      exact .inr (hended hover)
    · exact .inl (hm.ended k t' hk hover (by simpa using hki))
  · exact hplaces.nodup_iff.mpr hm.distinct
  · exact fun _ k hk => hplaces.mem_iff.mpr (hm.all hgoes k hk)
  · intro hstops e he e' he' f f' hf hf'
    rw [houtcomes] at he he'
    -- Before this one none has failed.
    have hnew : ∀ e ∈ x.outcomes ++ fin, ∀ f, e.2 = .error f → e ∈ fin := fun e he f hf =>
      (List.mem_append.mp he).resolve_left fun hbefore => not_failed hgoes hstops hbefore f hf
    have hone : fin.length ≤ 1 := by
      have hlength := congrArg List.length hplace
      simp only [List.length_append, List.length_map, List.length_singleton] at hlength
      omega
    obtain ⟨z, rfl⟩ := List.length_eq_one_iff.mp
      (Nat.le_antisymm hone (List.length_pos_of_mem (hnew e he f hf)))
    rw [List.mem_singleton.mp (hnew e he f hf), List.mem_singleton.mp (hnew e' he' f' hf')]

/-! #### What the clock does -/

theorem resume {script : Script D α} {expires : Option (Nat × Nat)}
    (hm : g.Mirrors [i] woken queue x pool) (hi : pool[i]? = some (.ready script))
    (hgoes : g.stopped x = false) (hexpires : g.eachLimit = none → expires = none) :
    ∃ pool', g.Comes h (pool, x.state) (pool', (g.resume (fun _ _ => h) i expires script x).state) ∧
      g.Mirrors [] woken queue (g.resume (fun _ _ => h) i expires script x) pool' := by
  obtain ⟨t, hpaused, hcomes⟩ := comes_advance (h := h) script x.state hi
    fun hstops j t hj hji f => hm.calm hgoes hstops hj (by simpa using hji) f
  have hlt : i < pool.length := (List.getElem?_eq_some_iff.mp hi).1
  have ht : (pool.set i t)[i]? = some t := List.getElem?_set_self hlt
  refine ⟨pool.set i t, ?_⟩
  unfold Gathering.resume
  generalize script.advance h x.state = paused at hpaused hcomes
  obtain ⟨pause, s'⟩ := paused
  have hset := hm.set t s'
  cases hpaused with
  | ended r =>
    refine ⟨hcomes, hset.settle ht hgoes [] [(i, r)] (List.append_nil _).symm rfl rfl (by simp)
      (by simp) ?_ (by simp)⟩
    simp [Task.outcome?_ofOutcome]
  | asleep q p next =>
    simp only
    split
    · next hover =>
      refine ⟨hcomes, hset.settle ht hgoes [] [(i, _)] (List.append_nil _).symm rfl rfl (by simp)
        (by simp) ?_ (by simp)⟩
      have hlimit : g.eachLimit ≠ none := by
        intro hnone
        simp [hexpires hnone, hnone] at hover
      simp [Task.outcome?, hlimit]
    · refine ⟨hcomes, hset.settle ht hgoes [_] [] rfl (List.append_nil _).symm rfl ?_ ?_ (by simp) ?_⟩
      · intro y hy
        rw [List.mem_singleton.mp hy]
        exact ⟨_, .asleep q p next⟩
      · intro hnone y hy
        rw [List.mem_singleton.mp hy]
        simp [hexpires hnone, hnone]
      · simp [Task.outcome?]

/-- After a failure has stopped a gathering, only those that sleep and those that have ended keep
their places. -/
theorem stop (hm : g.Mirrors [] woken queue x pool) (hstopped : g.stopped x = true)
    {queue' : List (Nat × Script D α)} (hqueue : queue'.Sublist queue) :
    g.Mirrors [] [] queue' x pool where
  asleep y hy := hm.asleep y (List.mem_append_right _ hy)
  unlimited hlimit y hy := hm.unlimited hlimit y (List.mem_append_right _ hy)
  queued e he := hm.queued e (hqueue.subset he)
  outcomes := hm.outcomes
  ended := hm.ended
  distinct := by
    refine hm.distinct.sublist ?_
    simp only [Gathered.places, List.nil_append, List.map_append]
    exact ((List.sublist_append_right _ _).append (hqueue.map _)).append (.refl _)
  all hgoes := by simp [hstopped] at hgoes
  failsOnce := hm.failsOnce

theorem resume_now (i : Nat) (expires : Option (Nat × Nat)) (script : Script D α) :
    (g.resume (fun _ _ => h) i expires script x).now = x.now := by
  unfold Gathering.resume
  split
  · rfl
  · simp only
    split <;> rfl

theorem wake (hm : g.Mirrors [] woken queue x pool)
    (hdue : ∀ y ∈ woken, y.moment.any (· ≤ x.now) = true) :
    ∃ pool', g.Comes h (pool, x.state) (pool', (g.wake (fun _ _ => h) woken x).state) ∧
      g.Mirrors [] [] queue (g.wake (fun _ _ => h) woken x) pool' := by
  induction woken generalizing x pool with
  | nil => exact ⟨pool, .refl, hm⟩
  | cons y woken ih =>
    simp only [Gathering.wake]
    split
    · next hstopped => exact ⟨pool, .refl, hm.stop hstopped (.refl _)⟩
    · next hgoes =>
      rw [Bool.not_eq_true] at hgoes
      obtain ⟨i, due, order, expires, wake⟩ := y
      obtain ⟨delay, t, ht, hpaused⟩ := hm.asleep ⟨i, due, order, expires, wake⟩ (by simp)
      have hexpires : g.eachLimit = none → expires = none := fun hnone =>
        hm.unlimited hnone ⟨i, due, order, expires, wake⟩ (by simp)
      have hlt : i < pool.length := (List.getElem?_eq_some_iff.mp ht).1
      cases hpaused with
      | asleep q p next =>
        simp only
        split
        · -- The answer is due: it is a turn of the sleeper's task, and its script runs on.
          have hturn : g.Comes h (pool, x.state) (pool.step h x.state i) := by
            refine .turn i .refl (goes_of_task ht rfl fun hstops t ht f => ?_)
            obtain ⟨j, hj⟩ := List.getElem?_of_mem ht
            exact hm.calm hgoes hstops hj (by simp) f
          rw [Pool.step_of_getElem? ht] at hturn
          obtain ⟨pool', hresumed, hm'⟩ := (hm.wakes.set (.ready (next (p.finish x.state).1))
            (p.finish x.state).2).resume (h := h) (List.getElem?_set_self hlt) hgoes hexpires
          obtain ⟨pool'', hwoken, hm''⟩ := ih hm' fun z hz => by
            rw [resume_now]
            exact hdue z (List.mem_cons_of_mem _ hz)
          exact ⟨pool'', (hturn.trans hresumed).trans hwoken, hm''⟩
        · next hnot =>
          have hlimit : g.eachLimit ≠ none := by
            intro hnone
            have hmoment := hdue _ List.mem_cons_self
            rw [Sleeper.moment, hexpires hnone] at hmoment
            cases due with
            | none => cases hmoment
            | some d => exact hnot hmoment
          have hm' : g.Mirrors [] woken queue
              (x.finish i (.error (.timeout (g.eachLimit.getD 0)))) pool :=
            hm.wakes.settle ht hgoes [] [(i, _)] (List.append_nil _).symm rfl rfl (by simp) (by simp)
              (by simp [Task.outcome?, hlimit]) (by simp)
          exact ih hm' fun z hz => hdue z (List.mem_cons_of_mem _ hz)

theorem letIn (hm : g.Mirrors [] [] queue x pool) :
    ∃ pool', g.Comes h (pool, x.state) (pool', (g.letIn (fun _ _ => h) queue x).2.state) ∧
      g.Mirrors [] [] (g.letIn (fun _ _ => h) queue x).1 (g.letIn (fun _ _ => h) queue x).2 pool' := by
  induction queue generalizing x pool with
  | nil => exact ⟨pool, .refl, hm⟩
  | cons e queue ih =>
    obtain ⟨i, script⟩ := e
    simp only [Gathering.letIn]
    split
    · next hstopped => exact ⟨pool, .refl, hm.stop hstopped (List.nil_sublist _)⟩
    · next hgoes =>
      rw [Bool.not_eq_true] at hgoes
      split
      · obtain ⟨pool', hresumed, hm'⟩ := hm.begins.resume (h := h)
          (hm.queued _ List.mem_cons_self).1 hgoes fun _ => rfl
        obtain ⟨pool'', hrest, hm''⟩ := ih hm'
        exact ⟨pool'', hresumed.trans hrest, hm''⟩
      · exact ⟨pool, .refl, hm⟩

/-- Without a bound on their number all scripts begin. -/
theorem letIn_fst_eq_nil (hwidth : g.width = none) (x : Gathered D σ α) :
    (g.letIn (fun _ _ => h) queue x).1 = [] := by
  induction queue generalizing x with
  | nil => rfl
  | cons e queue ih =>
    obtain ⟨i, script⟩ := e
    simp only [Gathering.letIn, hwidth, Option.all_none, if_true]
    split
    · rfl
    · exact ih _

theorem moveTo (hm : g.Mirrors [] [] queue x pool) (t : Nat) :
    ∃ pool', g.Comes h (pool, x.state) (pool', (g.moveTo (fun _ _ => h) t x).state) ∧
      g.Mirrors [] [] queue (g.moveTo (fun _ _ => h) t x) pool' := by
  simp only [Gathering.moveTo, List.partition_eq_filter_filter]
  generalize hsorted : (x.asleep.filter fun y => y.moment.any (· ≤ t)).mergeSort
    (fun a b => a.place ≤ b.place) = woken
  generalize hrest : x.asleep.filter (not ∘ fun y => y.moment.any (· ≤ t)) = asleep
  have hperm : (woken ++ asleep).Perm x.asleep := by
    rw [← hsorted, ← hrest]
    exact ((List.mergeSort_perm _ _).append_right _).trans (List.filter_append_perm _ _)
  have hplaces : (Gathered.places { x with now := t, asleep } [] woken queue).Perm
      (x.places [] [] queue) :=
    ((hperm.map _).append_right _).append_right _
  have hm' : g.Mirrors [] woken queue { x with now := t, asleep } pool := by
    refine ⟨?_, ?_, hm.queued, hm.outcomes, hm.ended, ?_, ?_, hm.failsOnce⟩
    · exact fun y hy => hm.asleep y (hperm.mem_iff.mp hy)
    · exact fun hnone y hy => hm.unlimited hnone y (hperm.mem_iff.mp hy)
    · exact hplaces.nodup_iff.mpr hm.distinct
    · exact fun hgoes k hk => hplaces.mem_iff.mpr (hm.all hgoes k hk)
  refine hm'.wake fun y hy => ?_
  rw [← hsorted, List.mem_mergeSort] at hy
  exact (List.mem_filter.mp hy).2

theorem onClock (hm : g.Mirrors [] [] queue x pool) (now : Nat) (timedOut : Bool) :
    g.Mirrors [] [] queue { x with now, timedOut } pool :=
  ⟨hm.asleep, hm.unlimited, hm.queued, hm.outcomes, hm.ended, hm.distinct, hm.all, hm.failsOnce⟩

theorem proceed (hm : g.Mirrors [] [] queue x pool) (ends : Option Nat) (moments : Nat) :
    ∃ queue' pool', g.Comes h (pool, x.state)
        (pool', (g.proceed (fun _ _ => h) ends moments queue x).state) ∧
      g.Mirrors [] [] queue' (g.proceed (fun _ _ => h) ends moments queue x) pool' ∧
      (queue = [] → queue' = []) := by
  induction moments generalizing queue x pool with
  | zero => exact ⟨queue, pool, .refl, hm, id⟩
  | succ moments ih =>
    cases hgoes : g.stopped x || x.asleep.isEmpty with
    | true =>
      simp only [Gathering.proceed, hgoes, if_true]
      exact ⟨queue, pool, .refl, hm, id⟩
    | false =>
      cases hnext : x.nextMoment with
      | none =>
        simp only [Gathering.proceed, hgoes, hnext, Bool.false_eq_true, if_false]
        cases ends with
        | none => exact ⟨queue, pool, .refl, hm, id⟩
        | some e => exact ⟨queue, pool, .refl, hm.onClock _ _, id⟩
      | some t =>
        simp only [Gathering.proceed, hgoes, hnext, Bool.false_eq_true, if_false]
        split
        · exact ⟨queue, pool, .refl, hm.onClock _ _, id⟩
        · obtain ⟨pool₁, hmoved, hm₁⟩ := hm.moveTo (h := h) t
          obtain ⟨pool₂, hbegun, hm₂⟩ := hm₁.letIn (h := h)
          have hnone : queue = [] → (g.letIn (fun _ _ => h) queue
              (g.moveTo (fun _ _ => h) t x)).1 = [] := by
            rintro rfl
            rfl
          split
          · exact ⟨_, pool₂, hmoved.trans hbegun, hm₂.onClock _ _, hnone⟩
          · obtain ⟨queue', pool₃, hrest, hm₃, hnone'⟩ := ih hm₂
            exact ⟨queue', pool₃, (hmoved.trans hbegun).trans hrest, hm₃, hnone' ∘ hnone⟩

/-! #### The ends of a gathering -/

/-- The failure that has stopped a gathering is the one failure of its pool. -/
theorem failure?_eq (hm : g.Mirrors [] [] queue x pool) (hlimit : g.eachLimit = none)
    (hstops : g.stopsAtFailure = true) {f : Failure} (hf : x.failure? = some f) :
    pool.failure? = some f := by
  obtain ⟨e, he, hef⟩ : ∃ e ∈ x.outcomes, e.2 = .error f := by
    obtain ⟨e, he, hfe⟩ := List.exists_of_findSome?_eq_some hf
    obtain ⟨i, r⟩ := e
    cases r with
    | ok a => cases hfe
    | error f' =>
      cases hfe
      exact ⟨_, he, rfl⟩
  obtain ⟨t, ht, hr | ⟨-, hnot, -⟩⟩ := hm.outcomes e he
  · cases hfailure : pool.failure? with
    | none =>
      have hnone := List.findSome?_eq_none_iff.mp hfailure t (List.mem_of_getElem? ht)
      simp [hr, hef] at hnone
    | some f' =>
      -- The pool's failure has an outcome, and only one outcome is a failure.
      obtain ⟨t', ht', hf'⟩ := List.exists_of_findSome?_eq_some hfailure
      have hover : t'.outcome? = some (.error f') := by
        split at hf'
        · cases hf'
          assumption
        · cases hf'
      obtain ⟨j, hj⟩ := List.getElem?_of_mem ht'
      obtain ⟨e', he', rfl⟩ := List.mem_map.mp (hm.ended j t' hj (by simp [hover]) List.not_mem_nil)
      obtain ⟨t'', ht'', hr' | ⟨-, hnot, -⟩⟩ := hm.outcomes e' he'
      · cases hj.symm.trans ht''
        have hef' : e'.2 = .error f' := Option.some.inj (hr'.symm.trans hover)
        obtain rfl := hm.failsOnce hstops e he e' he' f f' hef hef'
        cases hef.symm.trans hef'
        rfl
      · exact absurd hlimit hnot
  · exact absurd hlimit hnot

/-- When nothing waits to begin any more, each task sleeps or has ended. -/
theorem paused (hm : g.Mirrors [] [] [] x pool) (hlimit : g.eachLimit = none)
    (hgoes : g.stopped x = false) {t : Task D σ α} (ht : pool[i]? = some t) :
    (∃ delay wake, t.PausedAt (.asleep delay wake)) ∨ t.outcome?.isSome = true := by
  have hi := hm.all hgoes i (List.getElem?_eq_some_iff.mp ht).1
  simp only [Gathered.places, List.nil_append, List.map_nil, List.append_nil] at hi
  rcases List.mem_append.mp hi with hi | hi
  · obtain ⟨y, hy, rfl⟩ := List.mem_map.mp hi
    obtain ⟨delay, t', ht', hpaused⟩ := hm.asleep y hy
    cases ht.symm.trans ht'
    exact .inl ⟨delay, y.wake, hpaused⟩
  · obtain ⟨o, ho, rfl⟩ := List.mem_map.mp hi
    obtain ⟨t', ht', hr | ⟨-, hlimited, -⟩⟩ := hm.outcomes o ho
    · cases ht.symm.trans ht'
      exact .inr (by simp [hr])
    · exact absurd hlimit hlimited

/-- When nothing sleeps or waits to begin, all have ended: the outcomes are those of the tasks. -/
theorem outcome_of_over (hm : g.Mirrors [] [] [] x pool) (hlimit : g.eachLimit = none)
    (hasleep : x.asleep = []) (hgoes : g.stopped x = false) :
    (x.outcomes.map (·.1)).Perm (List.range pool.length) ∧
      ∀ e ∈ x.outcomes, ∃ t, pool[e.1]? = some t ∧ t.outcome? = some e.2 := by
  have hplaces : x.places [] [] [] = x.outcomes.map (·.1) := by simp [Gathered.places, hasleep]
  have hdistinct := hm.distinct
  have hall := hm.all hgoes
  rw [hplaces] at hdistinct hall
  have hends : ∀ e ∈ x.outcomes, ∃ t, pool[e.1]? = some t ∧ t.outcome? = some e.2 := by
    intro e he
    obtain ⟨t, ht, hr | ⟨-, hnot, -⟩⟩ := hm.outcomes e he
    · exact ⟨t, ht, hr⟩
    · exact absurd hlimit hnot
  refine ⟨?_, hends⟩
  refine (List.perm_ext_iff_of_nodup hdistinct List.nodup_range).mpr fun i => ?_
  rw [List.mem_range]
  refine ⟨fun hi => ?_, hall i⟩
  obtain ⟨e, he, rfl⟩ := List.mem_map.mp hi
  obtain ⟨t, ht, -⟩ := hends e he
  exact (List.getElem?_eq_some_iff.mp ht).1

theorem ended_of_over (hm : g.Mirrors [] [] [] x pool) (hlimit : g.eachLimit = none)
    (hasleep : x.asleep = []) (hgoes : g.stopped x = false) : pool.ended = true := by
  obtain ⟨hperm, hends⟩ := hm.outcome_of_over hlimit hasleep hgoes
  refine List.all_eq_true.mpr fun t ht => ?_
  obtain ⟨i, hi⟩ := List.getElem?_of_mem ht
  have hmem : i ∈ x.outcomes.map (·.1) :=
    hperm.mem_iff.mpr (List.mem_range.mpr (List.getElem?_eq_some_iff.mp hi).1)
  obtain ⟨e, he, rfl⟩ := List.mem_map.mp hmem
  obtain ⟨t', ht', hr⟩ := hends e he
  cases hi.symm.trans ht'
  simp [hr]

/-- While one sleeps, not all have ended. -/
theorem ended_of_asleep (hm : g.Mirrors [] [] queue x pool) (hasleep : x.asleep ≠ []) :
    pool.ended = false := by
  obtain ⟨y, hy⟩ := List.exists_mem_of_ne_nil _ hasleep
  obtain ⟨delay, t, ht, hpaused⟩ := hm.asleep y hy
  rw [Pool.ended, List.all_eq_false]
  refine ⟨t, List.mem_of_getElem? ht, ?_⟩
  obtain ⟨i, due, order, expires, wake⟩ := y
  cases hpaused
  exact Bool.false_ne_true

theorem failure?_eq_none (hm : g.Mirrors [] [] [] x pool) (hlimit : g.eachLimit = none)
    (hnone : x.failure? = none) : pool.failure? = none := by
  rw [Pool.failure?, List.findSome?_eq_none_iff]
  intro t ht
  split
  · next f hf =>
    obtain ⟨i, hi⟩ := List.getElem?_of_mem ht
    obtain ⟨e, he, rfl⟩ := List.mem_map.mp (hm.ended i t hi (by simp [hf]) List.not_mem_nil)
    obtain ⟨t', ht', hr | ⟨-, hnot, -⟩⟩ := hm.outcomes e he
    · cases hi.symm.trans ht'
      have hfailed := failed_of_mem he (Option.some.inj (hr.symm.trans hf))
      simp [hnone] at hfailed
    · exact absurd hlimit hnot
  · rfl

end Gathering.Mirrors

theorem countP_eq_range {β : Type} (xs : List β) (p : β → Bool) :
    xs.countP p = (List.range xs.length).countP fun i => xs[i]?.any p := by
  induction xs with
  | nil => rfl
  | cons x xs ih =>
    rw [List.length_cons, List.range_succ_eq_map, List.countP_cons, List.countP_cons,
      List.countP_map, ih]
    rfl

/-- The confirmed ends of a gathering are those of its pool. -/
theorem Gathering.Mirrors.confirmed_eq {g : Gathering} {x : Gathered D σ Bool} {pool : Pool D σ Bool}
    (hm : g.Mirrors [] [] [] x pool) (hlimit : g.eachLimit = none) (hasleep : x.asleep = [])
    (hgoes : g.stopped x = false) :
    (x.outcomes.filter fun e => match e.2 with | .ok b => b | .error _ => false).length =
      pool.confirmed := by
  obtain ⟨hperm, hends⟩ := hm.outcome_of_over hlimit hasleep hgoes
  rw [Pool.confirmed, countP_eq_range, ← hperm.countP_eq, List.countP_map,
    ← List.countP_eq_length_filter]
  refine List.countP_congr fun e he => ?_
  obtain ⟨t, ht, hr⟩ := hends e he
  obtain ⟨i, r⟩ := e
  simp only [Function.comp_apply, ht, Option.any_some, hr]
  cases r with
  | ok b => cases b <;> simp
  | error f => simp

/-- Scripts that are gathered come with the turns of their pool to where the gathering says. -/
theorem Gathering.run_mirrors (g : Gathering) (h : Handler D σ) (moments : Nat)
    (scripts : List (Script D α)) (now : Nat) (s : σ) (hwidth : g.width = none)
    (hbegin : ∀ script ∈ scripts, (Task.ready script : Task D σ α).outcome? = none) :
    ∃ pool, g.Comes h (scripts.map .ready, s)
        (pool, (g.run (fun _ _ => h) moments scripts now s).state) ∧
      g.Mirrors [] [] [] (g.run (fun _ _ => h) moments scripts now s) pool := by
  have hstart : g.Mirrors [] [] ((List.range scripts.length).zip scripts) { now, state := s }
      (scripts.map .ready : Pool D σ α) := by
    have hplaces : Gathered.places ({ now, state := s } : Gathered D σ α) [] []
        ((List.range scripts.length).zip scripts) = List.range scripts.length := by
      simp [Gathered.places, List.map_fst_zip]
    refine ⟨by simp, by simp, ?_, by simp, ?_, ?_, ?_, by simp⟩
    · rintro ⟨i, script⟩ he
      obtain ⟨n, hn, hget⟩ := List.mem_iff_getElem.mp he
      simp only [List.getElem_zip, List.getElem_range, Prod.mk.injEq] at hget
      obtain ⟨rfl, rfl⟩ := hget
      simp only [List.length_zip, List.length_range, Nat.min_self] at hn
      exact ⟨by simp [hn], hbegin _ (List.getElem_mem _)⟩
    · intro i t hi hover
      obtain ⟨script, hscript, rfl⟩ := List.mem_map.mp (List.mem_of_getElem? hi)
      simp [hbegin script hscript] at hover
    · rw [hplaces]
      exact List.nodup_range
    · intro _ i hi
      rw [hplaces]
      simpa using hi
  obtain ⟨pool, hbegun, hm⟩ := hstart.letIn (h := h)
  obtain ⟨queue, pool', hrest, hm', hnone⟩ := hm.proceed (h := h) (g.limit.map (now + ·)) moments
  obtain rfl := hnone (Mirrors.letIn_fst_eq_nil hwidth _)
  exact ⟨pool', hbegun.trans hrest, hm'⟩

end TicketSync
