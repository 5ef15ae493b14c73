import TicketSync.Proofs.PoolClock
import TicketSync.Proofs.ScriptQuestions

/-! # The moments that a gathering needs

Each moment of the clock wakes at least one of those that sleep. Where a script waits only once,
none that has woken sleeps again, so a gathering needs no more moments than it has scripts: it goes
on until all have ended, a failure stops it, or its time is over. -/
namespace TicketSync

variable {D : Dialogue} {σ α β : Type}

/-! ### Scripts that wait once -/

/-- Surroundings that answer every question of a kind at once. -/
def Handler.Prompt (h : Handler D σ) (prompt : D.Question → Prop) : Prop :=
  ∀ q s, prompt q → (h q s).1.delay = some 0

/-- Surroundings that answer every question of a kind at some time. -/
def Handler.Answers (h : Handler D σ) (slow : D.Question → Prop) : Prop :=
  ∀ q s, slow q → (h q s).1.delay ≠ none

/-- A script that waits at most once: all it asks before and after the question that it waits for
is answered at once. -/
inductive Script.WaitsOnce (prompt slow : D.Question → Prop) : Script D α → Prop
  | prompt {script : Script D α} (hasks : script.Asks prompt) : WaitsOnce prompt slow script
  | ask {q : D.Question} {next : D.Answer q → Script D α} (hq : prompt q)
      (hnext : ∀ a, WaitsOnce prompt slow (next a)) : WaitsOnce prompt slow (.ask q next)
  | wait {q : D.Question} {next : D.Answer q → Script D α} (hq : slow q)
      (hnext : ∀ a, (next a).Asks prompt) : WaitsOnce prompt slow (.ask q next)

/-- A script that comes to its end without a wait. -/
def Script.Ends (h : Handler D σ) (script : Script D α) (s : σ) : Prop :=
  ∃ r s', script.advance h s = (.ended r, s')

/-- A sleeper that waits from a moment on for the answer to a question of a kind. -/
def Sleeper.WaitsFor (h : Handler D σ) (slow : D.Question → Prop) (now : Nat)
    (y : Sleeper D σ α) : Prop :=
  ∃ q s, slow q ∧ y.due = (h q s).1.delay.map (now + ·)

/-- A sleeper that comes to its end after it has woken. -/
def Sleeper.EndsAwake (h : Handler D σ) (y : Sleeper D σ α) : Prop :=
  ∀ s, (y.wake s).1.Ends h (y.wake s).2

namespace Script

variable {h : Handler D σ} {prompt slow : D.Question → Prop}

theorem Asks.waitsOnce_bind {script : Script D α} {f : α → Script D β} (hs : script.Asks prompt)
    (hf : ∀ x, (f x).WaitsOnce prompt slow) : (script.bind f).WaitsOnce prompt slow := by
  induction script with
  | done x => exact hf x
  | fail e => exact .prompt trivial
  | ask q next ih => exact .ask hs.1 fun a => ih a (hs.2 a)

theorem Asks.ends {script : Script D α} (hs : script.Asks prompt) (hprompt : h.Prompt prompt)
    (s : σ) : script.Ends h s := by
  induction script generalizing s with
  | done x => exact ⟨.ok x, s, rfl⟩
  | fail f => exact ⟨.error f, s, rfl⟩
  | ask q next ih =>
    obtain ⟨r, s', hended⟩ := ih _ (hs.2 _) ((h q s).1.finish (h q s).2).2
    refine ⟨r, s', ?_⟩
    rw [advance]
    simp only [hprompt q s hs.1, if_true]
    exact hended

/-- A script that waits once ends, or waits for its one question and ends when it is answered. -/
theorem WaitsOnce.advance {script : Script D α} (hs : script.WaitsOnce prompt slow)
    (hprompt : h.Prompt prompt) (s : σ) :
    script.Ends h s ∨ ∃ q s₀ wake s', slow q ∧
      script.advance h s = (.asleep (h q s₀).1.delay wake, s') ∧
      ∀ s, (wake s).1.Ends h (wake s).2 := by
  induction hs generalizing s with
  | prompt hasks => exact .inl (hasks.ends hprompt s)
  | @ask q next hq _ ih =>
    have hadvance : (Script.ask q next).advance h s =
        (next ((h q s).1.finish (h q s).2).1).advance h ((h q s).1.finish (h q s).2).2 := by
      rw [Script.advance]
      simp only [hprompt q s hq, if_true]
    rw [Ends, hadvance]
    exact ih _ _
  | @wait q next hq hnext =>
    by_cases hdelay : (h q s).1.delay = some 0
    · have hadvance : (Script.ask q next).advance h s =
          (next ((h q s).1.finish (h q s).2).1).advance h ((h q s).1.finish (h q s).2).2 := by
        rw [Script.advance]
        simp only [hdelay, if_true]
      rw [Ends, hadvance]
      exact .inl ((hnext _).ends hprompt _)
    · refine .inr ⟨q, s, fun s' => (next ((h q s).1.finish s').1, ((h q s).1.finish s').2),
        (h q s).2, hq, ?_, fun s' => (hnext _).ends hprompt _⟩
      rw [Script.advance]
      simp only [hdelay, if_false]

end Script

/-! ### Moments of a gathering -/

namespace Gathering

variable {g : Gathering} {h : Handler D σ} {x : Gathered D σ α} {prompt slow : D.Question → Prop}

theorem resume_of_ends {script : Script D α} (hends : script.Ends h x.state) (i : Nat)
    (expires : Option (Nat × Nat)) :
    (g.resume (fun _ _ => h) i expires script x).asleep = x.asleep ∧
      (g.resume (fun _ _ => h) i expires script x).timedOut = x.timedOut := by
  obtain ⟨r, s, hended⟩ := hends
  simp [resume, hended, Gathered.finish]

/-- Those that wake end, and only those that slept on do so still. -/
theorem wake_asleep (woken : List (Sleeper D σ α)) (hwoken : ∀ y ∈ woken, y.EndsAwake h)
    (x : Gathered D σ α) :
    (g.wake (fun _ _ => h) woken x).asleep = x.asleep ∧
      (g.wake (fun _ _ => h) woken x).timedOut = x.timedOut := by
  induction woken generalizing x with
  | nil => exact ⟨rfl, rfl⟩
  | cons y woken ih =>
    have hrest : ∀ z ∈ woken, z.EndsAwake h := fun z hz => hwoken z (List.mem_cons_of_mem _ hz)
    rw [wake]
    split
    · exact ⟨rfl, rfl⟩
    · split
      · obtain ⟨hasleep, htimed⟩ := ih hrest (g.resume (fun _ _ => h) y.index y.expires
          (y.wake x.state).1 { x with state := (y.wake x.state).2 })
        obtain ⟨hasleep', htimed'⟩ := resume_of_ends (g := g)
          (x := { x with state := (y.wake x.state).2 }) (hwoken y List.mem_cons_self x.state)
          y.index y.expires
        exact ⟨hasleep.trans hasleep', htimed.trans htimed'⟩
      · exact ih hrest _

theorem moveTo_asleep (hends : ∀ y ∈ x.asleep, y.EndsAwake h) (t : Nat) :
    (g.moveTo (fun _ _ => h) t x).asleep =
        x.asleep.filter (not ∘ fun y => y.moment.any (· ≤ t)) ∧
      (g.moveTo (fun _ _ => h) t x).timedOut = x.timedOut := by
  simp only [moveTo, List.partition_eq_filter_filter]
  refine wake_asleep _ (fun y hy => hends y ?_) _
  rw [List.mem_mergeSort] at hy
  exact (List.mem_filter.mp hy).1

/-- The next moment is that of one who sleeps. -/
theorem length_asleep_lt {t : Nat} (hnext : x.nextMoment = some t) :
    (x.asleep.filter (not ∘ fun y => y.moment.any (· ≤ t))).length < x.asleep.length := by
  obtain ⟨y, hy, hmoment⟩ := List.mem_filterMap.mp (List.min?_mem hnext)
  refine Nat.lt_of_le_of_ne (List.length_filter_le _ _) fun heq => ?_
  have hstays := List.length_filter_eq_length_iff.mp heq y hy
  simp [hmoment] at hstays

/-- How a gathering that has moments enough comes to its end: its time is over with some asleep, or
in time a failure stops it, or none sleeps. -/
def Settled (g : Gathering) (x : Gathered D σ α) : Prop :=
  (g.limit ≠ none ∧ x.timedOut = true ∧ x.asleep ≠ []) ∨
    (x.timedOut = false ∧ (g.stopped x = true ∨ x.asleep = []))

theorem proceed_settled (ends : Option Nat) (moments : Nat) (hmoments : x.asleep.length ≤ moments)
    (hlimit : g.limit = none → ends = none) (hends : ∀ y ∈ x.asleep, y.EndsAwake h)
    (hwakes : ends = none → ∀ y ∈ x.asleep, y.moment ≠ none) (htimed : x.timedOut = false) :
    g.Settled (g.proceed (fun _ _ => h) ends moments [] x) := by
  induction moments generalizing x with
  | zero =>
    have hnone := List.length_eq_zero_iff.mp (Nat.le_zero.mp hmoments)
    exact .inr ⟨htimed, .inr hnone⟩
  | succ moments ih =>
    cases hgoes : g.stopped x || x.asleep.isEmpty with
    | true =>
      simp only [proceed, hgoes, if_true]
      exact .inr ⟨htimed, by simpa using hgoes⟩
    | false =>
      have hasleep : x.asleep ≠ [] := by simp_all
      cases hnext : x.nextMoment with
      | none =>
        simp only [proceed, hgoes, hnext, Bool.false_eq_true, if_false]
        cases ends with
        | none =>
          obtain ⟨y, hy⟩ := List.exists_mem_of_ne_nil _ hasleep
          have hmoments := List.min?_eq_none_iff.mp hnext
          exact absurd (List.filterMap_eq_nil_iff.mp hmoments y hy) (hwakes rfl y hy)
        | some e => exact .inl ⟨fun hnone => Option.some_ne_none _ (hlimit hnone), rfl, hasleep⟩
      | some t =>
        simp only [proceed, hgoes, hnext, Bool.false_eq_true, if_false]
        split
        · next hpast =>
          refine .inl ⟨fun hnone => ?_, rfl, hasleep⟩
          simp [hlimit hnone] at hpast
        · obtain ⟨hmoved, htimed'⟩ := moveTo_asleep (g := g) hends t
          have hfewer := length_asleep_lt hnext
          have hstay : ∀ y ∈ (g.moveTo (fun _ _ => h) t x).asleep, y ∈ x.asleep := fun y hy =>
            (List.mem_filter.mp (hmoved ▸ hy)).1
          rw [← hmoved] at hfewer
          split
          · next hover =>
            simp only [Bool.and_eq_true, decide_eq_true_eq, Bool.not_eq_true',
              List.isEmpty_eq_false_iff] at hover
            refine .inl ⟨fun hnone => ?_, rfl, hover.2⟩
            simp [hlimit hnone] at hover
          · exact ih (Nat.le_of_lt_succ (Nat.lt_of_lt_of_le hfewer hmoments))
              (fun y hy => hends y (hstay y hy))
              (fun hnone y hy => hwakes hnone y (hstay y hy)) (htimed'.trans htimed)

/-- A sleeper wakes no later than its answer comes. -/
theorem moment_le_due {y : Sleeper D σ α} {d : Nat} (hdue : y.due = some d) :
    ∃ m ≤ d, y.moment = some m := by
  unfold Sleeper.moment
  split
  · next d' e place hdue' _ =>
    cases hdue.symm.trans hdue'
    exact ⟨min d e, Nat.min_le_left d e, rfl⟩
  · next d' hdue' _ =>
    cases hdue.symm.trans hdue'
    exact ⟨d, Nat.le_refl d, rfl⟩
  · next hdue' _ => cases hdue.symm.trans hdue'
  · next hdue' _ => cases hdue.symm.trans hdue'

/-- A gathering in which all wake before its time is over comes to its end in time. -/
theorem proceed_in_time (ends moments : Nat) (hmoments : x.asleep.length ≤ moments)
    (hends : ∀ y ∈ x.asleep, y.EndsAwake h)
    (hwakes : ∀ y ∈ x.asleep, ∃ m ≤ ends, y.moment = some m) (htimed : x.timedOut = false) :
    (g.proceed (fun _ _ => h) (some ends) moments [] x).timedOut = false := by
  induction moments generalizing x with
  | zero => exact htimed
  | succ moments ih =>
    cases hgoes : g.stopped x || x.asleep.isEmpty with
    | true =>
      simp only [proceed, hgoes, if_true]
      exact htimed
    | false =>
      have hasleep : x.asleep ≠ [] := by simp_all
      obtain ⟨y, hy⟩ := List.exists_mem_of_ne_nil _ hasleep
      obtain ⟨m, hm, hmoment⟩ := hwakes y hy
      have hmem : m ∈ x.asleep.filterMap Sleeper.moment := List.mem_filterMap.mpr ⟨y, hy, hmoment⟩
      obtain ⟨t, hnext⟩ : ∃ t, x.nextMoment = some t :=
        Option.ne_none_iff_exists'.mp fun hnone => by
          rw [List.min?_eq_none_iff.mp hnone] at hmem
          cases hmem
      have htm : t ≤ m := (List.min?_eq_some_iff.mp hnext).2 m hmem
      have hpast : (some ends).any (fun e => decide (e < t)) = false := by
        simp only [Option.any_some, decide_eq_false_iff_not]
        omega
      obtain ⟨hmoved, htimed'⟩ := moveTo_asleep (g := g) hends t
      have hfewer := length_asleep_lt hnext
      have hstay : ∀ y ∈ (g.moveTo (fun _ _ => h) t x).asleep, y ∈ x.asleep := fun y hy =>
        (List.mem_filter.mp (hmoved ▸ hy)).1
      rw [← hmoved] at hfewer
      simp only [proceed, hgoes, hnext, hpast, Bool.false_eq_true, if_false]
      split
      · next hover =>
        -- At the last moment all that still slept have woken.
        simp only [Bool.and_eq_true, decide_eq_true_eq, Option.some.injEq, Bool.not_eq_true',
          List.isEmpty_eq_false_iff] at hover
        obtain ⟨rfl, hleft⟩ := hover
        obtain ⟨z, hz⟩ := List.exists_mem_of_ne_nil _ hleft
        obtain ⟨m', hm', hmoment'⟩ := hwakes z (hstay z hz)
        have hlate := (List.mem_filter.mp (hmoved ▸ hz)).2
        simp [hmoment', hm'] at hlate
      · exact ih (Nat.le_of_lt_succ (Nat.lt_of_lt_of_le hfewer hmoments))
          (fun y hy => hends y (hstay y hy)) (fun y hy => hwakes y (hstay y hy))
          (htimed'.trans htimed)

/-! ### The beginning -/

/-- A script that waits once sleeps at most once, and has its end before it when it wakes. -/
theorem resume_waitsOnce {script : Script D α} (hs : script.WaitsOnce prompt slow)
    (hprompt : h.Prompt prompt) (i : Nat) (expires : Option (Nat × Nat)) (x : Gathered D σ α) :
    (g.resume (fun _ _ => h) i expires script x).timedOut = x.timedOut ∧
      ∃ new, (g.resume (fun _ _ => h) i expires script x).asleep = x.asleep ++ new ∧
        new.length ≤ 1 ∧ ∀ y ∈ new, y.EndsAwake h ∧ y.WaitsFor h slow x.now := by
  obtain hended | ⟨q, s₀, wake, s', hq, hadvance, hwake⟩ := hs.advance hprompt x.state
  · obtain ⟨hasleep, htimed⟩ := resume_of_ends (g := g) hended i expires
    exact ⟨htimed, [], by simpa using hasleep, by simp, by simp⟩
  · simp only [resume, hadvance]
    split
    · exact ⟨rfl, [], by simp [Gathered.finish], by simp, by simp⟩
    · refine ⟨rfl, _, rfl, by simp, fun y hy => ?_⟩
      obtain rfl := List.mem_singleton.mp hy
      exact ⟨hwake, q, s₀, hq, rfl⟩

theorem letIn_waitsOnce (queue : List (Nat × Script D α))
    (hqueue : ∀ e ∈ queue, e.2.WaitsOnce prompt slow) (hprompt : h.Prompt prompt)
    (x : Gathered D σ α) :
    (g.letIn (fun _ _ => h) queue x).2.timedOut = x.timedOut ∧
      ∃ new, (g.letIn (fun _ _ => h) queue x).2.asleep = x.asleep ++ new ∧
        new.length ≤ queue.length ∧ ∀ y ∈ new, y.EndsAwake h ∧ y.WaitsFor h slow x.now := by
  induction queue generalizing x with
  | nil => exact ⟨rfl, [], by simp [letIn], by simp, by simp⟩
  | cons e queue ih =>
    obtain ⟨i, script⟩ := e
    rw [letIn]
    split
    · exact ⟨rfl, [], by simp, by simp, by simp⟩
    · split
      · obtain ⟨htimed, new, hasleep, hnew, hends⟩ := resume_waitsOnce (g := g)
          (hqueue _ List.mem_cons_self) hprompt i none x
        obtain ⟨htimed', new', hasleep', hnew', hends'⟩ := ih
          (fun e he => hqueue e (List.mem_cons_of_mem _ he))
          (g.resume (fun _ _ => h) i none script x)
        rw [Mirrors.resume_now] at hends'
        refine ⟨htimed'.trans htimed, new ++ new', ?_, ?_, ?_⟩
        · rw [hasleep', hasleep, List.append_assoc]
        · rw [List.length_append, List.length_cons]
          omega
        · exact fun y hy => (List.mem_append.mp hy).elim (hends y) (hends' y)
      · exact ⟨rfl, [], by simp, by simp, by simp⟩

/-- Scripts that wait once have begun, and those that have not ended sleep for the first time. -/
theorem begin_waitsOnce {scripts : List (Script D α)} {moments : Nat} (hwidth : g.width = none)
    (hscripts : ∀ script ∈ scripts, script.WaitsOnce prompt slow) (hprompt : h.Prompt prompt)
    (hmoments : scripts.length ≤ moments) (now : Nat) (s : σ) :
    ∃ x : Gathered D σ α, g.run (fun _ _ => h) moments scripts now s =
        g.proceed (fun _ _ => h) (g.limit.map (now + ·)) moments [] x ∧
      x.timedOut = false ∧ x.asleep.length ≤ moments ∧
      ∀ y ∈ x.asleep, y.EndsAwake h ∧ y.WaitsFor h slow now := by
  have hqueue : ∀ e ∈ (List.range scripts.length).zip scripts, e.2.WaitsOnce prompt slow :=
    fun e he => hscripts _ (List.of_mem_zip he).2
  obtain ⟨htimed, new, hasleep, hnew, hends⟩ := letIn_waitsOnce (g := g) _ hqueue hprompt
    { now, state := s }
  have hall : (g.letIn (fun _ _ => h) ((List.range scripts.length).zip scripts)
      { now, state := s }).1 = [] := Mirrors.letIn_fst_eq_nil hwidth _
  rw [List.nil_append] at hasleep
  rw [List.length_zip, List.length_range, Nat.min_self] at hnew
  refine ⟨_, by simp only [run, hall], htimed, ?_, fun y hy => hends y (hasleep ▸ hy)⟩
  rw [hasleep]
  exact Nat.le_trans hnew hmoments

/-- Scripts that wait once, with a moment for each, are gathered to their end. -/
theorem run_settled (scripts : List (Script D α)) (moments : Nat) (now : Nat) (s : σ)
    (hwidth : g.width = none) (hscripts : ∀ script ∈ scripts, script.WaitsOnce prompt slow)
    (hprompt : h.Prompt prompt) (hmoments : scripts.length ≤ moments)
    (hanswers : g.limit = none → h.Answers slow) :
    g.Settled (g.run (fun _ _ => h) moments scripts now s) := by
  obtain ⟨x, hrun, htimed, hasleep, hends⟩ := begin_waitsOnce hwidth hscripts hprompt hmoments now s
  rw [hrun]
  refine proceed_settled _ _ hasleep (fun hnone => by rw [hnone, Option.map_none])
    (fun y hy => (hends y hy).1) ?_ htimed
  intro hnone y hy
  obtain ⟨q, s₀, hq, hdue⟩ := (hends y hy).2
  obtain ⟨d, hd⟩ := Option.ne_none_iff_exists'.mp
    (hanswers (Option.map_eq_none_iff.mp hnone) q s₀ hq)
  rw [hd, Option.map_some] at hdue
  obtain ⟨m, -, hm⟩ := moment_le_due hdue
  exact hm ▸ Option.some_ne_none m

/-- Scripts that wait once are gathered in time if each answer comes within the limit. -/
theorem run_in_time (scripts : List (Script D α)) (moments : Nat) (now : Nat) (s : σ)
    (hwidth : g.width = none) (hscripts : ∀ script ∈ scripts, script.WaitsOnce prompt slow)
    (hprompt : h.Prompt prompt) (hmoments : scripts.length ≤ moments) {limit : Nat}
    (hlimit : g.limit = some limit)
    (hquick : ∀ q s, slow q → ∃ d ≤ limit, (h q s).1.delay = some d) :
    (g.run (fun _ _ => h) moments scripts now s).timedOut = false := by
  obtain ⟨x, hrun, htimed, hasleep, hends⟩ := begin_waitsOnce hwidth hscripts hprompt hmoments now s
  rw [hrun, hlimit, Option.map_some]
  refine proceed_in_time _ _ hasleep (fun y hy => (hends y hy).1) (fun y hy => ?_) htimed
  obtain ⟨q, s₀, hq, hdue⟩ := (hends y hy).2
  obtain ⟨d, hd, hdelay⟩ := hquick q s₀ hq
  rw [hdelay, Option.map_some] at hdue
  obtain ⟨m, hm, hmoment⟩ := moment_le_due hdue
  exact ⟨m, Nat.le_trans hm (Nat.add_le_add_left hd now), hmoment⟩

end Gathering
end TicketSync
