import TicketSync.Engine.Phase
import TicketSync.Proofs.RunCourse

/-! # A run on the clock is a course

Gathered on the clock, the script of a run takes turns of its own whenever its answers are due. When
a limit ends first, the run stays where it is and its outcome is the timeout, so every gathering of
one run passes through a course that is perhaps given up. -/
namespace TicketSync.Engine

variable {τ : Type} (e : Surroundings τ)

namespace Course

/-- A course that another one comes to. -/
def Reaches (c d : Course τ) : Prop := ∃ turns, c.after e turns = d

variable {e}

theorem Reaches.refl (c : Course τ) : Reaches e c c := ⟨[], rfl⟩

theorem Reaches.trans {c d f : Course τ} (h : Reaches e c d) (h' : Reaches e d f) :
    Reaches e c f := by
  obtain ⟨turns, rfl⟩ := h
  obtain ⟨turns', rfl⟩ := h'
  exact ⟨turns ++ turns', List.foldl_append⟩

theorem Reaches.own (c : Course τ) : Reaches e c (c.turn e .own) := ⟨[.own], rfl⟩

/-- What becomes of a course while its script runs until it has to wait. -/
def Paused (e : Surroundings τ) (c : Course τ) :
    Pause Engine (World τ) Ticket × World τ → Prop
  | (.ended r, w) => ∃ d, Reaches e c d ∧ d.task.outcome? = some r ∧ d.world = w
  | (.asleep _ wake, w) => ∃ d q p next, Reaches e c d ∧ d.task = .waiting q p next ∧
      d.world = w ∧ wake = fun w => (next (p.finish w).1, (p.finish w).2)

theorem Paused.of_reaches {c d : Course τ} {x : Pause Engine (World τ) Ticket × World τ}
    (h : Reaches e c d) (hd : Paused e d x) : Paused e c x := by
  obtain ⟨pause, w⟩ := x
  cases pause with
  | ended r =>
    obtain ⟨f, hf, hrest⟩ := hd
    exact ⟨f, h.trans hf, hrest⟩
  | asleep delay wake =>
    obtain ⟨f, q, p, next, hf, hrest⟩ := hd
    exact ⟨f, q, p, next, h.trans hf, hrest⟩

theorem paused_advance (script : Script Engine Ticket) (w : World τ) (xs : List (Exchange Engine)) :
    Paused e ⟨.ready script, w, xs⟩ (script.advance (World.handler e) w) := by
  induction script generalizing w xs with
  | done t => exact ⟨_, .refl _, rfl, rfl⟩
  | fail f => exact ⟨_, .refl _, rfl, rfl⟩
  | ask q next ih =>
    have hown := Reaches.own (e := e) ⟨.ready (.ask q next), w, xs⟩
    by_cases hdelay : (World.handler e q w).1.delay = some 0
    · simp only [turn, Task.step, hdelay, if_true] at hown
      simp only [Script.advance, hdelay, if_true]
      exact (ih _ _ _).of_reaches hown
    · simp only [turn, Task.step, hdelay, if_false] at hown
      simp only [Script.advance, hdelay, if_false]
      exact ⟨_, q, _, next, hown, rfl, rfl, rfl⟩

/-- How a gathering of one run stands to its course: the run waits, or has ended, or is left where
it is, without an outcome or with a timeout for one. -/
inductive Shows (c : Course τ) : Gathered Engine (World τ) Ticket → Prop
  | asleep {x q p next s} (task : c.task = .waiting q p next) (world : x.state = c.world)
      (asleep : x.asleep = [s]) (index : s.index = 0)
      (wake : s.wake = fun w => (next (p.finish w).1, (p.finish w).2)) (outcomes : x.outcomes = []) :
      Shows c x
  | ended {x r} (task : c.task.outcome? = some r) (world : x.state = c.world)
      (asleep : x.asleep = []) (outcomes : x.outcomes = [(0, r)]) : Shows c x
  | left {x} (task : c.task.outcome? = none) (world : x.state = c.world) (asleep : x.asleep = [])
      (outcomes : x.outcomes = [] ∨ ∃ l, x.outcomes = [(0, .error (.timeout l))]) : Shows c x

theorem Shows.onClock {c : Course τ} {x : Gathered Engine (World τ) Ticket} (h : Shows c x)
    (now : Nat) (timedOut : Bool) : Shows c { x with now, timedOut } := by
  cases h with
  | asleep task world asleep index wake outcomes =>
    exact .asleep task world asleep index wake outcomes
  | ended task world asleep outcomes => exact .ended task world asleep outcomes
  | left task world asleep outcomes => exact .left task world asleep outcomes

/-- What a gathering of one run shows of it: the outcome of its course, or the timeout of a course
that was given up on the way. -/
theorem Shows.outcome_eq {x : Gathered Engine (World τ) Ticket} (h : Shows c x) :
    x.state = c.world ∧ (x.outcome? 0 = c.task.outcome? ∨
      c.task.outcome? = none ∧ ∃ l, x.outcome? 0 = some (.error (.timeout l))) := by
  cases h with
  | asleep task world asleep index wake outcomes =>
    refine ⟨world, .inl ?_⟩
    rw [Gathered.outcome?, outcomes, task]
    rfl
  | ended task world asleep outcomes =>
    refine ⟨world, .inl ?_⟩
    rw [Gathered.outcome?, outcomes, task]
    rfl
  | left task world asleep outcomes =>
    refine ⟨world, ?_⟩
    rcases outcomes with houtcomes | ⟨l, houtcomes⟩
    · rw [Gathered.outcome?, houtcomes, task]
      exact .inl rfl
    · rw [Gathered.outcome?, houtcomes]
      exact .inr ⟨task, l, rfl⟩

/-- A gathering of one run stands for a course that its course comes to. -/
def Follows (e : Surroundings τ) (c : Course τ) (x : Gathered Engine (World τ) Ticket) : Prop :=
  ∃ d, Reaches e c d ∧ Shows d x

variable (g : Gathering) {c : Course τ} {x : Gathered Engine (World τ) Ticket}

theorem outcomes_finish (h : x.outcomes = []) (i : Nat) (r : Outcome Ticket) :
    (x.finish i r).outcomes = [(i, r)] := by
  rw [Gathered.finish, h]
  rfl

theorem follows_resume (expires : Option (Nat × Nat)) {script : Script Engine Ticket}
    (htask : c.task = .ready script) (hworld : x.state = c.world) (hasleep : x.asleep = [])
    (houtcomes : x.outcomes = []) :
    Follows e c (g.resume (fun _ _ => World.handler e) 0 expires script x) := by
  obtain ⟨task, world, xs⟩ := c
  subst htask
  subst hworld
  have hpaused := paused_advance (e := e) script x.state xs
  cases hadvance : script.advance (World.handler e) x.state with
  | mk pause w =>
    rw [hadvance] at hpaused
    cases pause with
    | ended r =>
      obtain ⟨d, hd, hend, hw⟩ := hpaused
      simp only [Gathering.resume, hadvance]
      exact ⟨d, hd, .ended hend hw.symm hasleep (outcomes_finish houtcomes 0 r)⟩
    | asleep delay wake =>
      obtain ⟨d, q, p, next, hd, htask, hw, hwake⟩ := hpaused
      simp only [Gathering.resume, hadvance]
      split
      · refine ⟨d, hd, .left ?_ hw.symm hasleep (.inr ⟨_, outcomes_finish houtcomes 0 _⟩)⟩
        simp [htask, Task.outcome?]
      · exact ⟨d, hd, .asleep htask hw.symm (congrArg (· ++ [_]) hasleep) rfl hwake houtcomes⟩

theorem follows_wake {s : Sleeper Engine (World τ) Ticket} {q : Question}
    {p : Pending (World τ) q.Answer} {next : q.Answer → Script Engine Ticket}
    (htask : c.task = .waiting q p next) (hworld : x.state = c.world) (hasleep : x.asleep = [])
    (hindex : s.index = 0) (hwake : s.wake = fun w => (next (p.finish w).1, (p.finish w).2))
    (houtcomes : x.outcomes = []) :
    Follows e c (g.wake (fun _ _ => World.handler e) [s] x) := by
  have hgoes : g.stopped x = false := by simp [Gathering.stopped, Gathered.failure?, houtcomes]
  simp only [Gathering.wake, hgoes, Bool.false_eq_true, if_false, hindex]
  -- Either the answer is due, and it is taken in a turn of the run, or the limit ends first.
  split
  · have hown := Reaches.own (e := e) c
    obtain ⟨task, world, xs⟩ := c
    subst htask
    subst hworld
    obtain ⟨d, hd, hshows⟩ := follows_resume (e := e) g s.expires
      (c := turn e ⟨.waiting q p next, x.state, xs⟩ .own)
      (x := { x with state := (p.finish x.state).2 }) rfl rfl hasleep houtcomes
    refine ⟨d, hown.trans hd, ?_⟩
    simpa [hwake] using hshows
  · refine ⟨c, .refl c, .left ?_ hworld hasleep (.inr ⟨_, outcomes_finish houtcomes 0 _⟩)⟩
    simp [htask, Task.outcome?]

theorem follows_moveTo (t : Nat) (h : Shows c x) :
    Follows e c (g.moveTo (fun _ _ => World.handler e) t x) := by
  have hclock := h.onClock t x.timedOut
  cases h with
  | @asleep q p next s task world asleep index wake outcomes =>
    by_cases hmoment : s.moment.any (· ≤ t)
    · have hmove : g.moveTo (fun _ _ => World.handler e) t x =
          g.wake (fun _ _ => World.handler e) [s] { x with now := t, asleep := [] } := by
        simp [Gathering.moveTo, asleep, hmoment]
      rw [hmove]
      exact follows_wake g task world rfl index wake outcomes
    · have hmove : g.moveTo (fun _ _ => World.handler e) t x = { x with now := t } := by
        simp [Gathering.moveTo, asleep, hmoment, Gathering.wake]
      rw [hmove]
      exact ⟨c, .refl c, hclock⟩
  | ended task world asleep outcomes =>
    have hmove : g.moveTo (fun _ _ => World.handler e) t x = { x with now := t } := by
      simp [Gathering.moveTo, asleep, Gathering.wake]
    rw [hmove]
    exact ⟨c, .refl c, hclock⟩
  | left task world asleep outcomes =>
    have hmove : g.moveTo (fun _ _ => World.handler e) t x = { x with now := t } := by
      simp [Gathering.moveTo, asleep, Gathering.wake]
    rw [hmove]
    exact ⟨c, .refl c, hclock⟩

/-- A step of the clock when every script has been let in. -/
theorem proceed_moment {h : Nat → Nat → Handler Engine (World τ)} {ends : Option Nat} {t : Nat}
    (hgoes : (g.stopped x || x.asleep.isEmpty) = false) (hnext : x.nextMoment = some t)
    (moments : Nat) :
    g.proceed h ends (moments + 1) [] x =
      if ends.any (· < t) then { x with now := ends.getD t, timedOut := true }
      else if ends = some t && !(g.moveTo h t x).asleep.isEmpty then
        { g.moveTo h t x with timedOut := true }
      else g.proceed h ends moments [] (g.moveTo h t x) := by
  simp only [Gathering.proceed, hgoes, hnext, Gathering.letIn, Bool.false_eq_true, if_false]
  rfl

theorem follows_proceed (ends : Option Nat) (moments : Nat) (h : Shows c x) :
    Follows e c (g.proceed (fun _ _ => World.handler e) ends moments [] x) := by
  induction moments generalizing c x with
  | zero => exact ⟨c, .refl c, h⟩
  | succ moments ih =>
    cases hgoes : g.stopped x || x.asleep.isEmpty with
    | true =>
      simp only [Gathering.proceed, hgoes, if_true]
      exact ⟨c, .refl c, h⟩
    | false =>
      cases hnext : x.nextMoment with
      | none =>
        simp only [Gathering.proceed, hgoes, hnext, Bool.false_eq_true, if_false]
        cases ends with
        | none => exact ⟨c, .refl c, h⟩
        | some t => exact ⟨c, .refl c, h.onClock t true⟩
      | some t =>
        obtain ⟨d, hd, hshows⟩ := follows_moveTo (e := e) g t h
        rw [proceed_moment g hgoes hnext]
        split
        · exact ⟨c, .refl c, h.onClock _ _⟩
        · split
          · exact ⟨d, hd, hshows.onClock _ _⟩
          · obtain ⟨f, hf, hshows⟩ := ih hshows
            exact ⟨f, hd.trans hf, hshows⟩

/-- A run alone on the clock has a course, whether it ends there or is given up. -/
theorem follows_run (moments : Nat) (j : Job) (u : Update) (now : Nat) (w : World τ) :
    Follows e (start j u w)
      (g.run (fun _ _ => World.handler e) moments [runJob j u] now w) := by
  have hgoes : g.stopped { now, state := w : Gathered Engine (World τ) Ticket } = false := by
    simp [Gathering.stopped, Gathered.failure?]
  simp only [Gathering.run, List.length_singleton, List.range_one, List.zip_cons_cons,
    List.zip_nil_left, Gathering.letIn, hgoes, Bool.false_eq_true, if_false]
  split
  · obtain ⟨d, hd, hshows⟩ := follows_resume (e := e) g none (c := start j u w)
      (x := { now, state := w }) rfl rfl rfl rfl
    obtain ⟨f, hf, hf'⟩ := follows_proceed (e := e) g (g.limit.map (now + ·)) moments hshows
    exact ⟨f, hd.trans hf, hf'⟩
  · -- No place is free even for this one, so the clock stands still at once.
    refine ⟨_, .refl _, ?_⟩
    cases moments with
    | zero => exact .left rfl rfl rfl (.inl rfl)
    | succ moments =>
      simp only [Gathering.proceed, List.isEmpty_nil, Bool.or_true, if_true]
      exact .left rfl rfl rfl (.inl rfl)

end Course
end TicketSync.Engine
