import TicketSync.Proofs.RunCourse
import TicketSync.Proofs.ScriptTrace

/-! # What scripts ask among others

A script that asks only questions of one kind can change its surroundings only as questions of that
kind do, in whatever order its turns come among others. A task on its way has asked the questions of
the exchanges that led to it, and perhaps one more that is not answered yet. -/
namespace TicketSync

variable {D : Dialogue} {σ α β : Type}

namespace Script

/-- A script that asks only questions with a property. -/
def Asks (p : D.Question → Prop) : Script D α → Prop
  | done _ => True
  | fail _ => True
  | ask q next => p q ∧ ∀ a, (next a).Asks p

theorem Asks.bind {p : D.Question → Prop} {s : Script D α} {f : α → Script D β} (hs : s.Asks p)
    (hf : ∀ x, (f x).Asks p) : (s.bind f).Asks p := by
  induction s with
  | done x => exact hf x
  | fail e => exact trivial
  | ask q next ih => exact ⟨hs.1, fun a => ih a (hs.2 a)⟩

theorem asks_ofOutcome (p : D.Question → Prop) (r : Outcome α) : (ofOutcome r : Script D α).Asks p := by
  cases r <;> exact trivial

theorem Leads.asks {p : D.Question → Prop} {s s' : Script D α} {xs : List (Exchange D)}
    (h : s.Leads xs s') (hs : s.Asks p) : s'.Asks p ∧ ∀ x ∈ xs, p x.question := by
  induction h with
  | refl s => exact ⟨hs, by simp⟩
  | ask a rest ih =>
    obtain ⟨hrest, hxs⟩ := ih (hs.2 a)
    exact ⟨hrest, List.forall_mem_cons.mpr ⟨hs.1, hxs⟩⟩

/-- Exchanges that a script leads through, with the questions that it has asked meanwhile: the last
one may be unanswered. -/
def Came (s : Script D α) (asked : List D.Question) (told : List (Exchange D)) : Prop :=
  ∃ rest, s.Leads told rest ∧ (asked = told.map (·.question) ∨
    ∃ q next, rest = ask q next ∧ asked = told.map (·.question) ++ [q])

theorem Came.start (s : Script D α) : s.Came [] [] := ⟨s, .refl s, .inl rfl⟩

theorem Came.asks {p : D.Question → Prop} {s : Script D α} {asked : List D.Question}
    {told : List (Exchange D)} (h : s.Came asked told) (hs : s.Asks p) :
    (∀ q ∈ asked, p q) ∧ ∀ x ∈ told, p x.question := by
  obtain ⟨rest, hleads, hasked⟩ := h
  obtain ⟨hrest, htold⟩ := hleads.asks hs
  refine ⟨?_, htold⟩
  rcases hasked with rfl | ⟨q, next, rfl, rfl⟩
  · simpa using htold
  · intro q' hq'
    rcases List.mem_append.mp hq' with hq' | hq'
    · obtain ⟨x, hx, rfl⟩ := List.mem_map.mp hq'
      exact htold x hx
    · obtain rfl := List.mem_singleton.mp hq'
      exact hrest.1

end Script

/-! ### Surroundings that keep something -/

/-- Surroundings in which asking and answering questions of a kind keeps states in a relation. -/
structure Handler.Respects (h : Handler D σ) (p : D.Question → Prop) (R : σ → σ → Prop) : Prop where
  refl : ∀ s, R s s
  trans : ∀ {s s' s''}, R s s' → R s' s'' → R s s''
  asked : ∀ q s, p q → R s (h q s).2
  answered : ∀ q s s', p q → R s' ((h q s).1.finish s').2

/-- What questions of a kind keep, fewer of them keep. -/
theorem Handler.Respects.mono {h : Handler D σ} {p p' : D.Question → Prop} {R : σ → σ → Prop}
    (hr : h.Respects p R) (hp : ∀ q, p' q → p q) : h.Respects p' R where
  refl := hr.refl
  trans := hr.trans
  asked q s hq := hr.asked q s (hp q hq)
  answered q s s' hq := hr.answered q s s' (hp q hq)

/-- A script that is run alone keeps what its questions keep. -/
theorem Script.Asks.run {h : Handler D σ} {p : D.Question → Prop} {R : σ → σ → Prop}
    {script : Script D α} (hs : script.Asks p) (hr : h.Respects p R) (s : σ) :
    R s (script.run h.atOnce s).2 := by
  induction script generalizing s with
  | done x => exact hr.refl s
  | fail f => exact hr.refl s
  | ask q next ih =>
    have hanswered := hr.trans (hr.asked q s hs.1) (hr.answered q s (h q s).2 hs.1)
    exact hr.trans hanswered (ih _ (hs.2 _) _)

namespace Task

/-- The question that a turn of a task asks, if it asks one. -/
def question? : Task D σ α → Option D.Question
  | ready (.ask q _) => some q
  | _ => none

variable {h : Handler D σ} {p : D.Question → Prop} {R : σ → σ → Prop}

/-- A task that asks only questions with a property, and waits only for an answer to one of them. -/
def Asks (h : Handler D σ) (p : D.Question → Prop) : Task D σ α → Prop
  | ready script => script.Asks p
  | waiting q answer next => p q ∧ (∃ s, answer = (h q s).1) ∧ ∀ a, (next a).Asks p

theorem Asks.step {t : Task D σ α} (ht : t.Asks h p) (hr : h.Respects p R) (s : σ) :
    (t.step h s).1.Asks h p ∧ R s (t.step h s).2 := by
  cases t with
  | ready script =>
    cases script with
    | done x => exact ⟨trivial, hr.refl s⟩
    | fail f => exact ⟨trivial, hr.refl s⟩
    | ask q next =>
      have hasked := hr.asked q s ht.1
      simp only [Task.step]
      split
      · exact ⟨ht.2 _, hr.trans hasked (hr.answered q s _ ht.1)⟩
      · exact ⟨⟨ht.1, ⟨s, rfl⟩, ht.2⟩, hasked⟩
  | waiting q answer next =>
    obtain ⟨hq, ⟨s', rfl⟩, hnext⟩ := ht
    exact ⟨hnext _, hr.answered q s' s hq⟩

/-- A task that has come from a script, with the questions that it asked and the exchanges that it
had. It waits only for answers that are not there at once. -/
inductive CameFrom (h : Handler D σ) (begun : Script D α) :
    List D.Question → List (Exchange D) → Task D σ α → Prop
  | ready {told : List (Exchange D)} {script : Script D α} (leads : begun.Leads told script) :
      CameFrom h begun (told.map (·.question)) told (ready script)
  | waiting {told : List (Exchange D)} {q : D.Question} {next : D.Answer q → Script D α} (s : σ)
      (leads : begun.Leads told (.ask q next)) (slow : (h q s).1.delay ≠ some 0) :
      CameFrom h begun (told.map (·.question) ++ [q]) told (waiting q (h q s).1 next)

variable {begun : Script D α} {asked : List D.Question} {told : List (Exchange D)}
  {t : Task D σ α}

theorem CameFrom.start (h : Handler D σ) (begun : Script D α) :
    CameFrom h begun [] [] (Task.ready begun) :=
  .ready (.refl begun)

theorem CameFrom.came (ht : CameFrom h begun asked told t) : begun.Came asked told := by
  cases ht with
  | ready leads => exact ⟨_, leads, .inl rfl⟩
  | waiting s leads slow => exact ⟨_, leads, .inr ⟨_, _, rfl, rfl⟩⟩

theorem CameFrom.asks (ht : CameFrom h begun asked told t) (hp : begun.Asks p) : t.Asks h p := by
  cases ht with
  | ready leads => exact (leads.asks hp).1
  | waiting s leads slow =>
    obtain ⟨⟨hq, hnext⟩, -⟩ := leads.asks hp
    exact ⟨hq, ⟨s, rfl⟩, hnext⟩

/-- A task that has ended came to its end through its exchanges. -/
theorem CameFrom.leads_of_outcome {r : Outcome α} (ht : CameFrom h begun asked told t)
    (hr : t.outcome? = some r) : begun.Leads told (.ofOutcome r) ∧ asked = told.map (·.question) := by
  cases ht with
  | @ready _ script leads =>
    cases script with
    | done x =>
      cases Option.some.inj hr
      exact ⟨leads, rfl⟩
    | fail f =>
      cases Option.some.inj hr
      exact ⟨leads, rfl⟩
    | ask q next => cases hr
  | waiting s leads slow => cases hr

/-- An exchange that a turn completes answers the question that the script has come to. -/
theorem CameFrom.leads_of_exchange (ht : CameFrom h begun asked told t) {s : σ} {x : Exchange D}
    (hx : t.exchange? h s = some x) : ∃ next, begun.Leads told (.ask x.question next) := by
  cases ht with
  | @ready _ script leads =>
    cases script with
    | done y => cases hx
    | fail f => cases hx
    | ask q next =>
      simp only [exchange?] at hx
      split at hx
      · cases hx
        exact ⟨next, leads⟩
      · cases hx
  | @waiting _ q next s' leads slow =>
    cases hx
    exact ⟨next, leads⟩

theorem CameFrom.step (ht : CameFrom h begun asked told t) (s : σ) :
    CameFrom h begun (asked ++ t.question?.toList) (told ++ (t.exchange? h s).toList)
      (t.step h s).1 := by
  have hanswered : ∀ {told : List (Exchange D)} {q : D.Question} {next : D.Answer q → Script D α}
      (a : D.Answer q), begun.Leads told (.ask q next) →
      CameFrom h begun (told.map (·.question) ++ [q]) (told ++ [⟨q, a⟩]) (Task.ready (next a)) := by
    intro told q next a hleads
    have hnext := CameFrom.ready (h := h) (hleads.trans (.ask a (.refl (next a))))
    simpa using hnext
  cases ht with
  | @ready _ script leads =>
    cases script with
    | done x => simpa [Task.step, question?, exchange?] using CameFrom.ready leads
    | fail f => simpa [Task.step, question?, exchange?] using CameFrom.ready leads
    | ask q next =>
      simp only [Task.step, question?, exchange?, Option.toList_some]
      split
      · exact hanswered _ leads
      · next hslow => simpa using CameFrom.waiting s leads hslow
  | waiting s' leads slow => simpa [Task.step, question?, exchange?] using hanswered _ leads

/-- What a turn asks, which exchange it completes, and the state after it. A question is answered in
the turn that asks it exactly when its answer takes no time. -/
inductive Turn (h : Handler D σ) (s : σ) : Option D.Question → Option (Exchange D) → σ → Prop
  | rest : Turn h s none none s
  | prompt (q : D.Question) (now : (h q s).1.delay = some 0) :
      Turn h s (some q) (some ⟨q, ((h q s).1.finish (h q s).2).1⟩) ((h q s).1.finish (h q s).2).2
  | asked (q : D.Question) (slow : (h q s).1.delay ≠ some 0) : Turn h s (some q) none (h q s).2
  | answered (q : D.Question) (s' : σ) (slow : (h q s').1.delay ≠ some 0) :
      Turn h s none (some ⟨q, ((h q s').1.finish s).1⟩) ((h q s').1.finish s).2

theorem CameFrom.turn (ht : CameFrom h begun asked told t) (s : σ) :
    Turn h s t.question? (t.exchange? h s) (t.step h s).2 := by
  cases ht with
  | @ready _ script leads =>
    cases script with
    | done x => exact .rest
    | fail f => exact .rest
    | ask q next =>
      simp only [Task.step, question?, exchange?]
      split
      · next hnow => exact .prompt q hnow
      · next hslow => exact .asked q hslow
  | @waiting _ q _ s' leads slow => exact .answered q s' slow

/-- A task that has ended stays as it is. -/
theorem step_of_ended {r : Outcome α} (hr : t.outcome? = some r) (h : Handler D σ) (s : σ) :
    t.step h s = (t, s) := by
  cases t with
  | ready script =>
    cases script with
    | done x => rfl
    | fail f => rfl
    | ask q next => cases hr
  | waiting q answer next => cases hr

/-- A task that has ended asks nothing more, and is told nothing. -/
theorem silent_of_ended {r : Outcome α} (hr : t.outcome? = some r) :
    t.question? = none ∧ ∀ (h : Handler D σ) (s : σ), t.exchange? h s = none := by
  cases t with
  | ready script =>
    cases script with
    | done x => exact ⟨rfl, fun _ _ => rfl⟩
    | fail f => exact ⟨rfl, fun _ _ => rfl⟩
    | ask q next => cases hr
  | waiting q answer next => cases hr

/-- A task that has not ended asks a question in its next turn, or is told an answer. -/
theorem asks_or_tells (hgoes : t.outcome? = none) (h : Handler D σ) (s : σ) :
    0 < t.question?.toList.length + (t.exchange? h s).toList.length := by
  cases t with
  | ready script =>
    cases script with
    | done x => cases hgoes
    | fail f => cases hgoes
    | ask q next => exact Nat.add_pos_left Nat.one_pos _
  | waiting q answer next => simp [exchange?]

theorem Turn.gives {s s' : σ} {q? : Option D.Question} {x? : Option (Exchange D)}
    (ht : Turn h s q? x? s') : ∀ x, x? = some x → h.Gives x := by
  cases ht with
  | rest => simp
  | prompt q now =>
    rintro x ⟨⟩
    exact ⟨s, _, rfl⟩
  | asked q slow => simp
  | answered q s₀ slow =>
    rintro x ⟨⟩
    exact ⟨s₀, s, rfl⟩

end Task

/-! ### Scripts that run together -/

namespace Pool

variable {h : Handler D σ} {scripts : List (Script D α)} {asked asked' : Nat → List D.Question}
  {told told' : Nat → List (Exchange D)} {pool : Pool D σ α}

/-- The question that a turn of the task at an index asks, if it asks one. -/
def question? (pool : Pool D σ α) (i : Nat) : Option D.Question := pool[i]?.bind Task.question?

/-- The exchange that a turn of the task at an index completes, if it completes one. -/
def exchange? (h : Handler D σ) (pool : Pool D σ α) (s : σ) (i : Nat) : Option (Exchange D) :=
  pool[i]?.bind fun t => t.exchange? h s

/-- Tasks that have come from scripts, each with the questions that it asked and the exchanges that
it had. -/
structure CameFrom (h : Handler D σ) (scripts : List (Script D α)) (asked : Nat → List D.Question)
    (told : Nat → List (Exchange D)) (pool : Pool D σ α) : Prop where
  length : pool.length = scripts.length
  task : ∀ i script, scripts[i]? = some script →
    ∃ t, pool[i]? = some t ∧ Task.CameFrom h script (asked i) (told i) t
  silent : ∀ i, scripts[i]? = none → asked i = [] ∧ told i = []

namespace CameFrom

theorem start (h : Handler D σ) (scripts : List (Script D α)) (hasked : ∀ i, asked i = [])
    (htold : ∀ i, told i = []) : CameFrom h scripts asked told (scripts.map Task.ready) where
  length := List.length_map _
  task i script hscript := by
    refine ⟨.ready script, ?_, ?_⟩
    · simp [hscript]
    · rw [hasked, htold]
      exact .start h script
  silent i _ := ⟨hasked i, htold i⟩

theorem step (hpool : CameFrom h scripts asked told pool) (s : σ) (i : Nat)
    (hasked : ∀ j, asked' j = asked j ++ if j = i then (pool.question? i).toList else [])
    (htold : ∀ j, told' j = told j ++ if j = i then (pool.exchange? h s i).toList else []) :
    CameFrom h scripts asked' told' (pool.step h s i).1 := by
  cases ht : pool[i]? with
  | none =>
    have hasked' : asked' = asked := funext fun j => by simp [hasked, question?, ht]
    have htold' : told' = told := funext fun j => by simp [htold, exchange?, ht]
    rw [hasked', htold']
    simpa [Pool.step, ht] using hpool
  | some t =>
    have hi : i < pool.length := (List.getElem?_eq_some_iff.mp ht).1
    simp only [question?, exchange?, ht, Option.bind_some] at hasked htold
    simp only [Pool.step, ht]
    refine ⟨by simp [hpool.length], ?_, ?_⟩
    · intro j script hscript
      obtain ⟨t', ht', hcame⟩ := hpool.task j script hscript
      by_cases hj : j = i
      · subst hj
        obtain rfl := Option.some.inj (ht'.symm.trans ht)
        refine ⟨_, List.getElem?_set_self hi, ?_⟩
        simpa [hasked, htold] using hcame.step s
      · refine ⟨t', ?_, ?_⟩
        · rw [List.getElem?_set_ne (Ne.symm hj)]
          exact ht'
        · simpa [hasked, htold, hj] using hcame
    · intro j hj
      have hne : j ≠ i := by
        rintro rfl
        rw [List.getElem?_eq_none_iff, ← hpool.length] at hj
        omega
      simpa [hasked, htold, hne] using hpool.silent j hj

theorem turn (hpool : CameFrom h scripts asked told pool) (s : σ) (i : Nat) :
    Task.Turn h s (pool.question? i) (pool.exchange? h s i) (pool.step h s i).2 := by
  cases ht : pool[i]? with
  | none => simpa [question?, exchange?, Pool.step, ht] using Task.Turn.rest
  | some t =>
    cases hscript : scripts[i]? with
    | none =>
      rw [List.getElem?_eq_none_iff, ← hpool.length, ← List.getElem?_eq_none_iff, ht] at hscript
      cases hscript
    | some script =>
      obtain ⟨t', ht', hcame⟩ := hpool.task i script hscript
      obtain rfl := Option.some.inj (ht'.symm.trans ht)
      simpa [question?, exchange?, Pool.step, ht] using hcame.turn s

theorem respects {p : D.Question → Prop} {R : σ → σ → Prop}
    (hpool : CameFrom h scripts asked told pool) (hscripts : ∀ script ∈ scripts, script.Asks p)
    (hr : h.Respects p R) (s : σ) (i : Nat) : R s (pool.step h s i).2 := by
  cases ht : pool[i]? with
  | none => simpa [Pool.step, ht] using hr.refl s
  | some t =>
    have hi : i < scripts.length := by
      rw [← hpool.length]
      exact (List.getElem?_eq_some_iff.mp ht).1
    obtain ⟨t', ht', hcame⟩ := hpool.task i scripts[i] (List.getElem?_eq_getElem hi)
    obtain rfl := Option.some.inj (ht'.symm.trans ht)
    have hasks := hcame.asks (hscripts _ (List.getElem_mem hi))
    simpa [Pool.step, ht] using (hasks.step hr s).2

/-- A question that a turn asks is one that the scripts ask. -/
theorem question_asked (hpool : CameFrom h scripts asked told pool) {p : D.Question → Prop}
    (hp : ∀ script ∈ scripts, script.Asks p) {i : Nat} {q : D.Question}
    (hq : pool.question? i = some q) : p q := by
  obtain ⟨t, ht, hq⟩ := Option.bind_eq_some_iff.mp hq
  have hi : i < scripts.length := by
    rw [← hpool.length]
    exact (List.getElem?_eq_some_iff.mp ht).1
  obtain ⟨t', ht', hcame⟩ := hpool.task i scripts[i] (List.getElem?_eq_getElem hi)
  obtain rfl := Option.some.inj (ht'.symm.trans ht)
  have hasks := hcame.asks (hp _ (List.getElem_mem hi))
  cases t' with
  | ready script =>
    cases script with
    | ask q' next =>
      cases Option.some.inj hq
      exact hasks.1
    | _ => cases hq
  | waiting => cases hq

/-- An exchange that a turn completes answers a question of the script whose turn it is. -/
theorem exchange_asked (hpool : CameFrom h scripts asked told pool) {s : σ} {i : Nat}
    {x : Exchange D} (hx : pool.exchange? h s i = some x) :
    ∃ script, scripts[i]? = some script ∧ ∀ p, script.Asks p → p x.question := by
  obtain ⟨t, ht, hx⟩ := Option.bind_eq_some_iff.mp hx
  have hi : i < scripts.length := by
    rw [← hpool.length]
    exact (List.getElem?_eq_some_iff.mp ht).1
  refine ⟨scripts[i], List.getElem?_eq_getElem hi, ?_⟩
  intro p hp
  obtain ⟨t', ht', hcame⟩ := hpool.task i scripts[i] (List.getElem?_eq_getElem hi)
  obtain rfl := Option.some.inj (ht'.symm.trans ht)
  exact ((hcame.step s).came.asks hp).2 x (by simp [hx])

/-- An exchange that a turn completes answers the question that the script with the turn has come
to. -/
theorem leads_of_exchange (hpool : CameFrom h scripts asked told pool) {s : σ} {i : Nat}
    {x : Exchange D} (hx : pool.exchange? h s i = some x) :
    ∃ script next, scripts[i]? = some script ∧ script.Leads (told i) (.ask x.question next) := by
  obtain ⟨t, ht, hx⟩ := Option.bind_eq_some_iff.mp hx
  have hi : i < scripts.length := by
    rw [← hpool.length]
    exact (List.getElem?_eq_some_iff.mp ht).1
  obtain ⟨t', ht', hcame⟩ := hpool.task i scripts[i] (List.getElem?_eq_getElem hi)
  obtain rfl := Option.some.inj (ht'.symm.trans ht)
  obtain ⟨next, hleads⟩ := hcame.leads_of_exchange hx
  exact ⟨scripts[i], next, List.getElem?_eq_getElem hi, hleads⟩

theorem came (hpool : CameFrom h scripts asked told pool) {i : Nat} {script : Script D α}
    (hscript : scripts[i]? = some script) : script.Came (asked i) (told i) := by
  obtain ⟨t, -, hcame⟩ := hpool.task i script hscript
  exact hcame.came

/-- After the last end each script has come to its end. -/
theorem leads_of_ended (hpool : CameFrom h scripts asked told pool) (hended : pool.ended = true)
    {i : Nat} {script : Script D α} (hscript : scripts[i]? = some script) :
    ∃ r, script.Leads (told i) (.ofOutcome r) ∧ asked i = (told i).map (·.question) ∧
      ∃ t, pool[i]? = some t ∧ t.outcome? = some r := by
  obtain ⟨t, ht, hcame⟩ := hpool.task i script hscript
  have hend := List.all_eq_true.mp hended t (List.mem_of_getElem? ht)
  obtain ⟨r, hr⟩ := Option.isSome_iff_exists.mp hend
  obtain ⟨hleads, hasked⟩ := hcame.leads_of_outcome hr
  exact ⟨r, hleads, hasked, t, ht, hr⟩

/-- The first failure is one that a script has come to. -/
theorem leads_of_failure (hpool : CameFrom h scripts asked told pool) {f : Failure}
    (hf : pool.failure? = some f) :
    ∃ (i : Nat) (script : Script D α), scripts[i]? = some script ∧ script.Leads (told i) (.fail f) := by
  obtain ⟨t, ht, hend⟩ := List.exists_of_findSome?_eq_some hf
  obtain ⟨i, hi⟩ := List.getElem?_of_mem ht
  have houtcome : t.outcome? = some (.error f) := by
    split at hend
    · next g hg => rw [hg, Option.some.inj hend]
    · cases hend
  cases hscript : scripts[i]? with
  | none =>
    rw [List.getElem?_eq_none_iff, ← hpool.length, ← List.getElem?_eq_none_iff, hi] at hscript
    cases hscript
  | some script =>
    obtain ⟨t', ht', hcame⟩ := hpool.task i script hscript
    obtain rfl := Option.some.inj (ht'.symm.trans hi)
    exact ⟨i, script, hscript, (hcame.leads_of_outcome houtcome).1⟩

end CameFrom

theorem outcome_of_failure?_eq_none (hnone : pool.failure? = none) {t : Task D σ α} (ht : t ∈ pool)
    {r : Outcome α} (hr : t.outcome? = some r) : ∃ x, r = .ok x := by
  cases r with
  | ok x => exact ⟨x, rfl⟩
  | error f =>
    have hquiet := List.findSome?_eq_none_iff.mp hnone t ht
    simp [hr] at hquiet

end Pool
end TicketSync
