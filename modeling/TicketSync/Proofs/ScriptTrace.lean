import TicketSync.Script.Clock

/-! # The exchanges of a script

A script `Leads` through exchanges to what is left of it after them, whatever the answers are. On a
clock, alone or among others, an outcome is a timeout or the end that the exchanges of its own
script lead to. -/
namespace TicketSync

/-! ### Lists at an index -/

theorem set_of_getElem? {α : Type} {xs : List α} {k : Nat} {x : α} (h : xs[k]? = some x) :
    xs.set k x = xs := by
  obtain ⟨hk, rfl⟩ := List.getElem?_eq_some_iff.mp h
  exact List.set_getElem_self hk

/-- What stands at an index after one was set: the new one there, elsewhere what stood there. -/
theorem getElem?_set_cases {α : Type} {xs : List α} {i j : Nat} {a b : α}
    (h : (xs.set i a)[j]? = some b) : j = i ∧ b = a ∨ j ≠ i ∧ xs[j]? = some b := by
  by_cases hj : j = i
  · subst hj
    have hlt := (List.getElem?_eq_some_iff.mp h).1
    rw [List.length_set] at hlt
    rw [List.getElem?_set_self hlt] at h
    exact .inl ⟨rfl, (Option.some.inj h).symm⟩
  · rw [List.getElem?_set_ne (Ne.symm hj)] at h
    exact .inr ⟨hj, h⟩

theorem modify_of_getElem? {α : Type} {xs : List α} {k : Nat} {x : α} {f : α → α}
    (h : xs[k]? = some x) : xs.modify k f = xs.set k (f x) := by
  obtain ⟨hk, rfl⟩ := List.getElem?_eq_some_iff.mp h
  apply List.ext_getElem?
  intro i
  rw [List.getElem?_modify, List.getElem?_set]
  by_cases hi : k = i
  · subst hi
    simp [hk]
  · simp [hi]

theorem modify_of_getElem?_none {α : Type} {xs : List α} {k : Nat} {f : α → α}
    (h : xs[k]? = none) : xs.modify k f = xs :=
  List.modify_eq_self (List.getElem?_eq_none_iff.mp h)

theorem map_set_of_eq {α β : Type} {f : α → β} {xs : List α} {j : Nat} {x x' : α}
    (hx : xs[j]? = some x) (hf : f x' = f x) : (xs.set j x').map f = xs.map f := by
  obtain ⟨hj, rfl⟩ := List.getElem?_eq_some_iff.mp hx
  rw [List.map_set, hf, ← List.getElem_map f, List.set_getElem_self]
  simpa using hj

theorem countP_set_of_getElem? {α : Type} {p : α → Bool} {xs : List α} {j : Nat} {a b : α}
    (h : xs[j]? = some a) :
    (xs.set j b).countP p + (if p a then 1 else 0) = xs.countP p + if p b then 1 else 0 := by
  induction xs generalizing j with
  | nil => simp at h
  | cons x xs ih =>
    cases j with
    | zero =>
      obtain rfl : x = a := by simpa using h
      simp only [List.set_cons_zero, List.countP_cons]
      omega
    | succ j =>
      have ih := ih (by simpa using h)
      simp only [List.set_cons_succ, List.countP_cons]
      omega

/-! ### Records by key -/

section Record

variable {κ α : Type} [DecidableEq κ]

/-- The entries of a record that stand under a key, in order. -/
def entriesOf (k : κ) (record : List (κ × α)) : List α :=
  record.filterMap fun x => if x.1 = k then some x.2 else none

theorem entriesOf_append (k : κ) (xs ys : List (κ × α)) :
    entriesOf k (xs ++ ys) = entriesOf k xs ++ entriesOf k ys :=
  List.filterMap_append

theorem mem_entriesOf {k : κ} {record : List (κ × α)} {x : α} :
    x ∈ entriesOf k record ↔ (k, x) ∈ record := by
  simp [entriesOf]

theorem entriesOf_map (k other : κ) (xs : List α) :
    entriesOf k (xs.map (other, ·)) = if k = other then xs else [] := by
  rw [entriesOf, List.filterMap_map]
  split
  · next h =>
    obtain rfl := h
    exact (congrArg (List.filterMap · xs) (funext fun x => if_pos rfl)).trans List.filterMap_some
  · next h => exact List.filterMap_eq_nil_iff.mpr fun x _ => if_neg (Ne.symm h)

theorem entriesOf_toList (k other : κ) (x : Option α) :
    entriesOf k (x.map (other, ·)).toList = if k = other then x.toList else [] := by
  rw [Option.toList_map, entriesOf_map]

end Record

variable {D : Dialogue} {σ α β : Type}

/-! ### Scripts -/

namespace Script

/-- What is left of a script after exchanges. -/
inductive Leads : Script D α → List (Exchange D) → Script D α → Prop
  | refl (s : Script D α) : Leads s [] s
  | ask {q : D.Question} {next : D.Answer q → Script D α} (a : D.Answer q) {xs : List (Exchange D)}
      {s : Script D α} (rest : Leads (next a) xs s) : Leads (.ask q next) (⟨q, a⟩ :: xs) s

theorem Leads.trans {s s' s'' : Script D α} {xs ys : List (Exchange D)} (h : s.Leads xs s')
    (h' : s'.Leads ys s'') : s.Leads (xs ++ ys) s'' := by
  induction h with
  | refl s => exact h'
  | ask a rest ih => exact .ask a (ih h')

/-- Exchanges lead to one script. -/
theorem Leads.unique {s s' s'' : Script D α} {xs : List (Exchange D)} (h : s.Leads xs s')
    (h' : s.Leads xs s'') : s' = s'' := by
  induction h with
  | refl s =>
    cases h'
    rfl
  | ask a rest ih =>
    cases h' with
    | ask a rest' => exact ih rest'

/-- A script was at the question of each exchange that it went through, and went on with the
answer. -/
theorem Leads.split {s s' : Script D α} {xs ys : List (Exchange D)} {x : Exchange D}
    (h : s.Leads (xs ++ x :: ys) s') :
    ∃ next, s.Leads xs (.ask x.question next) ∧ (next x.answer).Leads ys s' := by
  induction xs generalizing s with
  | nil =>
    cases h with
    | ask a rest => exact ⟨_, .refl _, rest⟩
  | cons y xs ih =>
    cases h with
    | ask a rest =>
      obtain ⟨next, hnext, hrest⟩ := ih rest
      exact ⟨next, .ask a hnext, hrest⟩

theorem relay_bind {E : Dialogue} (f : (q : D.Question) → Script E (D.Answer q)) (s : Script D α)
    (g : α → Script D β) :
    (s.bind g).relay f = (s.relay f).bind fun x => (g x).relay f := by
  induction s with
  | done x => rfl
  | fail e => rfl
  | ask q next ih => simp [relay, bind_assoc, ih]

theorem relay_ofOutcome {E : Dialogue} (f : (q : D.Question) → Script E (D.Answer q))
    (r : Outcome α) : (ofOutcome r : Script D α).relay f = ofOutcome r := by
  cases r <;> rfl

/-- A script that is run alone is led to its outcome by its exchanges. -/
theorem leads_exchanges (r : Responder D σ) (s : Script D α) (state : σ) :
    s.Leads (s.exchanges r state) (ofOutcome (s.run r state).1) := by
  induction s generalizing state with
  | done x => exact .refl _
  | fail f => exact .refl _
  | ask q next ih => exact .ask _ (ih _ _)

/-- The exchanges of one script and then, if it ended with a value, of another. -/
theorem exchanges_bind (r : Responder D σ) (s : Script D α) (f : α → Script D β) (state : σ) :
    (s.bind f).exchanges r state = s.exchanges r state ++
      match s.run r state with
      | (.ok x, state') => (f x).exchanges r state'
      | (.error _, _) => [] := by
  induction s generalizing state with
  | done x => rfl
  | fail e => rfl
  | ask q next ih => simp [bind, exchanges, run, ih]

@[simp] theorem leads_done_iff {x : α} {xs : List (Exchange D)} {s : Script D α} :
    (done x).Leads xs s ↔ xs = [] ∧ s = done x := by
  constructor
  · rintro ⟨⟩
    exact ⟨rfl, rfl⟩
  · rintro ⟨rfl, rfl⟩
    exact .refl _

@[simp] theorem leads_fail_iff {f : Failure} {xs : List (Exchange D)} {s : Script D α} :
    (fail f : Script D α).Leads xs s ↔ xs = [] ∧ s = fail f := by
  constructor
  · rintro ⟨⟩
    exact ⟨rfl, rfl⟩
  · rintro ⟨rfl, rfl⟩
    exact .refl _

theorem leads_ofOutcome_iff {r : Outcome α} {xs : List (Exchange D)} {s : Script D α} :
    (ofOutcome r : Script D α).Leads xs s ↔ xs = [] ∧ s = ofOutcome r := by
  cases r <;> simp [ofOutcome]

theorem ofOutcome_inj {r r' : Outcome α} :
    (ofOutcome r : Script D α) = ofOutcome r' ↔ r = r' := by
  cases r <;> cases r' <;> simp [ofOutcome]

/-- A question that is not the end of a script was answered on the way to its end. -/
theorem leads_ask_ended {q : D.Question} {next : D.Answer q → Script D α} {xs : List (Exchange D)}
    {r : Outcome α} (h : (ask q next).Leads xs (ofOutcome r)) :
    ∃ a ys, xs = ⟨q, a⟩ :: ys ∧ (next a).Leads ys (ofOutcome r) := by
  cases r with
  | ok x =>
    cases h with
    | ask a rest => exact ⟨a, _, rfl, rest⟩
  | error f =>
    cases h with
    | ask a rest => exact ⟨a, _, rfl, rest⟩

/-- The end of one script and then another: the failure of the first, or an end of the second after
a value of the first. -/
theorem leads_bind_ended {s : Script D α} {f : α → Script D β} {xs : List (Exchange D)}
    {r : Outcome β} (h : (s.bind f).Leads xs (ofOutcome r)) :
    (∃ e, r = .error e ∧ s.Leads xs (fail e)) ∨
    ∃ x ys zs, xs = ys ++ zs ∧ s.Leads ys (done x) ∧ (f x).Leads zs (ofOutcome r) := by
  induction s generalizing xs with
  | done x => exact .inr ⟨x, [], xs, rfl, .refl _, h⟩
  | fail e =>
    refine .inl ⟨e, ?_, ?_⟩
    · cases r with
      | ok y => simp [ofOutcome] at h
      | error e' =>
        simp only [fail_bind, ofOutcome, leads_fail_iff, fail.injEq] at h
        rw [h.2]
    · obtain ⟨rfl, -⟩ := leads_fail_iff.mp h
      exact .refl _
  | ask q next ih =>
    obtain ⟨a, ys, rfl, hrest⟩ := leads_ask_ended h
    rcases ih a hrest with ⟨e, hr, hfail⟩ | ⟨x, us, vs, rfl, hfirst, hsecond⟩
    · exact .inl ⟨e, hr, .ask a hfail⟩
    · exact .inr ⟨x, ⟨q, a⟩ :: us, vs, rfl, .ask a hfirst, hsecond⟩

/-- A script comes to another one through exchanges with a property. -/
def LeadsBy (p : Exchange D → Prop) (s s' : Script D α) : Prop :=
  ∃ xs, s.Leads xs s' ∧ ∀ x ∈ xs, p x

theorem LeadsBy.refl (p : Exchange D → Prop) (s : Script D α) : s.LeadsBy p s :=
  ⟨[], .refl s, by simp⟩

theorem LeadsBy.trans {p : Exchange D → Prop} {s s' s'' : Script D α} (h : s.LeadsBy p s')
    (h' : s'.LeadsBy p s'') : s.LeadsBy p s'' := by
  obtain ⟨xs, hxs, hp⟩ := h
  obtain ⟨ys, hys, hp'⟩ := h'
  refine ⟨xs ++ ys, hxs.trans hys, ?_⟩
  intro x hx
  rcases List.mem_append.mp hx with hx | hx
  · exact hp x hx
  · exact hp' x hx

theorem LeadsBy.ask {p : Exchange D → Prop} {q : D.Question} {next : D.Answer q → Script D α}
    {a : D.Answer q} {s : Script D α} (ha : p ⟨q, a⟩) (h : (next a).LeadsBy p s) :
    (ask q next).LeadsBy p s :=
  LeadsBy.trans ⟨[⟨q, a⟩], .ask a (.refl _), by simpa using ha⟩ h

end Script

/-! ### On a clock -/

/-- A handler whose exchanges all have a property, whatever happens before an answer comes. -/
def Handler.Keeps (h : Handler D σ) (p : Exchange D → Prop) : Prop :=
  ∀ q s s', p ⟨q, ((h q s).1.finish s').1⟩

/-- An exchange that a handler gives: it takes the question in one state and answers it in one. -/
def Handler.Gives (h : Handler D σ) (x : Exchange D) : Prop :=
  ∃ s s', x.answer = ((h x.question s).1.finish s').1

theorem Handler.keeps_gives (h : Handler D σ) : h.Keeps h.Gives :=
  fun _ s s' => ⟨s, s', rfl⟩

theorem Handler.Keeps.of_gives {h : Handler D σ} {p : Exchange D → Prop} (hp : h.Keeps p)
    {x : Exchange D} (hx : h.Gives x) : p x := by
  obtain ⟨q, a⟩ := x
  obtain ⟨s, s', ha⟩ := hx
  have hgiven := hp q s s'
  rwa [← ha] at hgiven

/-- A pause that a script comes to through exchanges with a property. -/
def Pause.CameFrom (p : Exchange D → Prop) (script : Script D α) : Pause D σ α → Prop
  | .ended r => script.LeadsBy p (.ofOutcome r)
  | .asleep _ wake => ∀ s, script.LeadsBy p (wake s).1

theorem Pause.CameFrom.ask {p : Exchange D → Prop} {q : D.Question}
    {next : D.Answer q → Script D α} {a : D.Answer q} {pause : Pause D σ α} (ha : p ⟨q, a⟩)
    (h : pause.CameFrom p (next a)) : pause.CameFrom p (.ask q next) := by
  cases pause with
  | ended r => exact Script.LeadsBy.ask ha h
  | asleep delay wake => exact fun s => Script.LeadsBy.ask ha (h s)

theorem Script.cameFrom_advance {h : Handler D σ} {p : Exchange D → Prop} (hp : h.Keeps p)
    (script : Script D α) (s : σ) : (script.advance h s).1.CameFrom p script := by
  induction script generalizing s with
  | done x => exact .refl p _
  | fail f => exact .refl p _
  | ask q next ih =>
    simp only [advance]
    split
    · exact (ih _ _).ask (hp q s _)
    · intro s'
      exact .ask (hp q s s') (.refl p (next _))

/-- Gathered scripts of which each that waits, and each outcome, is where its exchanges lead. -/
structure Gathered.Tracks (p : Exchange D → Prop) (scripts : List (Script D α))
    (x : Gathered D σ α) : Prop where
  asleep : ∀ s ∈ x.asleep, ∃ script, scripts[s.index]? = some script ∧
    ∀ state, script.LeadsBy p (s.wake state).1
  outcomes : ∀ i r, (i, r) ∈ x.outcomes → (∃ l, r = .error (.timeout l)) ∨
    ∃ script, scripts[i]? = some script ∧ script.LeadsBy p (.ofOutcome r)

namespace Gathered.Tracks

variable {p : Exchange D → Prop} {scripts : List (Script D α)} {x : Gathered D σ α} {g : Gathering}
  {h : Nat → Nat → Handler D σ}

theorem finish (hx : x.Tracks p scripts) {i : Nat} {r : Outcome α}
    (hr : (∃ l, r = .error (.timeout l)) ∨
      ∃ script, scripts[i]? = some script ∧ script.LeadsBy p (.ofOutcome r)) :
    (x.finish i r).Tracks p scripts where
  asleep := hx.asleep
  outcomes j r' hmem := by
    rcases List.mem_append.mp hmem with hmem | hmem
    · exact hx.outcomes j r' hmem
    · obtain ⟨rfl, rfl⟩ := Prod.mk.inj (List.mem_singleton.mp hmem)
      exact hr

theorem resume (hp : ∀ i now, (h i now).Keeps p) (hx : x.Tracks p scripts) {i : Nat}
    {expires : Option (Nat × Nat)} {script begun : Script D α} (hbegun : scripts[i]? = some begun)
    (hscript : begun.LeadsBy p script) : (g.resume h i expires script x).Tracks p scripts := by
  have hadvance := script.cameFrom_advance (hp i x.now) x.state
  unfold Gathering.resume
  split
  · next r s heq =>
    simp only [heq] at hadvance
    exact Tracks.finish (x := { x with state := s }) ⟨hx.asleep, hx.outcomes⟩
      (.inr ⟨begun, hbegun, hscript.trans hadvance⟩)
  · next delay wake s heq =>
    simp only [heq] at hadvance
    simp only []
    split
    · exact Tracks.finish (x := { x with state := s }) ⟨hx.asleep, hx.outcomes⟩ (.inl ⟨_, rfl⟩)
    · refine ⟨?_, hx.outcomes⟩
      intro sleeper hmem
      rcases List.mem_append.mp hmem with hmem | hmem
      · exact hx.asleep sleeper hmem
      · rw [List.mem_singleton.mp hmem]
        exact ⟨begun, hbegun, fun state => hscript.trans (hadvance state)⟩

theorem letIn (hp : ∀ i now, (h i now).Keeps p) {queue : List (Nat × Script D α)}
    (hqueue : ∀ e ∈ queue, scripts[e.1]? = some e.2) (hx : x.Tracks p scripts) :
    (g.letIn h queue x).2.Tracks p scripts ∧
      ∀ e ∈ (g.letIn h queue x).1, scripts[e.1]? = some e.2 := by
  induction queue generalizing x with
  | nil => exact ⟨hx, hqueue⟩
  | cons e queue ih =>
    obtain ⟨i, script⟩ := e
    have hrest : ∀ e ∈ queue, scripts[e.1]? = some e.2 :=
      fun e he => hqueue e (List.mem_cons_of_mem _ he)
    simp only [Gathering.letIn]
    split
    · exact ⟨hx, by simp⟩
    · split
      · exact ih hrest (hx.resume hp (hqueue _ List.mem_cons_self) (.refl p script))
      · exact ⟨hx, hqueue⟩

theorem wake (hp : ∀ i now, (h i now).Keeps p) {woken : List (Sleeper D σ α)}
    (hwoken : ∀ s ∈ woken, ∃ script, scripts[s.index]? = some script ∧
      ∀ state, script.LeadsBy p (s.wake state).1)
    (hx : x.Tracks p scripts) : (g.wake h woken x).Tracks p scripts := by
  induction woken generalizing x with
  | nil => exact hx
  | cons s woken ih =>
    have hrest := fun s hs => hwoken s (List.mem_cons_of_mem _ hs)
    obtain ⟨begun, hbegun, hwake⟩ := hwoken s List.mem_cons_self
    simp only [Gathering.wake]
    split
    · exact hx
    · split
      · exact ih hrest (Tracks.resume hp (x := { x with state := (s.wake x.state).2 })
          ⟨hx.asleep, hx.outcomes⟩ hbegun (hwake x.state))
      · exact ih hrest (hx.finish (.inl ⟨_, rfl⟩))

theorem moveTo (hp : ∀ i now, (h i now).Keeps p) (t : Nat) (hx : x.Tracks p scripts) :
    (g.moveTo h t x).Tracks p scripts := by
  simp only [Gathering.moveTo, List.partition_eq_filter_filter]
  refine wake hp ?_ ⟨?_, hx.outcomes⟩
  · intro s hs
    rw [List.mem_mergeSort] at hs
    exact hx.asleep s (List.mem_filter.mp hs).1
  · exact fun s hs => hx.asleep s (List.mem_filter.mp hs).1

theorem proceed (hp : ∀ i now, (h i now).Keeps p) (ends : Option Nat) (moments : Nat)
    {queue : List (Nat × Script D α)} (hqueue : ∀ e ∈ queue, scripts[e.1]? = some e.2)
    (hx : x.Tracks p scripts) : (g.proceed h ends moments queue x).Tracks p scripts := by
  induction moments generalizing queue x with
  | zero => exact hx
  | succ moments ih =>
    simp only [Gathering.proceed]
    split
    · exact hx
    · split
      · exact hx
      · exact ⟨hx.asleep, hx.outcomes⟩
      · split
        · exact ⟨hx.asleep, hx.outcomes⟩
        · obtain ⟨hin, hleft⟩ := (hx.moveTo (g := g) hp _).letIn (g := g) hp hqueue
          split
          · exact ⟨hin.asleep, hin.outcomes⟩
          · exact ih hleft hin

end Gathered.Tracks

/-- Every outcome of scripts that run together on a clock is a timeout, or the end that exchanges of
its own script lead to. -/
theorem Gathering.outcome_leads {p : Exchange D → Prop} {h : Nat → Nat → Handler D σ}
    (hp : ∀ i now, (h i now).Keeps p) (g : Gathering) (moments : Nat) (scripts : List (Script D α))
    (now : Nat) (s : σ) {i : Nat} {r : Outcome α}
    (hr : (i, r) ∈ (g.run h moments scripts now s).outcomes) :
    (∃ l, r = .error (.timeout l)) ∨
      ∃ script, scripts[i]? = some script ∧ script.LeadsBy p (.ofOutcome r) := by
  have hqueue : ∀ e ∈ (List.range scripts.length).zip scripts, scripts[e.1]? = some e.2 := by
    rintro ⟨i, script⟩ he
    obtain ⟨n, hn, hget⟩ := List.mem_iff_getElem.mp he
    simp only [List.getElem_zip, List.getElem_range, Prod.mk.injEq] at hget
    obtain ⟨rfl, rfl⟩ := hget
    simp only [List.length_zip, List.length_range, Nat.min_self] at hn
    exact List.getElem?_eq_getElem hn
  have hstart : Gathered.Tracks p scripts { now, state := s } := ⟨by simp, by simp⟩
  obtain ⟨hin, hleft⟩ := hstart.letIn (g := g) hp hqueue
  exact (hin.proceed hp _ moments hleft).outcomes i r hr

end TicketSync
