import TicketSync.Plugin.Callers
import TicketSync.Proofs.AnsweredCalls

/-! # A connection that several callers share

The shared connection is looked up, installed and dropped in single steps, and everything else
happens without it, so callers cross in every order. What holds in between is that a connection
waits to be installed at one caller only, which dialled it, and that nobody else knows of it before.
So a connection that was dropped, or came too late, is not there for anyone from then on. -/
namespace TicketSync.Plugin

open Redial (Question Stage At)

namespace Redial.Stage

variable {κ : Type}

/-- The connection that a caller has in a stage. -/
def connection? : Stage κ → Option κ
  | installing c | sending c | dropping c => some c
  | _ => none

/-- Whether a caller waits in a stage for a dial, a call or a pause to end. -/
def waits : Stage κ → Bool
  | dialling | sending _ | pausing => true
  | _ => false

@[simp] theorem connection?_afterFailure (n : Nat) (f : Failure) :
    (afterFailure n f : Stage κ).connection? = none := by
  unfold afterFailure
  split <;> rfl

@[simp] theorem connection?_afterRefusal (n : Nat) (f : Failure) :
    (afterRefusal n f : Stage κ).connection? = none := by
  unfold afterRefusal
  split
  · rfl
  · exact connection?_afterFailure n f

end Redial.Stage

namespace Callers

/-- The stage of a caller that has begun. -/
def stage? (x : Callers) (i : Nat) : Option (Stage Nat) := (x.scripts[i]?).map Stage.ofScript

/-! ### What one event does -/

/-- The answer that an event gives to the question of a caller, with the shared connection and the
number of connections after it. -/
inductive Answers (x : Callers) (i : Nat) :
    CallerEvent → (q : Question Nat) → q.Answer → Option Nat → Nat → Prop
  | handed : Answers x i (.turn i) .current x.shared x.shared x.dialled
  | installed (c : Nat) : Answers x i (.turn i) (.install c) (Redial.keep x.shared c)
      (some (Redial.keep x.shared c)) x.dialled
  | dropped (c : Nat) :
      Answers x i (.turn i) (.invalidate c) () (Redial.drop x.shared c) x.dialled
  | dialled (u : Unit) :
      Answers x i (.dialEnds i (.ok u)) .dial (.ok (x.dialled + 1)) x.shared (x.dialled + 1)
  | refused (f : Failure) :
      Answers x i (.dialEnds i (.error f)) .dial (.error f) x.shared x.dialled
  | called (c : Nat) (m : String) (v : Json) (r : Outcome Json) :
      Answers x i (.callEnds i r) (.send c m v) r x.shared x.dialled
  | rested : Answers x i (.pauseEnds i) .pause (.ok ()) x.shared x.dialled
  | cutDial : Answers x i (.cancel i) .dial (.error .cancelled) x.shared x.dialled
  | cutCall (c : Nat) (m : String) (v : Json) :
      Answers x i (.cancel i) (.send c m v) (.error .cancelled) x.shared x.dialled
  | cutPause : Answers x i (.cancel i) .pause (.error .cancelled) x.shared x.dialled

/-- What an event leaves of callers: it changes nothing, one begins, or one is answered. -/
inductive Goes (x : Callers) : CallerEvent → Callers → Prop
  | rests (e : CallerEvent) : Goes x e x
  | begins (p : RetryPolicy) (method : String) (params : Json) :
      Goes x (.begin p method params)
        { x with scripts := x.scripts ++ [Redial.call p method params] }
  | answers {i : Nat} {e : CallerEvent} {q : Question Nat}
      {next : q.Answer → Script (Redial Nat) Json} {a : q.Answer} {shared : Option Nat}
      {dialled : Nat}
      (asked : x.scripts[i]? = some (.ask q next)) (answer : x.Answers i e q a shared dialled)
      (marks : List CallerMark) : Goes x e ⟨x.scripts.set i (next a), shared, dialled, marks⟩

theorem goes_step (x : Callers) (e : CallerEvent) : x.Goes e (x.step e) := by
  cases e with
  | begin p method params => exact .begins p method params
  | turn i =>
    simp only [step, turn]
    split
    · next next hasked =>
      split
      · exact .answers hasked .handed _
      · exact .answers hasked .handed _
    · next c next hasked => exact .answers hasked (.installed c) _
    · next c next hasked => exact .answers hasked (.dropped c) _
    · exact .rests _
  | dialEnds i r =>
    simp only [step, dialEnds]
    split
    · next next hasked =>
      cases r with
      | ok u => exact .answers hasked (.dialled u) _
      | error f => exact .answers hasked (.refused f) _
    · exact .rests _
  | callEnds i r =>
    simp only [step, callEnds]
    split
    · next c m v next hasked =>
      split
      · exact .answers hasked (.called c m v r) _
      · exact .answers hasked (.called c m v r) _
    · exact .rests _
  | pauseEnds i =>
    simp only [step, pauseEnds]
    split
    · next next hasked => exact .answers hasked .rested _
    · exact .rests _
  | cancel i =>
    simp only [step, cancel]
    split
    · next next hasked => exact .answers hasked .cutDial _
    · next c m v next hasked => exact .answers hasked (.cutCall c m v) _
    · next next hasked => exact .answers hasked .cutPause _
    · exact .rests _

/-! ### Where a connection comes from -/

section

variable {x : Callers} {i : Nat} {e : CallerEvent} {q : Question Nat} {a : q.Answer}
  {shared : Option Nat} {dialled : Nat}

theorem Answers.le_dialled (h : x.Answers i e q a shared dialled) : x.dialled ≤ dialled := by
  cases h <;> omega

/-- Only a connection that is installed comes to be shared. -/
theorem Answers.shared_eq (h : x.Answers i e q a shared dialled) {c : Nat}
    (hc : shared = some c) : x.shared = some c ∨ q = .install c := by
  cases h with
  | installed c' =>
    cases hshared : x.shared with
    | none =>
      rw [hshared, Redial.keep, Option.getD_none] at hc
      cases hc
      exact .inr rfl
    | some kept =>
      rw [hshared, Redial.keep, Option.getD_some] at hc
      exact .inl hc
  | dropped c' =>
    rw [Redial.drop] at hc
    split at hc
    · cases hc
    · exact .inl hc
  | _ => exact .inl hc

/-- A caller comes to have a connection in three ways. It is given the shared one, or the one that
it installs, to send its call on; it has dialled a new one; and its call on one was lost. -/
theorem Answers.connection (h : x.Answers i e q a shared dialled) {n c : Nat}
    (hc : (q.leadsTo n a).connection? = some c) :
    (q.leadsTo n a = .sending c ∧ (x.shared = some c ∨ q = .install c)) ∨
    (q.leadsTo n a = .installing c ∧ c = x.dialled + 1 ∧ dialled = x.dialled + 1) ∨
    (q.leadsTo n a = .dropping c ∧ e = .callEnds i (.error .connectionLost) ∧
      ∃ m v, q = .send c m v) := by
  cases h with
  | handed =>
    cases hshared : x.shared with
    | none =>
      rw [hshared] at hc
      cases hc
    | some c' =>
      rw [hshared] at hc
      cases hc
      exact .inl ⟨rfl, .inl rfl⟩
  | installed c' =>
    cases hc
    exact .inl ⟨rfl, Answers.shared_eq (.installed (i := i) c') rfl⟩
  | dialled u =>
    cases hc
    exact .inr (.inl ⟨rfl, rfl, rfl⟩)
  | called c' m v r =>
    rw [Question.leadsTo, Stage.afterSending] at hc ⊢
    split at hc
    · next hlost =>
      cases hc
      rw [if_pos hlost, Redial.isLost_iff.mp hlost]
      exact .inr (.inr ⟨rfl, rfl, m, v, rfl⟩)
    · cases hc
  | dropped c' =>
    rw [Question.leadsTo, Stage.connection?_afterFailure] at hc
    cases hc
  | refused f =>
    rw [Question.leadsTo, Stage.connection?_afterRefusal] at hc
    cases hc
  | cutCall c' m v => cases hc
  | rested | cutDial | cutPause => cases hc

/-- A caller that is to send its call on a connection was given the shared one or installed it. -/
theorem Answers.sending (h : x.Answers i e q a shared dialled) {n c : Nat}
    (hto : q.leadsTo n a = .sending c) : x.shared = some c ∨ q = .install c := by
  rcases h.connection (congrArg Stage.connection? hto) with ⟨-, hc⟩ | ⟨h', -⟩ | ⟨h', -⟩
  · exact hc
  · cases hto.symm.trans h'
  · cases hto.symm.trans h'

/-- A connection that waits to be installed after an answer to its caller was dialled just then. -/
theorem Answers.installing (h : x.Answers i e q a shared dialled) {n c : Nat}
    (hto : q.leadsTo n a = .installing c) : c = x.dialled + 1 := by
  rcases h.connection (congrArg Stage.connection? hto) with ⟨h', -⟩ | ⟨-, hc, -⟩ | ⟨h', -⟩
  · cases hto.symm.trans h'
  · exact hc
  · cases hto.symm.trans h'

/-- A connection that its caller is to drop after an answer has just lost the caller's call. -/
theorem Answers.dropping (h : x.Answers i e q a shared dialled) {n c : Nat}
    (hto : q.leadsTo n a = .dropping c) :
    e = .callEnds i (.error .connectionLost) ∧ ∃ m v, q = .send c m v := by
  rcases h.connection (congrArg Stage.connection? hto) with ⟨h', -⟩ | ⟨h', -⟩ | ⟨-, hlost⟩
  · cases hto.symm.trans h'
  · cases hto.symm.trans h'
  · exact hlost

end

theorem stage?_set {x y : Callers} {i : Nat} {s t : Script (Redial Nat) Json}
    (hs : x.scripts[i]? = some s) (hy : y.scripts = x.scripts.set i t) (j : Nat) :
    y.stage? j = if j = i then some (.ofScript t) else x.stage? j := by
  have hlt : i < x.scripts.length := (List.getElem?_eq_some_iff.mp hs).1
  rw [stage?, stage?, hy, List.getElem?_set]
  by_cases hj : j = i
  · simp [hj, hlt]
  · simp [hj, Ne.symm hj]

theorem stage?_begin {x : Callers} {p : RetryPolicy} {method : String} {params : Json} {j : Nat}
    {stage : Stage Nat} (h : (x.step (.begin p method params)).stage? j = some stage) :
    x.stage? j = some stage ∨ stage = .looking := by
  rw [stage?, step, List.getElem?_append] at h
  split at h
  · exact .inl h
  · obtain ⟨s, hs, hstage⟩ := Option.map_eq_some_iff.mp h
    have hcall := List.mem_singleton.mp (List.mem_of_getElem? hs)
    rw [← hstage, hcall, (Redial.at_call p method params).ofScript_eq]
    exact .inr rfl

/-! ### What holds of callers at all times -/

/-- Callers of which nobody has begun. Their shared connection, if any, is one of those that were
dialled before. -/
structure Fresh (x : Callers) : Prop where
  scripts : x.scripts = []
  shared_le : ∀ c, x.shared = some c → c ≤ x.dialled

/-- What holds of callers at all times. Each is in a stage of its call, connections have the numbers
of dials, and one that waits to be installed is known to the caller that dialled it and nobody
else. -/
structure Sound (x : Callers) : Prop where
  staged : ∀ s ∈ x.scripts, ∃ method params n stage, At method params n stage s
  shared_le : ∀ c, x.shared = some c → c ≤ x.dialled
  numbered : ∀ i stage c, x.stage? i = some stage → stage.connection? = some c → c ≤ x.dialled
  offered : ∀ i c, x.stage? i = some (.installing c) → x.shared ≠ some c ∧
    ∀ j stage, x.stage? j = some stage → stage.connection? = some c → j = i

theorem Fresh.sound {x : Callers} (hx : x.Fresh) : x.Sound where
  staged := by simp [hx.scripts]
  shared_le := hx.shared_le
  numbered i stage c h := by simp [stage?, hx.scripts] at h
  offered i c h := by simp [stage?, hx.scripts] at h

section

variable {x y : Callers} {i : Nat} {e : CallerEvent} {q : Question Nat}
  {next : q.Answer → Script (Redial Nat) Json} {a : q.Answer} {shared : Option Nat} {dialled : Nat}

theorem Sound.answered (hx : x.Sound) (hasked : x.scripts[i]? = some (.ask q next)) (a : q.Answer) :
    ∃ n, Stage.ofScript (next a) = q.leadsTo n a ∧
      ∃ method params n', At method params n' (q.leadsTo n a) (next a) := by
  obtain ⟨method, params, n, stage, hat⟩ := hx.staged _ (List.mem_of_getElem? hasked)
  obtain ⟨n', hnext⟩ := hat.answered a
  exact ⟨n, hnext.ofScript_eq, method, params, n', hnext⟩

/-- An answer moves its caller to the stage that it leads to, and nobody else. -/
theorem Sound.stage?_answered (hx : x.Sound) (hasked : x.scripts[i]? = some (.ask q next))
    (hy : y.scripts = x.scripts.set i (next a)) :
    ∃ n, ∀ j, y.stage? j = if j = i then some (q.leadsTo n a) else x.stage? j := by
  obtain ⟨n, hscript, -⟩ := hx.answered hasked a
  refine ⟨n, fun j => ?_⟩
  rw [stage?_set hasked hy, hscript]

/-- The stage of a caller that asks something. -/
theorem stage?_asked (hasked : x.scripts[i]? = some (.ask q next)) :
    x.stage? i = some (.ofScript (.ask q next)) := by
  rw [stage?, hasked, Option.map_some]

theorem Sound.begun (hx : x.Sound) (p : RetryPolicy) (method : String) (params : Json) :
    (x.step (.begin p method params)).Sound where
  staged s hs := by
    rcases List.mem_append.mp hs with hs | hs
    · exact hx.staged s hs
    · rw [List.mem_singleton.mp hs]
      exact ⟨method, params, _, _, Redial.at_call p method params⟩
  shared_le := hx.shared_le
  numbered j stage c h hc := by
    rcases stage?_begin h with h | rfl
    · exact hx.numbered j stage c h hc
    · cases hc
  offered j c h := by
    rcases stage?_begin h with h | h
    · refine ⟨(hx.offered j c h).1, fun k stage hk hc => ?_⟩
      rcases stage?_begin hk with hk | rfl
      · exact (hx.offered j c h).2 k stage hk hc
      · cases hc
    · cases h

/-- Whoever comes to have a connection by an answer, it is a new one or was known before. -/
theorem Sound.held_le (hx : x.Sound) (hasked : x.scripts[i]? = some (.ask q next))
    (hanswer : x.Answers i e q a shared dialled) {n c : Nat}
    (hc : (q.leadsTo n a).connection? = some c) : c ≤ dialled := by
  have hle := hanswer.le_dialled
  have hstage := stage?_asked hasked
  rcases hanswer.connection hc with ⟨-, hshared | rfl⟩ | ⟨-, rfl, hd⟩ | ⟨-, -, m, v, rfl⟩
  · exact Nat.le_trans (hx.shared_le c hshared) hle
  · exact Nat.le_trans (hx.numbered i _ c hstage rfl) hle
  · omega
  · exact Nat.le_trans (hx.numbered i _ c hstage rfl) hle

/-- A connection that another caller is about to install is not what an answer gives. -/
theorem Sound.not_held (hx : x.Sound) (hasked : x.scripts[i]? = some (.ask q next))
    (hanswer : x.Answers i e q a shared dialled) {n c j : Nat} (hj : j ≠ i)
    (hoffered : x.stage? j = some (.installing c)) : (q.leadsTo n a).connection? ≠ some c := by
  intro hc
  have hstage := stage?_asked hasked
  obtain ⟨hunshared, howner⟩ := hx.offered j c hoffered
  rcases hanswer.connection hc with ⟨-, hshared | rfl⟩ | ⟨-, rfl, hd⟩ | ⟨-, -, m, v, rfl⟩
  · exact hunshared hshared
  · exact hj (howner i _ hstage rfl).symm
  · have := hx.numbered j _ _ hoffered rfl
    omega
  · exact hj (howner i _ hstage rfl).symm

/-- The connection that is shared after an answer was known before, and nobody else is about to
install it. -/
theorem Sound.shared_after (hx : x.Sound) (hasked : x.scripts[i]? = some (.ask q next))
    (hanswer : x.Answers i e q a shared dialled) {c : Nat} (hshared : shared = some c) :
    c ≤ x.dialled ∧ ∀ j ≠ i, x.stage? j ≠ some (.installing c) := by
  have hstage := stage?_asked hasked
  rcases hanswer.shared_eq hshared with hbefore | rfl
  · exact ⟨hx.shared_le c hbefore, fun j _ hj => (hx.offered j c hj).1 hbefore⟩
  · refine ⟨hx.numbered i _ c hstage rfl, fun j hne hj => ?_⟩
    exact hne ((hx.offered j c hj).2 i _ hstage rfl).symm

theorem Sound.after_answer (hx : x.Sound) (hasked : x.scripts[i]? = some (.ask q next))
    (hanswer : x.Answers i e q a shared dialled) (marks : List CallerMark) :
    Sound ⟨x.scripts.set i (next a), shared, dialled, marks⟩ := by
  have hle := hanswer.le_dialled
  obtain ⟨n, hstages⟩ := hx.stage?_answered hasked
    (y := ⟨x.scripts.set i (next a), shared, dialled, marks⟩) rfl
  refine ⟨?_, ?_, ?_, ?_⟩
  · intro s hs
    rcases List.mem_or_eq_of_mem_set hs with hs | rfl
    · exact hx.staged s hs
    · obtain ⟨_, -, method, params, n', hat⟩ := hx.answered hasked a
      exact ⟨method, params, n', _, hat⟩
  · intro c hc
    have := (hx.shared_after hasked hanswer hc).1
    exact Nat.le_trans this hle
  · intro j stage c hj hc
    rw [hstages] at hj
    split at hj
    · cases hj
      exact hx.held_le hasked hanswer hc
    · exact Nat.le_trans (hx.numbered j stage c hj hc) hle
  · intro j c hj
    rw [hstages] at hj
    split at hj
    -- its caller has just dialled it, so its number is new
    · next heq =>
      have hnew := hanswer.installing (Option.some.inj hj)
      refine ⟨fun hc => ?_, fun k stage hk hc => ?_⟩
      · have := (hx.shared_after hasked hanswer hc).1
        omega
      · rw [hstages] at hk
        split at hk
        · next hki => rw [hki, heq]
        · have := hx.numbered k stage c hk hc
          omega
    -- it waited before, and the answer was not about it
    · next hne =>
      refine ⟨fun hc => (hx.shared_after hasked hanswer hc).2 j hne hj, fun k stage hk hc => ?_⟩
      rw [hstages] at hk
      split at hk
      · cases hk
        exact absurd hc (hx.not_held hasked hanswer hne hj)
      · exact (hx.offered j c hj).2 k stage hk hc

end

theorem Sound.step {x : Callers} (hx : x.Sound) (e : CallerEvent) : (x.step e).Sound := by
  have hgoes := x.goes_step e
  generalize x.step e = y at hgoes ⊢
  cases hgoes with
  | rests => exact hx
  | begins p method params => exact hx.begun p method params
  | answers asked answer marks => exact hx.after_answer asked answer marks

theorem Sound.run {x : Callers} (hx : x.Sound) (events : List CallerEvent) :
    (x.run events).Sound := by
  induction events generalizing x with
  | nil => exact hx
  | cons e events ih => exact ih (hx.step e)

/-! ### A connection that nobody gets any more -/

/-- A connection that was dialled, is not shared and does not wait to be installed. -/
structure Retired (x : Callers) (c : Nat) : Prop where
  le_dialled : c ≤ x.dialled
  unshared : x.shared ≠ some c
  unoffered : ∀ i, x.stage? i ≠ some (.installing c)

/-- Whoever is about to send its call on a connection was so before. -/
def NoneGets (x y : Callers) (c : Nat) : Prop :=
  ∀ i, y.stage? i = some (.sending c) → x.stage? i = some (.sending c)

theorem Retired.step {x : Callers} {c : Nat} (hx : x.Sound) (hc : x.Retired c) (e : CallerEvent) :
    (x.step e).Retired c ∧ x.NoneGets (x.step e) c := by
  have hgoes := x.goes_step e
  generalize x.step e = y at hgoes ⊢
  cases hgoes with
  | rests => exact ⟨hc, fun i hi => hi⟩
  | begins p method params =>
    refine ⟨⟨hc.le_dialled, hc.unshared, fun i hi => ?_⟩, fun i hi => ?_⟩
    · rcases stage?_begin hi with hi | hi
      · exact hc.unoffered i hi
      · cases hi
    · rcases stage?_begin hi with hi | hi
      · exact hi
      · cases hi
  | @answers i _ q next a shared dialled asked answer marks =>
    have hstage := stage?_asked asked
    obtain ⟨n, hstages⟩ := hx.stage?_answered asked
      (y := ⟨x.scripts.set i (next a), shared, dialled, marks⟩) rfl
    refine ⟨⟨Nat.le_trans hc.le_dialled answer.le_dialled, fun hshared => ?_, fun j hj => ?_⟩,
      fun j hj => ?_⟩
    · rcases answer.shared_eq hshared with hbefore | rfl
      · exact hc.unshared hbefore
      · exact hc.unoffered i hstage
    · rw [hstages] at hj
      split at hj
      · have hnew := answer.installing (Option.some.inj hj)
        have hle := hc.le_dialled
        omega
      · exact hc.unoffered j hj
    · rw [hstages] at hj
      split at hj
      · rcases answer.sending (Option.some.inj hj) with hbefore | rfl
        · exact absurd hbefore hc.unshared
        · exact absurd hstage (hc.unoffered i)
      · exact hj

theorem Retired.run {x : Callers} {c : Nat} (hx : x.Sound) (hc : x.Retired c)
    (events : List CallerEvent) : (x.run events).Retired c ∧ x.NoneGets (x.run events) c := by
  induction events generalizing x with
  | nil => exact ⟨hc, fun i hi => hi⟩
  | cons e events ih =>
    obtain ⟨hstep, hgets⟩ := hc.step hx e
    obtain ⟨hrun, hgets'⟩ := ih (hx.step e) hstep
    exact ⟨hrun, fun i hi => hgets i (hgets' i hi)⟩

/-! ### What a caller asks in a stage -/

section

variable {x : Callers} {i c : Nat}

theorem asked_of_dropping (h : x.stage? i = some (.dropping c)) :
    ∃ next, x.scripts[i]? = some (.ask (.invalidate c) next) := by
  obtain ⟨s, hs, hstage⟩ := Option.map_eq_some_iff.mp h
  cases s with
  | ask q next => cases q <;> cases hstage; exact ⟨next, hs⟩
  | _ => cases hstage

theorem asked_of_installing (h : x.stage? i = some (.installing c)) :
    ∃ next, x.scripts[i]? = some (.ask (.install c) next) := by
  obtain ⟨s, hs, hstage⟩ := Option.map_eq_some_iff.mp h
  cases s with
  | ask q next => cases q <;> cases hstage; exact ⟨next, hs⟩
  | _ => cases hstage

/-- A caller that waits and is cancelled has the end of its call as the answer. -/
theorem cancel_waiting {stage : Stage Nat} (h : x.stage? i = some stage)
    (hwaits : stage.waits = true) :
    ∃ (q : Question Nat) (next : _) (a : q.Answer) (marks : List CallerMark),
      x.scripts[i]? = some (.ask q next) ∧
      (∀ n, q.leadsTo n a = .ended (.error .cancelled)) ∧
      x.step (.cancel i) = ⟨x.scripts.set i (next a), x.shared, x.dialled, marks⟩ := by
  obtain ⟨s, hs, rfl⟩ := Option.map_eq_some_iff.mp h
  cases s with
  | ask q next =>
    cases q with
    | dial =>
      exact ⟨.dial, next, .error .cancelled, x.marks, hs, fun n => rfl,
        by simp [step, cancel, hs, proceed]⟩
    | send c m v =>
      exact ⟨.send c m v, next, .error .cancelled, x.marks ++ [.sent i c], hs, fun n => rfl,
        by simp [step, cancel, hs, proceed, mark]⟩
    | pause =>
      exact ⟨.pause, next, .error .cancelled, x.marks, hs, fun n => rfl,
        by simp [step, cancel, hs, proceed]⟩
    | _ => cases hwaits
  | _ => cases hwaits

end

/-! ### The shared connection over a run -/

/-- Only a caller that drops the shared connection removes it. -/
theorem removed_by_dropping {x : Callers} {e : CallerEvent} {c : Nat} (hshared : x.shared = some c)
    (hremoved : (x.step e).shared ≠ some c) :
    (x.step e).shared = none ∧ ∃ i, e = .turn i ∧ x.stage? i = some (.dropping c) := by
  have hgoes := x.goes_step e
  generalize x.step e = y at hgoes hremoved ⊢
  cases hgoes with
  | rests => exact absurd hshared hremoved
  | begins => exact absurd hshared hremoved
  | @answers i _ q next a shared dialled asked answer marks =>
    have hstage := stage?_asked asked
    cases answer with
    | installed c' => simp [hshared, Redial.keep] at hremoved
    | dropped c' =>
      simp only [Redial.drop] at hremoved ⊢
      by_cases hc : x.shared = some c'
      · rw [hshared, Option.some.injEq] at hc
        subst hc
        exact ⟨if_pos hshared, i, rfl, hstage⟩
      · rw [if_neg hc] at hremoved
        exact absurd hshared hremoved
    | _ => exact absurd hshared hremoved

/-- A caller comes to drop a connection when its call on that connection is lost. -/
theorem Sound.lost_step {x : Callers} (hx : x.Sound) {e : CallerEvent} {i c : Nat}
    (h : (x.step e).stage? i = some (.dropping c)) :
    x.stage? i = some (.dropping c) ∨
      e = .callEnds i (.error .connectionLost) ∧ x.stage? i = some (.sending c) := by
  have hgoes := x.goes_step e
  generalize x.step e = y at hgoes h
  cases hgoes with
  | rests => exact .inl h
  | begins p method params =>
    rcases stage?_begin h with h | h
    · exact .inl h
    · cases h
  | @answers j _ q next a shared dialled asked answer marks =>
    obtain ⟨n, hstages⟩ := hx.stage?_answered asked
      (y := ⟨x.scripts.set j (next a), shared, dialled, marks⟩) rfl
    rw [hstages] at h
    split at h
    · next hij =>
      obtain ⟨rfl, m, v, rfl⟩ := answer.dropping (Option.some.inj h)
      rw [hij]
      exact .inr ⟨rfl, stage?_asked asked⟩
    · exact .inl h

theorem Sound.lost_run {x : Callers} (hx : x.Sound) {events : List CallerEvent} {i c : Nat}
    (h : (x.run events).stage? i = some (.dropping c)) :
    x.stage? i = some (.dropping c) ∨
      ∃ before after, events = before ++ .callEnds i (.error .connectionLost) :: after ∧
        (x.run before).stage? i = some (.sending c) := by
  induction events generalizing x with
  | nil => exact .inl h
  | cons e events ih =>
    rcases ih (hx.step e) h with hstep | ⟨before, after, rfl, hsending⟩
    · rcases hx.lost_step hstep with hstage | ⟨rfl, hsending⟩
      · exact .inl hstage
      · exact .inr ⟨[], events, rfl, hsending⟩
    · exact .inr ⟨e :: before, after, rfl, hsending⟩

/-- A connection that a caller has dropped is there for nobody from then on. -/
theorem Sound.dropped {x : Callers} (hx : x.Sound) {i c : Nat}
    (h : x.stage? i = some (.dropping c)) :
    (x.step (.turn i)).Retired c ∧ x.NoneGets (x.step (.turn i)) c := by
  obtain ⟨next, hasked⟩ := asked_of_dropping h
  have hstep : x.step (.turn i) = ⟨x.scripts.set i (next ()), Redial.drop x.shared c, x.dialled,
      x.marks ++ [.dropped i c]⟩ := by
    simp [Callers.step, turn, hasked, proceed, mark]
  obtain ⟨n, hstages⟩ := hx.stage?_answered hasked (y := x.step (.turn i)) (by rw [hstep])
  have hnone : ∀ stage, some (Question.leadsTo n (.invalidate c) ()) = some stage →
      stage.connection? = none := by
    rintro stage ⟨⟩
    exact Stage.connection?_afterFailure n _
  refine ⟨⟨?_, ?_, fun j hj => ?_⟩, fun j hj => ?_⟩
  · rw [hstep]
    exact hx.numbered i _ c h rfl
  · rw [hstep, Redial.drop]
    by_cases hc : x.shared = some c <;> simp [hc]
  · rw [hstages] at hj
    split at hj
    · cases hnone _ hj
    · next hne => exact hne ((hx.offered j c hj).2 i _ h rfl).symm
  · rw [hstages] at hj
    split at hj
    · cases hnone _ hj
    · exact hj

/-- A connection that comes too late to be shared is there for nobody, and its caller has the one
that is shared. -/
theorem Sound.late {x : Callers} (hx : x.Sound) {i c kept : Nat}
    (h : x.stage? i = some (.installing c)) (hkept : x.shared = some kept) :
    (x.step (.turn i)).shared = some kept ∧ (x.step (.turn i)).stage? i = some (.sending kept) ∧
    (x.step (.turn i)).Retired c ∧ ∀ j, (x.step (.turn i)).stage? j ≠ some (.sending c) := by
  obtain ⟨next, hasked⟩ := asked_of_installing h
  obtain ⟨hunshared, howner⟩ := hx.offered i c h
  have hne : kept ≠ c := by
    rintro rfl
    exact hunshared hkept
  have hstep : x.step (.turn i) = ⟨x.scripts.set i (next kept), some kept, x.dialled,
      x.marks ++ [.installed i c kept]⟩ := by
    simp [Callers.step, turn, hasked, proceed, mark, hkept, Redial.keep]
  obtain ⟨n, hstages⟩ := hx.stage?_answered hasked (y := x.step (.turn i)) (by rw [hstep])
  refine ⟨by rw [hstep], ?_, ⟨?_, ?_, fun j hj => ?_⟩, fun j hj => ?_⟩
  · rw [hstages, if_pos rfl]
    rfl
  · rw [hstep]
    exact hx.numbered i _ c h rfl
  · rw [hstep]
    simpa using hne
  · rw [hstages] at hj
    split at hj
    · cases hj
    · next hji => exact hji (howner j _ hj rfl)
  · rw [hstages] at hj
    split at hj
    · cases hj
      exact hne rfl
    · next hji => exact hji (howner j _ hj rfl)

/-- A caller that waits and is cancelled ends as cancelled, and nothing else changes. -/
theorem Sound.cancelled {x : Callers} (hx : x.Sound) {i : Nat} {stage : Stage Nat}
    (h : x.stage? i = some stage) (hwaits : stage.waits = true) :
    (x.step (.cancel i)).outcome? i = some (.error .cancelled) ∧
    (x.step (.cancel i)).shared = x.shared ∧
    ∀ j ≠ i, (x.step (.cancel i)).scripts[j]? = x.scripts[j]? := by
  obtain ⟨q, next, a, marks, hasked, hto, hstep⟩ := cancel_waiting h hwaits
  obtain ⟨n, -, method, params, n', hat⟩ := hx.answered hasked a
  rw [hto] at hat
  have hlt : i < x.scripts.length := (List.getElem?_eq_some_iff.mp hasked).1
  rw [hstep]
  refine ⟨?_, rfl, fun j hj => List.getElem?_set_ne hj.symm⟩
  simp [outcome?, hlt, hat.eq_of_ended, Script.ofOutcome]

/-- However callers that share a connection cross, only one whose call on the shared connection was
lost removes it. A connection that a caller has dropped is never shared again, nor does anyone get
it any more. One that comes too late to be shared is used by nobody, and its caller goes on with
the one that is shared. And whoever is cancelled while it waits ends as cancelled and leaves the
shared connection as it was. -/
theorem shared_connection_is_dropped_only_when_lost {x : Callers} (hx : x.Fresh)
    (events : List CallerEvent) :
    let y := x.run events
    (∀ e c, y.shared = some c → (y.step e).shared ≠ some c →
      (y.step e).shared = none ∧ ∃ i, e = .turn i ∧ y.stage? i = some (.dropping c) ∧
        ∃ before after, events = before ++ .callEnds i (.error .connectionLost) :: after ∧
          (x.run before).stage? i = some (.sending c)) ∧
    (∀ i c, y.stage? i = some (.dropping c) → ∀ later,
      let z := (y.step (.turn i)).run later
      z.shared ≠ some c ∧ ∀ j, z.stage? j ≠ some (.installing c) ∧
        (z.stage? j = some (.sending c) → y.stage? j = some (.sending c))) ∧
    (∀ i c kept, y.stage? i = some (.installing c) → y.shared = some kept →
      (y.step (.turn i)).shared = some kept ∧
      (y.step (.turn i)).stage? i = some (.sending kept) ∧
      ∀ later, let z := (y.step (.turn i)).run later
        z.shared ≠ some c ∧ ∀ j, z.stage? j ≠ some (.installing c) ∧
          z.stage? j ≠ some (.sending c)) ∧
    ∀ i stage, y.stage? i = some stage → stage.waits = true →
      (y.step (.cancel i)).outcome? i = some (.error .cancelled) ∧
      (y.step (.cancel i)).shared = y.shared ∧
      ∀ j ≠ i, (y.step (.cancel i)).scripts[j]? = y.scripts[j]? := by
  intro y
  have hy : y.Sound := hx.sound.run events
  refine ⟨?_, ?_, ?_, ?_⟩
  · intro e c hshared hremoved
    obtain ⟨hnone, i, he, hdropping⟩ := removed_by_dropping hshared hremoved
    refine ⟨hnone, i, he, hdropping, ?_⟩
    rcases hx.sound.lost_run hdropping with hstart | hlost
    · simp [stage?, hx.scripts] at hstart
    · exact hlost
  · intro i c hdropping later
    obtain ⟨hretired, hgets⟩ := hy.dropped hdropping
    obtain ⟨hrun, hgets'⟩ := hretired.run (hy.step _) later
    exact ⟨hrun.unshared, fun j => ⟨hrun.unoffered j, fun hj => hgets j (hgets' j hj)⟩⟩
  · intro i c kept hinstalling hkept
    obtain ⟨hshared, hsending, hretired, hunused⟩ := hy.late hinstalling hkept
    refine ⟨hshared, hsending, fun later => ?_⟩
    obtain ⟨hrun, hgets⟩ := hretired.run (hy.step _) later
    exact ⟨hrun.unshared, fun j => ⟨hrun.unoffered j, fun hj => hunused j (hgets j hj)⟩⟩
  · intro i stage hstage hwaits
    exact hy.cancelled hstage hwaits

/-- Nobody has begun, and nothing was dialled. -/
def idle : Callers := { scripts := [] }

/-- Two callers that dial at once. What the second dialled is installed first, and then the call on
it is lost. -/
def crossing : List CallerEvent :=
  [.begin ⟨3, 10⟩ "mail.Call" .null, .begin ⟨3, 10⟩ "mail.Call" .null, .turn 0, .turn 1,
    .dialEnds 0 (.ok ()), .dialEnds 1 (.ok ()), .turn 1, .callEnds 1 (.error .connectionLost)]

theorem crossing_keeps_one :
    idle.Fresh ∧
    (idle.run crossing).stage? 0 = some (.installing 1) ∧
    (idle.run crossing).stage? 1 = some (.dropping 2) ∧
    ((idle.run crossing).step (.turn 0)).shared = some 2 ∧
    ((idle.run crossing).step (.turn 0)).stage? 0 = some (.sending 2) ∧
    ((idle.run crossing).step (.turn 1)).shared = none ∧
    (((idle.run crossing).step (.turn 1)).run [.turn 0]).shared ≠ some 2 ∧
    ((idle.run (crossing ++ [.turn 0])).step (.cancel 0)).outcome? 0 = some (.error .cancelled) ∧
    ((idle.run (crossing ++ [.turn 0])).step (.cancel 0)).shared = some 2 := by
  have hfresh : idle.Fresh := ⟨rfl, by simp [idle]⟩
  obtain ⟨hremoved, hdropped, hlate, -⟩ :=
    shared_connection_is_dropped_only_when_lost hfresh crossing
  obtain ⟨-, -, -, hcancelled⟩ :=
    shared_connection_is_dropped_only_when_lost hfresh (crossing ++ [.turn 0])
  obtain ⟨hkept, hsending, -⟩ := hlate 0 1 2 rfl rfl
  obtain ⟨hended, hsame, -⟩ := hcancelled 0 (.sending 2) rfl rfl
  exact ⟨hfresh, rfl, rfl, hkept, hsending, (hremoved (.turn 1) 2 rfl (by decide)).1,
    (hdropped 1 2 rfl [.turn 0]).1, hended, hsame⟩

end Callers
end TicketSync.Plugin
