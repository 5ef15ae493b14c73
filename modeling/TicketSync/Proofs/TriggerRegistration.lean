import TicketSync.Proofs.SessionStore

/-! # The registration of one trigger

A registration stores a row, asks its tracker for a reference, reads the row back and stores it with
the reference. Its exchanges tell how far it is. Where the row that is read back is the one that was
stored, the row that a registration holds is its own at every stage. -/
namespace TicketSync.Engine

/-- The row that a registration stores first. Its id is still to come. -/
def newRow (baseUrl : String) (t : Trigger) (createdAt : Instant) : Subscription :=
  { trackerName := t.tracker, triggerName := t.name, baseUrl, createdAt }

/-- The exchanges of a registration up to its row: the tracker is there, the variables have values,
and the time is known. -/
def admission (t : Trigger) (vars : Vars) (createdAt : Instant) : List (Exchange Engine) :=
  [⟨.isRegistered t.tracker, true⟩, ⟨.render t.vars {} {}, .ok vars⟩, ⟨.now, createdAt⟩]

/-- How far the linking of a row to a reference can be, with what is left of its script. -/
inductive Linking (id ref : String) : List (Exchange Engine) → Script Engine Unit → Prop
  | begun {next : Outcome Subscription → Script Engine Unit} :
      Linking id ref [] (.ask (.findSubscription id) next)
  | lost (f : Failure) : Linking id ref [⟨.findSubscription id, .error f⟩] (.fail f)
  | found (y : Subscription) {next : Outcome Unit → Script Engine Unit} :
      Linking id ref [⟨.findSubscription id, .ok y⟩]
        (.ask (.updateSubscription { y with trackerRef := some ref }) next)
  | unlinked (y : Subscription) (f : Failure) :
      Linking id ref [⟨.findSubscription id, .ok y⟩,
        ⟨.updateSubscription { y with trackerRef := some ref }, .error f⟩] (.fail f)
  | linked (y : Subscription) :
      Linking id ref [⟨.findSubscription id, .ok y⟩,
        ⟨.updateSubscription { y with trackerRef := some ref }, .ok ()⟩] (.done ())

/-- How far the registration of a trigger can be once its row is stored. -/
inductive Calling (t : Trigger) (vars : Vars) (x : Subscription) :
    List (Exchange Engine) → Script Engine Unit → Prop
  | begun {next : Outcome String → Script Engine Unit} :
      Calling t vars x [] (.ask (.subscribe t.tracker ⟨x.url, vars⟩) next)
  | refused (f : Failure) :
      Calling t vars x [⟨.subscribe t.tracker ⟨x.url, vars⟩, .error f⟩] (.fail f)
  | accepted (ref : String) {told : List (Exchange Engine)} {rest : Script Engine Unit}
      (linking : Linking x.id ref told rest) :
      Calling t vars x (⟨.subscribe t.tracker ⟨x.url, vars⟩, .ok ref⟩ :: told) rest

/-- How far the registration of a trigger can be, with what is left of its script. -/
inductive Registration (baseUrl : String) (t : Trigger) :
    List (Exchange Engine) → Script Engine Unit → Prop
  | begun {next : Bool → Script Engine Unit} :
      Registration baseUrl t [] (.ask (.isRegistered t.tracker) next)
  | unknown : Registration baseUrl t [⟨.isRegistered t.tracker, false⟩]
      (.fail (.trackerNotRegistered t.tracker))
  | known {next : Outcome Vars → Script Engine Unit} :
      Registration baseUrl t [⟨.isRegistered t.tracker, true⟩] (.ask (.render t.vars {} {}) next)
  | unrendered (f : Failure) :
      Registration baseUrl t [⟨.isRegistered t.tracker, true⟩, ⟨.render t.vars {} {}, .error f⟩]
        (.fail f)
  | rendered (vars : Vars) {next : Instant → Script Engine Unit} :
      Registration baseUrl t [⟨.isRegistered t.tracker, true⟩, ⟨.render t.vars {} {}, .ok vars⟩]
        (.ask .now next)
  | admitted (vars : Vars) (createdAt : Instant) {next : Outcome String → Script Engine Unit} :
      Registration baseUrl t (admission t vars createdAt)
        (.ask (.createSubscription (newRow baseUrl t createdAt)) next)
  | unstored (vars : Vars) (createdAt : Instant) (f : Failure) :
      Registration baseUrl t (admission t vars createdAt ++
        [⟨.createSubscription (newRow baseUrl t createdAt), .error f⟩]) (.fail f)
  | stored (vars : Vars) (createdAt : Instant) (id : String) {told : List (Exchange Engine)}
      {rest : Script Engine Unit}
      (calling : Calling t vars { newRow baseUrl t createdAt with id } told rest) :
      Registration baseUrl t (admission t vars createdAt ++
        ⟨.createSubscription (newRow baseUrl t createdAt), .ok id⟩ :: told) rest

theorem linkSubscription_eq (id ref : String) :
    ((linkSubscription id ref).bind fun _ => .done ()) =
      .ask (.findSubscription id) fun a => (Script.ofOutcome a).bind fun y =>
        .ask (.updateSubscription { y with trackerRef := some ref }) Script.ofOutcome := by
  simp only [linkSubscription, findSubscription, inquire, Script.bind_eq, Script.ask_bind,
    Script.done_bind, Script.bind_assoc, Script.pure_eq]
  congr 1
  funext a
  congr 1
  funext y
  congr 1
  exact funext fun a => Script.bind_done _

theorem register_eq (baseUrl : String) (t : Trigger) : register baseUrl t =
    .ask (.isRegistered t.tracker) fun known => if known then
      .ask (.render t.vars {} {}) fun a => (Script.ofOutcome a).bind fun vars =>
        .ask .now fun createdAt => .ask (.createSubscription (newRow baseUrl t createdAt)) fun a =>
          (Script.ofOutcome a).bind fun id =>
            .ask (.subscribe t.tracker ⟨{ newRow baseUrl t createdAt with id }.url, vars⟩) fun a =>
              (Script.ofOutcome a).bind fun ref =>
                (linkSubscription id ref).bind fun _ => .done ()
      else .fail (.trackerNotRegistered t.tracker) := by
  simp only [register, requireTracker, openSubscription, inquire, Script.bind_eq, Script.ask_bind,
    Script.done_bind, Script.bind_assoc, Script.pure_eq]
  congr 1
  funext known
  cases known <;> rfl

theorem linking_of_leads {id ref : String} {told : List (Exchange Engine)}
    {rest : Script Engine Unit}
    (h : ((linkSubscription id ref).bind fun _ => .done ()).Leads told rest) :
    Linking id ref told rest := by
  rw [linkSubscription_eq] at h
  cases h with
  | refl => exact .begun
  | ask a more =>
    cases a with
    | error f =>
      obtain ⟨rfl, rfl⟩ := Script.leads_fail_iff.mp more
      exact .lost f
    | ok y =>
      cases more with
      | refl => exact .found y
      | ask a more =>
        cases a with
        | error f =>
          obtain ⟨rfl, rfl⟩ := Script.leads_fail_iff.mp more
          exact .unlinked y f
        | ok =>
          obtain ⟨rfl, rfl⟩ := Script.leads_done_iff.mp more
          exact .linked y

theorem registration_of_leads {baseUrl : String} {t : Trigger} {told : List (Exchange Engine)}
    {rest : Script Engine Unit} (h : (register baseUrl t).Leads told rest) :
    Registration baseUrl t told rest := by
  rw [register_eq] at h
  cases h with
  | refl => exact .begun
  | ask known more =>
    cases known with
    | false =>
      obtain ⟨rfl, rfl⟩ := Script.leads_fail_iff.mp more
      exact .unknown
    | true =>
      cases more with
      | refl => exact .known
      | ask a more =>
        cases a with
        | error f =>
          obtain ⟨rfl, rfl⟩ := Script.leads_fail_iff.mp more
          exact .unrendered f
        | ok vars =>
          cases more with
          | refl => exact .rendered vars
          | ask createdAt more =>
            cases more with
            | refl => exact .admitted vars createdAt
            | ask a more =>
              cases a with
              | error f =>
                obtain ⟨rfl, rfl⟩ := Script.leads_fail_iff.mp more
                exact .unstored vars createdAt f
              | ok id =>
                refine .stored vars createdAt id ?_
                cases more with
                | refl => exact .begun
                | ask a more =>
                  cases a with
                  | error f =>
                    obtain ⟨rfl, rfl⟩ := Script.leads_fail_iff.mp more
                    exact .refused f
                  | ok ref => exact .accepted ref (linking_of_leads more)

/-! ### The row of a registration -/

/-- The row that an exchange has stored. -/
def storedRow? : Exchange Engine → Option Subscription
  | ⟨.createSubscription x, .ok id⟩ => some { x with id }
  | ⟨.updateSubscription x, .ok _⟩ => some x
  | _ => none

/-- The row that a registration holds after exchanges. -/
def held (told : List (Exchange Engine)) : Option Subscription := (told.filterMap storedRow?).getLast?

@[simp] theorem held_nil : held [] = none := rfl

theorem held_append (told more : List (Exchange Engine)) :
    held (told ++ more) = (held more).or (held told) := by
  rw [held, List.filterMap_append, List.getLast?_append]
  rfl

@[simp] theorem held_cons (x : Exchange Engine) (told : List (Exchange Engine)) :
    held (x :: told) = (held told).or (storedRow? x) := by
  rw [← List.singleton_append, held_append]
  cases h : storedRow? x <;> simp [held, h]

/-- What is read back for a row is what was stored. -/
def Unaltered (told : List (Exchange Engine)) : Prop :=
  ∀ x id id' y, (⟨.createSubscription x, .ok id⟩ : Exchange Engine) ∈ told →
    (⟨.findSubscription id', .ok y⟩ : Exchange Engine) ∈ told → y = { x with id }

/-- Whether a question asks a tracker to call a webhook. -/
def Question.isSubscribe : Question → Bool
  | .subscribe .. => true
  | _ => false

theorem held_admission (t : Trigger) (vars : Vars) (createdAt : Instant) :
    held (admission t vars createdAt) = none := rfl

section

variable {baseUrl : String} {t : Trigger} {told : List (Exchange Engine)}

/-- A registration stores a row when it holds none: one for its trigger, with the time it was told. -/
theorem Registration.of_create {x : Subscription} {next : Outcome String → Script Engine Unit}
    (h : Registration baseUrl t told (.ask (.createSubscription x) next)) :
    held told = none ∧ (∀ id a, (⟨.findSubscription id, a⟩ : Exchange Engine) ∉ told) ∧
      ∃ createdAt, (⟨.now, createdAt⟩ : Exchange Engine) ∈ told ∧ x = newRow baseUrl t createdAt := by
  cases h with
  | admitted vars createdAt =>
    refine ⟨held_admission t vars createdAt, ?_, createdAt, ?_, rfl⟩ <;> simp [admission]
  | stored vars createdAt id calling =>
    cases calling with
    | accepted ref linking => cases linking

/-- A registration reads back the row that it holds. -/
theorem Registration.of_find {id : String} {next : Outcome Subscription → Script Engine Unit}
    (h : Registration baseUrl t told (.ask (.findSubscription id) next)) :
    ∃ createdAt, held told = some { newRow baseUrl t createdAt with id } ∧
      ∀ x id', (⟨.createSubscription x, .ok id'⟩ : Exchange Engine) ∈ told →
        x = newRow baseUrl t createdAt ∧ id' = id := by
  cases h with
  | stored vars createdAt id calling =>
    cases calling with
    | accepted ref linking =>
      cases linking
      refine ⟨createdAt, ?_, ?_⟩
      · simp [held_append, held_admission, storedRow?, newRow]
      · simp [admission]

/-- A registration stores the row that it holds once more, with a reference. -/
theorem Registration.of_update {x : Subscription} {next : Outcome Unit → Script Engine Unit}
    (h : Registration baseUrl t told (.ask (.updateSubscription x) next)) (hread : Unaltered told) :
    ∃ createdAt id ref, held told = some { newRow baseUrl t createdAt with id } ∧
      x = { newRow baseUrl t createdAt with id, trackerRef := some ref } := by
  cases h with
  | stored vars createdAt id calling =>
    cases calling with
    | accepted ref linking =>
      cases linking with
      | found y =>
        obtain rfl : y = { newRow baseUrl t createdAt with id } := hread _ id id _ (by simp) (by simp [newRow])
        refine ⟨createdAt, id, ref, ?_, rfl⟩
        simp [held_append, held_admission, storedRow?, newRow]

theorem Registration.not_delete {id : String} {next : Outcome Unit → Script Engine Unit} :
    ¬Registration baseUrl t told (.ask (.deleteSubscription id) next) := by
  intro h
  cases h with
  | stored vars createdAt id calling =>
    cases calling with
    | accepted ref linking => cases linking

/-- What is read back stays what was stored, if the store has the row that a registration holds. -/
theorem Registration.unaltered {q : Dialogue.Question Engine}
    {next : q.Answer → Script Engine Unit} (h : Registration baseUrl t told (.ask q next))
    (hread : Unaltered told) (a : q.Answer)
    (hnow : ∀ id y z, (⟨q, a⟩ : Exchange Engine) = ⟨.findSubscription id, .ok y⟩ →
      held told = some z → z.id = id → y = z) : Unaltered (told ++ [⟨q, a⟩]) := by
  intro x id id' y hx hy
  rw [List.mem_append, List.mem_singleton] at hx hy
  rcases hx with hx | hx
  · rcases hy with hy | hy
    · exact hread x id id' y hx hy
    · cases hy
      obtain ⟨createdAt, hheld, hown⟩ := h.of_find
      obtain ⟨rfl, rfl⟩ := hown x id hx
      exact hnow id y _ rfl hheld rfl
  · cases hx
    rcases hy with hy | hy
    · exact absurd hy (h.of_create.2.1 id' (.ok y))
    · cases hy

/-- The call of a tracker that a registration makes for a row. -/
def subscription (t : Trigger) (vars : Vars) (x : Subscription) : Question :=
  .subscribe t.tracker ⟨x.url, vars⟩

/-- Where a registration stands with its row: it has none and has called no tracker, or it has one
without a reference, or one with the reference that the tracker has given in its only call. -/
inductive Standing (baseUrl : String) (t : Trigger) (asked : List Question)
    (told : List (Exchange Engine)) : Option Subscription → Prop
  | rowless (silent : asked.filter Question.isSubscribe = []) : Standing baseUrl t asked told none
  | unlinked (vars : Vars) (createdAt : Instant) (id : String)
      (known : (⟨.isRegistered t.tracker, true⟩ : Exchange Engine) ∈ told)
      (rendered : (⟨.render t.vars {} {}, .ok vars⟩ : Exchange Engine) ∈ told)
      (calls : asked.filter Question.isSubscribe = [] ∨ asked.filter Question.isSubscribe =
        [subscription t vars { newRow baseUrl t createdAt with id }]) :
      Standing baseUrl t asked told (some { newRow baseUrl t createdAt with id })
  | linked (vars : Vars) (createdAt : Instant) (id ref : String)
      (known : (⟨.isRegistered t.tracker, true⟩ : Exchange Engine) ∈ told)
      (rendered : (⟨.render t.vars {} {}, .ok vars⟩ : Exchange Engine) ∈ told)
      (calls : asked.filter Question.isSubscribe =
        [subscription t vars { newRow baseUrl t createdAt with id }])
      (answers : told.filter (fun y => y.question.isSubscribe) =
        [⟨subscription t vars { newRow baseUrl t createdAt with id }, .ok ref⟩]) :
      Standing baseUrl t asked told
        (some { newRow baseUrl t createdAt with id, trackerRef := some ref })

/-- A row that a registration holds is one for its trigger, which was admitted, and the tracker was
called for it at most once; a reference in the row is the answer to that call. -/
theorem Standing.of_row {asked : List Question} {x : Subscription}
    (h : Standing baseUrl t asked told (some x)) :
    x.trackerName = t.tracker ∧ x.triggerName = t.name ∧ x.baseUrl = baseUrl ∧
      (⟨.isRegistered t.tracker, true⟩ : Exchange Engine) ∈ told ∧
      ∃ vars, (⟨.render t.vars {} {}, .ok vars⟩ : Exchange Engine) ∈ told ∧
        (asked.filter Question.isSubscribe = [] ∨
          asked.filter Question.isSubscribe = [subscription t vars x]) ∧
        ∀ ref, x.trackerRef = some ref →
          asked.filter Question.isSubscribe = [subscription t vars x] ∧
          told.filter (fun y => y.question.isSubscribe) = [⟨subscription t vars x, .ok ref⟩] := by
  generalize hrow : some x = row at h
  cases h with
  | rowless silent => cases hrow
  | unlinked vars createdAt id known rendered calls =>
    cases hrow
    exact ⟨rfl, rfl, rfl, known, vars, rendered, calls, fun ref href => by cases href⟩
  | linked vars createdAt id ref known rendered calls answers =>
    cases hrow
    refine ⟨rfl, rfl, rfl, known, vars, rendered, .inr calls, ?_⟩
    rintro ref ⟨⟩
    exact ⟨calls, answers⟩

/-- The call of a tracker that a script is about to make. -/
def dueCall : Script Engine Unit → List Question
  | .ask q _ => [q].filter Question.isSubscribe
  | _ => []

/-- Linking calls no tracker. -/
theorem Linking.silent {id ref : String} {rest : Script Engine Unit}
    (h : Linking id ref told rest) : told.filter (fun y => y.question.isSubscribe) = [] ∧
      (told.map (·.question)).filter Question.isSubscribe = [] ∧ dueCall rest = [] := by
  cases h <;> exact ⟨rfl, rfl, rfl⟩

/-- The row after linking it: it is still the one before, or it has the reference. -/
theorem Linking.held {x : Subscription} {ref : String} {rest : Script Engine Unit}
    (h : Linking x.id ref told rest)
    (hread : ∀ id y, (⟨.findSubscription id, .ok y⟩ : Exchange Engine) ∈ told → y = x) :
    held told = none ∨ held told = some { x with trackerRef := some ref } := by
  cases h with
  | begun => exact .inl rfl
  | lost f => exact .inl rfl
  | found y => exact .inl rfl
  | unlinked y f => exact .inl rfl
  | linked y =>
    obtain rfl := hread x.id y (by simp)
    exact .inr rfl

theorem Registration.standing {rest : Script Engine Unit} {asked : List Question}
    (h : Registration baseUrl t told rest) (hread : Unaltered told)
    (hasked : asked = told.map (·.question) ∨
      ∃ q next, rest = .ask q next ∧ asked = told.map (·.question) ++ [q]) :
    Standing baseUrl t asked told (held told) := by
  have hcalls : asked.filter Question.isSubscribe =
      (told.map (·.question)).filter Question.isSubscribe ∨ asked.filter Question.isSubscribe =
      (told.map (·.question)).filter Question.isSubscribe ++ dueCall rest := by
    rcases hasked with rfl | ⟨q, next, rfl, rfl⟩
    · exact .inl rfl
    · exact .inr (List.filter_append _ _)
  cases h with
  | begun | unknown | known | unrendered f | rendered vars | admitted vars createdAt =>
    exact .rowless (by simpa [dueCall, admission, Question.isSubscribe] using hcalls)
  | unstored vars createdAt f =>
    have hnone : held (admission t vars createdAt ++
        [⟨.createSubscription (newRow baseUrl t createdAt), .error f⟩]) = none := rfl
    rw [hnone]
    exact .rowless (by simpa [dueCall, admission, Question.isSubscribe] using hcalls)
  | @stored vars createdAt id told' rest calling =>
    have hheld : held (admission t vars createdAt ++
        ⟨.createSubscription (newRow baseUrl t createdAt), .ok id⟩ :: told') =
        (held told').or (some { newRow baseUrl t createdAt with id }) := by
      simp [held_append, held_admission, storedRow?]
    rw [hheld]
    cases calling with
    | begun =>
      refine .unlinked vars createdAt id (by simp [admission]) (by simp [admission]) ?_
      simpa [dueCall, admission, List.filter_cons, Question.isSubscribe, subscription, newRow]
        using hcalls
    | refused f =>
      refine .unlinked vars createdAt id (by simp [admission]) (by simp [admission]) (.inr ?_)
      simpa [dueCall, admission, List.filter_cons, Question.isSubscribe, subscription, newRow]
        using hcalls
    | @accepted ref told'' rest linking =>
      obtain ⟨hanswers, hquestions, hdue⟩ := linking.silent
      have hcall : asked.filter Question.isSubscribe =
          [subscription t vars { newRow baseUrl t createdAt with id }] := by
        simpa [hquestions, hdue, admission, List.filter_cons, Question.isSubscribe, subscription,
          newRow] using hcalls
      rcases linking.held fun id' y hy => hread _ id id' y (by simp) (by simp [hy]) with
        hsame | hlinked
      · simp only [held_cons, hsame]
        exact .unlinked vars createdAt id (by simp [admission]) (by simp [admission]) (.inr hcall)
      · simp only [held_cons, hlinked]
        refine .linked vars createdAt id ref (by simp [admission]) (by simp [admission]) hcall ?_
        simpa [admission, List.filter_cons, Question.isSubscribe, subscription] using hanswers

/-- A registration that has come to its end holds a row with a reference. -/
theorem Registration.linked (h : Registration baseUrl t told (.done ())) :
    ∃ x ref, held told = some x ∧ x.trackerRef = some ref := by
  cases h with
  | @stored vars createdAt id told' rest calling =>
    cases calling with
    | @accepted ref told'' rest linking =>
      cases linking with
      | linked y =>
        refine ⟨{ y with trackerRef := some ref }, ref, ?_, rfl⟩
        simp [held_append, storedRow?]

end

end TicketSync.Engine
