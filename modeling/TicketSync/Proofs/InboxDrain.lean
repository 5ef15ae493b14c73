import TicketSync.Proofs.LaneLog
import TicketSync.Proofs.ScriptQuestions

/-! # Listening to an inbox

A tracker that listens by default speaks with its surroundings about one delivery after the other:
it takes it, reads it, and if it has read an update has that handled, and only then takes the next
one. Between the turns of the tracker anything may happen; in particular the token may be cancelled.
Nothing but that keeps a delivery from being taken, and the listening ends as cancelled whether the
token or the inbox ended it. -/
namespace TicketSync

namespace Inbox

/-! ### What is said about deliveries -/

/-- What is said about a delivery that the tracker answers in a certain way: an update is handled
for the subscription of the delivery, and nothing else is. -/
def talk (d : Delivery) : Outcome (Option Update) → List (Exchange Inbox)
  | .ok (some u) => [⟨.takesNext, true⟩, ⟨.read d.subscription d.request, .ok (some u)⟩,
      ⟨.handle d.subscription u, ()⟩]
  | a => [⟨.takesNext, true⟩, ⟨.read d.subscription d.request, a⟩]

/-- What is said about deliveries with the answers of the tracker to them. -/
def talks (answers : List (Delivery × Outcome (Option Update))) : List (Exchange Inbox) :=
  answers.flatMap fun x => talk x.1 x.2

/-- What is said at the end, with the deliveries that are left: the next one is not taken. -/
def refusal : List Delivery → List (Exchange Inbox)
  | [] => []
  | _ :: _ => [⟨.takesNext, false⟩]

/-- The delivery that a question gives to the tracker. -/
def Question.delivery? : Question → Option Delivery
  | read x r => some ⟨x, r⟩
  | _ => none

/-- The update that a question has handled, with the subscription that it is handled for. -/
def Question.update? : Question → Option (Subscription × Update)
  | handle x u => some (x, u)
  | _ => none

theorem talk_length (d : Delivery) (a : Outcome (Option Update)) : (talk d a).length ≤ 3 := by
  unfold talk
  split <;> simp

theorem talks_length (answers : List (Delivery × Outcome (Option Update))) :
    (talks answers).length ≤ 3 * answers.length := by
  induction answers with
  | nil => exact Nat.le_refl 0
  | cons x answers ih =>
    have hfirst := talk_length x.1 x.2
    simp only [talks, List.flatMap_cons, List.length_append, List.length_cons] at ih ⊢
    omega

@[simp] theorem talks_cons (x : Delivery × Outcome (Option Update))
    (answers : List (Delivery × Outcome (Option Update))) :
    talks (x :: answers) = talk x.1 x.2 ++ talks answers := rfl

/-- Each delivery that was talked about was given to the tracker, once and in order. -/
theorem delivery?_talks (answers : List (Delivery × Outcome (Option Update))) :
    ((talks answers).map (·.question)).filterMap Question.delivery? = answers.map (·.1) := by
  induction answers with
  | nil => rfl
  | cons x answers ih =>
    have hfirst : ((talk x.1 x.2).map (·.question)).filterMap Question.delivery? = [x.1] := by
      unfold talk
      split <;> rfl
    rw [talks_cons, List.map_append, List.filterMap_append, hfirst, ih]
    rfl

/-- What was read as an update was handled for the subscription of its delivery, in order. -/
theorem update?_talks (answers : List (Delivery × Outcome (Option Update))) :
    ((talks answers).map (·.question)).filterMap Question.update? =
      (Engine.readAs answers).map fun x => (x.1.subscription, x.2) := by
  induction answers with
  | nil => rfl
  | cons x answers ih =>
    have hfirst : ((talk x.1 x.2).map (·.question)).filterMap Question.update? =
        (Engine.readAs [x]).map fun x => (x.1.subscription, x.2) := by
      obtain ⟨d, f | u⟩ := x
      · rfl
      · cases u <;> rfl
    rw [talks_cons, List.map_append, List.filterMap_append, hfirst, ih, ← List.map_append,
      ← Engine.readAs_append]
    rfl

theorem quiet_refusal (left : List Delivery) :
    ((refusal left).map (·.question)).filterMap Question.delivery? = [] ∧
      ((refusal left).map (·.question)).filterMap Question.update? = [] := by
  cases left <;> exact ⟨rfl, rfl⟩

/-! ### What listening comes to -/

/-- What has been said about the first of the deliveries that are left, and what is left to do. -/
inductive Opening : List Delivery → List (Exchange Inbox) → Script Inbox Unit → Prop
  | silent (left : List Delivery) : Opening left [] (drain left)
  | refused (d : Delivery) (left : List Delivery) :
      Opening (d :: left) [⟨.takesNext, false⟩] (.fail .cancelled)
  | taken (d : Delivery) (left : List Delivery) :
      Opening (d :: left) [⟨.takesNext, true⟩] ((deliver d).bind fun _ => drain left)
  | read (d : Delivery) (left : List Delivery) (u : Update) :
      Opening (d :: left) [⟨.takesNext, true⟩, ⟨.read d.subscription d.request, .ok (some u)⟩]
        (.ask (.handle d.subscription u) fun _ => drain left)

/-- Listening goes through talks about deliveries, in order, to a talk that may have begun. -/
theorem opening_of_leads {ds : List Delivery} {told : List (Exchange Inbox)}
    {script : Script Inbox Unit} (h : (drain ds).Leads told script) :
    ∃ answers left said, ds = answers.map (·.1) ++ left ∧ told = talks answers ++ said ∧
      Opening left said script := by
  induction ds generalizing told with
  | nil =>
    obtain ⟨rfl, rfl⟩ := Script.leads_fail_iff.mp h
    exact ⟨[], [], [], rfl, rfl, .silent []⟩
  | cons d ds ih =>
    -- After the talk about the first delivery the others are listened to.
    have hnext : ∀ {a told}, (drain ds).Leads told script → ∃ answers left said,
        d :: ds = answers.map (·.1) ++ left ∧ talk d a ++ told = talks answers ++ said ∧
          Opening left said script := by
      intro a told hrest
      obtain ⟨answers, left, said, rfl, rfl, hopening⟩ := ih hrest
      exact ⟨(d, a) :: answers, left, said, rfl, by simp, hopening⟩
    cases h with
    | refl => exact ⟨[], d :: ds, [], rfl, rfl, .silent (d :: ds)⟩
    | ask takes hrest =>
      cases takes with
      | false =>
        obtain ⟨rfl, rfl⟩ := Script.leads_fail_iff.mp hrest
        exact ⟨[], d :: ds, _, rfl, rfl, .refused d ds⟩
      | true =>
        cases hrest with
        | refl => exact ⟨[], d :: ds, _, rfl, rfl, .taken d ds⟩
        | ask a hrest =>
          obtain f | u? := a
          · exact hnext (a := .error f) hrest
          cases u? with
          | none => exact hnext (a := .ok none) hrest
          | some u =>
            cases hrest with
            | refl => exact ⟨[], d :: ds, _, rfl, rfl, .read d ds u⟩
            | ask _ hrest => exact hnext (a := .ok (some u)) hrest

/-- Where listening has ended, it was cancelled, and no delivery that was left has been taken. -/
theorem Opening.ended {left : List Delivery} {said : List (Exchange Inbox)} {r : Outcome Unit}
    (h : Opening left said (.ofOutcome r)) : r = .error .cancelled ∧ said = refusal left := by
  generalize hscript : (Script.ofOutcome r : Script Inbox Unit) = script at h
  have hnoQuestion : ∀ {q next}, (Script.ofOutcome r : Script Inbox Unit) ≠ .ask q next := by
    intro q next
    cases r <;> nofun
  have hcancelled : (Script.ofOutcome r : Script Inbox Unit) = .fail .cancelled →
      r = .error .cancelled := fun h => Script.ofOutcome_inj.mp h
  cases h with
  | silent =>
    cases left with
    | nil => exact ⟨hcancelled hscript, rfl⟩
    | cons d left => exact absurd hscript hnoQuestion
  | refused d left => exact ⟨hcancelled hscript, rfl⟩
  | taken => exact absurd hscript hnoQuestion
  | read => exact absurd hscript hnoQuestion

/-- Listening asks three questions about a delivery at most. -/
theorem told_length {ds : List Delivery} {told : List (Exchange Inbox)} {script : Script Inbox Unit}
    (h : (drain ds).Leads told script) : told.length ≤ 3 * ds.length := by
  obtain ⟨answers, left, said, rfl, rfl, hopening⟩ := opening_of_leads h
  have hsaid : said.length ≤ 3 * left.length := by
    cases hopening <;> simp <;> omega
  have htalks := talks_length answers
  simp only [List.length_append, List.length_map]
  omega

/-- A question that is open is among them. -/
theorem told_length_of_ask {ds : List Delivery} {told : List (Exchange Inbox)} {q : Question}
    {next : q.Answer → Script Inbox Unit} (h : (drain ds).Leads told (.ask q next)) :
    told.length < 3 * ds.length := by
  have hanswered : ∀ a : q.Answer, told.length + 1 ≤ 3 * ds.length := fun a => by
    simpa using told_length (h.trans (.ask a (.refl (next a))))
  cases q with
  | takesNext => exact hanswered false
  | read x r => exact hanswered (.ok none)
  | handle x u => exact hanswered ()

/-! ### A tracker in its surroundings -/

/-- Surroundings of a listening tracker. A token that is cancelled stays so, and nothing else ends
the wait for a delivery. -/
structure Setting (σ : Type) where
  handler : Handler Inbox σ
  isCancelled : σ → Bool
  takes : ∀ s s', isCancelled s' = false → ((handler .takesNext s).1.finish s').1 = true
  lasting : handler.Respects (fun _ => True) fun s s' => isCancelled s = true → isCancelled s' = true

variable {σ : Type} {E : Setting σ}

namespace Setting

variable {s s' : σ} {q? : Option (Dialogue.Question Inbox)} {x? : Option (Exchange Inbox)}

theorem lasts (E : Setting σ) (h : Task.Turn E.handler s q? x? s') (hs : E.isCancelled s = true) :
    E.isCancelled s' = true := by
  cases h with
  | rest => exact hs
  | prompt q => exact E.lasting.answered q s _ trivial (E.lasting.asked q s trivial hs)
  | asked q => exact E.lasting.asked q s trivial hs
  | answered q s₀ => exact E.lasting.answered q s₀ s trivial hs

/-- A delivery is refused only after a cancellation. -/
theorem cancelled_of_refusal (E : Setting σ)
    (h : Task.Turn E.handler s q? (some ⟨.takesNext, false⟩) s') : E.isCancelled s' = true := by
  have hrefused : ∀ s₀ s₁, ((E.handler .takesNext s₀).1.finish s₁).1 = false →
      E.isCancelled ((E.handler .takesNext s₀).1.finish s₁).2 = true := by
    intro s₀ s₁ hfalse
    refine E.lasting.answered .takesNext s₀ s₁ trivial ?_
    cases hs : E.isCancelled s₁ with
    | true => rfl
    | false => exact absurd ((E.takes s₀ s₁ hs).symm.trans hfalse) (by simp)
  generalize hx : (some ⟨.takesNext, false⟩ : Option (Exchange Inbox)) = x? at h
  cases h with
  | rest => cases hx
  | prompt q now =>
    obtain ⟨rfl, ha⟩ := Exchange.mk.inj (Option.some.inj hx)
    exact hrefused s _ (eq_of_heq ha).symm
  | asked q slow => cases hx
  | answered q s₀ slow =>
    obtain ⟨rfl, ha⟩ := Exchange.mk.inj (Option.some.inj hx)
    exact hrefused s₀ s (eq_of_heq ha).symm

end Setting

/-- Something beside the tracker, such as a cancellation. -/
structure Aside (E : Setting σ) where
  change : σ → σ
  lasting : ∀ s, E.isCancelled s = true → E.isCancelled (change s) = true

/-- What happens next: the tracker has a turn, or something else happens. -/
inductive Turn (E : Setting σ) where
  | own
  | aside (a : Aside E)

/-- Whether the tracker has the turn. -/
def Turn.isOwn : Turn E → Bool
  | own => true
  | aside _ => false

/-- A listening tracker on its way, with the questions that it asked and the exchanges that it
had. -/
structure Course (σ : Type) where
  task : Task Inbox σ Unit
  state : σ
  asked : List (Dialogue.Question Inbox) := []
  told : List (Exchange Inbox) := []

namespace Course

/-- A tracker that has not begun to listen to deliveries. -/
def start (ds : List Delivery) (s : σ) : Course σ := { task := .ready (drain ds), state := s }

/-- The course after one more turn. -/
def turn (c : Course σ) : Turn E → Course σ
  | .own =>
    ⟨(c.task.step E.handler c.state).1, (c.task.step E.handler c.state).2,
      c.asked ++ c.task.question?.toList, c.told ++ (c.task.exchange? E.handler c.state).toList⟩
  | .aside a => { c with state := a.change c.state }

/-- The course after turns. -/
def after (c : Course σ) (turns : List (Turn E)) : Course σ := turns.foldl turn c

end Course

/-- A tracker that has not ended has a question left to ask, or to be told the answer to. -/
theorem short_of_cameFrom {h : Handler Inbox σ} {ds : List Delivery}
    {asked : List (Dialogue.Question Inbox)} {told : List (Exchange Inbox)} {t : Task Inbox σ Unit}
    (hcame : Task.CameFrom h (drain ds) asked told t) (hgoes : t.outcome? = none) :
    asked.length + told.length < 6 * ds.length := by
  cases hcame with
  | @ready _ script leads =>
    cases script with
    | done x => cases hgoes
    | fail f => cases hgoes
    | ask q next =>
      have htold := told_length_of_ask leads
      rw [List.length_map]
      omega
  | waiting s leads =>
    have htold := told_length_of_ask leads
    rw [List.length_append, List.length_map, List.length_singleton]
    omega

/-- A course that began with deliveries and has had a number of own turns. It has gone on in each of
them until its end, and a delivery was refused only when the token is cancelled. -/
structure Course.From (E : Setting σ) (ds : List Delivery) (own : Nat) (c : Course σ) : Prop where
  came : Task.CameFrom E.handler (drain ds) c.asked c.told c.task
  goesOn : c.task.outcome? = none → own ≤ c.asked.length + c.told.length
  refused : ⟨.takesNext, false⟩ ∈ c.told → E.isCancelled c.state = true

namespace Course.From

variable {ds : List Delivery} {own : Nat} {c : Course σ}

theorem start (E : Setting σ) (ds : List Delivery) (s : σ) : From E ds 0 (start ds s) where
  came := .start E.handler (drain ds)
  goesOn _ := Nat.zero_le _
  refused := by simp [Course.start]

theorem own_turn (h : From E ds own c) : From E ds (own + 1) (c.turn (.own : Turn E)) where
  came := h.came.step c.state
  goesOn hgoes := by
    have hopen : c.task.outcome? = none := by
      cases hr : c.task.outcome? with
      | none => rfl
      | some r =>
        have hstays : (c.task.step E.handler c.state).1.outcome? = some r := by
          rw [Task.step_of_ended hr, hr]
        exact absurd (hstays.symm.trans hgoes) (by simp)
    have hcount := h.goesOn hopen
    have hspoke := Task.asks_or_tells hopen E.handler c.state
    simp only [Course.turn, List.length_append]
    omega
  refused hmem := by
    have hturn := h.came.turn c.state
    rcases List.mem_append.mp hmem with hmem | hmem
    · exact E.lasts hturn (h.refused hmem)
    · rw [Option.mem_toList] at hmem
      rw [Option.mem_def.mp hmem] at hturn
      exact E.cancelled_of_refusal hturn

theorem aside (h : From E ds own c) (a : Aside E) : From E ds own (c.turn (.aside a)) where
  came := h.came
  goesOn := h.goesOn
  refused hmem := a.lasting c.state (h.refused hmem)

theorem run (h : From E ds own c) (turns : List (Turn E)) :
    From E ds (own + turns.countP Turn.isOwn) (c.after turns) := by
  induction turns generalizing own c with
  | nil => exact h
  | cons t turns ih =>
    cases t with
    | own =>
      have hcount : (Turn.own :: turns).countP Turn.isOwn = 1 + turns.countP Turn.isOwn := by
        rw [List.countP_cons_of_pos rfl, Nat.add_comm]
      rw [hcount, ← Nat.add_assoc]
      exact ih h.own_turn
    | aside a => exact ih (h.aside a)

theorem short (h : From E ds own c) (hgoes : c.task.outcome? = none) : own < 6 * ds.length :=
  Nat.lt_of_le_of_lt (h.goesOn hgoes) (short_of_cameFrom h.came hgoes)

end Course.From

/-! ### Listening to the end -/

/-- A tracker has listened to the first of some deliveries, to which it gave certain answers, and to
no others: it was given each once and in order, each update that it answered with was handled for
the subscription of its delivery, and each talk was over before the next one began. -/
structure Course.Listened (ds : List Delivery) (answers : List (Delivery × Outcome (Option Update)))
    (c : Course σ) : Prop where
  first : answers.map (·.1) <+: ds
  told : c.told = talks answers ++ refusal (ds.drop answers.length)
  asked : c.asked = c.told.map (·.question)
  given : c.asked.filterMap Question.delivery? = answers.map (·.1)
  handled : c.asked.filterMap Question.update? =
    (Engine.readAs answers).map fun x => (x.1.subscription, x.2)

theorem listened_of_end {ds left : List Delivery}
    {answers : List (Delivery × Outcome (Option Update))} {c : Course σ}
    (hds : ds = answers.map (·.1) ++ left) (htold : c.told = talks answers ++ refusal left)
    (hasked : c.asked = c.told.map (·.question)) : c.Listened ds answers where
  first := ⟨left, hds.symm⟩
  told := by
    rw [htold, hds, List.drop_left' (List.length_map _)]
  asked := hasked
  given := by
    rw [hasked, htold, List.map_append, List.filterMap_append, delivery?_talks,
      (quiet_refusal left).1, List.append_nil]
  handled := by
    rw [hasked, htold, List.map_append, List.filterMap_append, update?_talks,
      (quiet_refusal left).2, List.append_nil]

/-- What has been said at any moment is the beginning of talks about the first deliveries. -/
theorem Opening.begins {answers : List (Delivery × Outcome (Option Update))} {left : List Delivery}
    {said : List (Exchange Inbox)} {script : Script Inbox Unit} (h : Opening left said script) :
    ∃ answers', answers'.map (·.1) <+: answers.map (·.1) ++ left ∧
      talks answers ++ said <+: talks answers' ++ [⟨.takesNext, false⟩] := by
  have hone : ∀ d left' a, left = d :: left' → said <+: talk d a →
      ∃ answers', answers'.map (·.1) <+: answers.map (·.1) ++ left ∧
        talks answers ++ said <+: talks answers' ++ [⟨.takesNext, false⟩] := by
    intro d left' a hleft hsaid
    refine ⟨answers ++ [(d, a)], ?_, ?_⟩
    · simp [hleft]
    · have htalks : talks (answers ++ [(d, a)]) = talks answers ++ talk d a := by simp [talks]
      rw [htalks, List.append_assoc]
      exact (List.prefix_append_right_inj _).mpr (hsaid.trans (List.prefix_append _ _))
  cases h with
  | silent => exact ⟨answers, List.prefix_append _ _, by simp⟩
  | refused => exact ⟨answers, List.prefix_append _ _, List.prefix_rfl⟩
  | taken d left' => exact hone d left' (.ok none) rfl (by simp [talk])
  | read d left' u => exact hone d left' (.ok (some u)) rfl (by simp [talk])

/-- A tracker that listens to deliveries talks about one after the other, whatever it answers, and
asks no question before it has been told the answer to the one before. It ends within so many turns,
and then as cancelled. It has listened to all deliveries by then unless the token is cancelled, and
else to the first of them. -/
theorem listens_in_order (E : Setting σ) (ds : List Delivery) (s : σ) (turns : List (Turn E)) :
    let c := (Course.start ds s).after turns
    (∃ answers : List (Delivery × Outcome (Option Update)), answers.map (·.1) <+: ds ∧
      c.told <+: talks answers ++ [⟨.takesNext, false⟩]) ∧
    (c.asked = c.told.map (·.question) ∨ ∃ q, c.asked = c.told.map (·.question) ++ [q]) ∧
    (∀ r, c.task.outcome? = some r → r = .error .cancelled ∧
      ∃ answers, c.Listened ds answers ∧
        (E.isCancelled c.state = false → answers.map (·.1) = ds)) ∧
    (6 * ds.length ≤ turns.countP Turn.isOwn → c.task.outcome?.isSome) := by
  intro c
  have hcourse : Course.From E ds (0 + turns.countP Turn.isOwn) c :=
    (Course.From.start E ds s).run turns
  refine ⟨?_, ?_, ?_, ?_⟩
  · obtain ⟨script, hleads, -⟩ := hcourse.came.came
    obtain ⟨answers, left, said, hds, htold, hopening⟩ := opening_of_leads hleads
    rw [hds, htold]
    exact hopening.begins
  · obtain ⟨script, -, hasked | ⟨q, next, -, hasked⟩⟩ := hcourse.came.came
    · exact .inl hasked
    · exact .inr ⟨q, hasked⟩
  · intro r hr
    obtain ⟨hleads, hasked⟩ := hcourse.came.leads_of_outcome hr
    obtain ⟨answers, left, said, hds, htold, hopening⟩ := opening_of_leads hleads
    obtain ⟨hcancelled, rfl⟩ := hopening.ended
    refine ⟨hcancelled, answers, listened_of_end hds htold hasked, fun hcalm => ?_⟩
    cases left with
    | nil => rw [hds, List.append_nil]
    | cons d left => cases hcalm.symm.trans (hcourse.refused (by simp [htold, refusal]))
  · intro hturns
    rw [Option.isSome_iff_ne_none]
    intro hgoes
    have hshort := hcourse.short hgoes
    omega

/-- A tracker that answers at once, in surroundings with nothing but its token. -/
def Setting.prompt (reads : Subscription → WebhookRequest → Outcome (Option Update)) :
    Setting Bool where
  handler
    | .takesNext, s => ({ finish := fun s => (!s, s) }, s)
    | .read x r, s => (.now (reads x r), s)
    | .handle .., s => (.now (), s)
  isCancelled s := s
  takes _ _ hs := by simp [hs]
  lasting :=
    { refl := fun _ hs => hs
      trans := fun h h' hs => h' (h hs)
      asked := fun q _ _ hs => by cases q <;> exact hs
      answered := fun q _ _ _ hs => by cases q <;> exact hs }

/-- Reads a text as the title of an update, ignores an empty one, and rejects all but posts. -/
def readTitle (_ : Subscription) (r : WebhookRequest) : Outcome (Option Update) :=
  if r.method ≠ "POST" then .error .cancelled
  else .ok (if r.body = "" then none else some { content := { title := r.body } })

/-- Deliveries of which one is ignored and one rejected. -/
def mixedDeliveries : List Delivery :=
  [⟨default, { method := "POST", body := "1" }⟩, ⟨default, { method := "POST" }⟩,
    ⟨default, { method := "GET" }⟩, ⟨default, { method := "POST", body := "2" }⟩]

/-- The tracker is given all of them before it ends, and the two updates are handled. -/
theorem given_past_ignored_and_rejected :
    let turns : List (Turn (Setting.prompt readTitle)) := List.replicate 24 .own
    let c := (Course.start mixedDeliveries false).after turns
    c.task.outcome? = some (.error .cancelled) ∧
      c.asked.filterMap Question.delivery? = mixedDeliveries ∧
      c.asked.filterMap Question.update? =
        [(default, { content := { title := "1" } }), (default, { content := { title := "2" } })] := by
  intro turns c
  obtain ⟨-, -, hend, hends⟩ :=
    listens_in_order (Setting.prompt readTitle) mixedDeliveries false turns
  obtain ⟨r, hr⟩ := Option.isSome_iff_exists.mp (hends (by decide))
  obtain ⟨rfl, answers, hlistened, hall⟩ := hend r hr
  exact ⟨hr, hlistened.given.trans (hall (by decide)), by decide +kernel⟩

end Inbox
end TicketSync
