import TicketSync.Proofs.CourseLookup

/-! # The ticket of one source task

Trackers that know a task by the id that they are given never give it another one. So through all
deeds of a run the tracker that the update came from has the id of the update, the ticket that the
run stores lists the locator of the update, and the next run finds it there. Once each tracker that
a run calls has an id, running again changes none of them. -/
namespace TicketSync

/-- Trackers that answer a call for a task with the id that they were given, if they were given
one. -/
def Trackers.KeepTaskIds {τ : Type} (x : Trackers τ) : Prop :=
  ∀ tracker r s s' id, r.taskId ≠ "" → ((x.call tracker r s).1.settle s').1 = .ok id → id = r.taskId

/-! ### Task ids that stay -/

/-- A call that returned the task id that it was given, if it was given one. -/
def Deed.KeepsId : Deed → Prop
  | called _ _ _ task returned => task ≠ "" → returned = task
  | decided .. => True

theorem Deed.called_of_link? {d : Deed} {tracker id : String} (h : d.link? tracker = some id) :
    ∃ a t vars task, d = .called a t vars task id ∧ a.detached = false ∧ a.name.tracker = tracker ∧
      id ≠ "" := by
  cases d with
  | decided condition t holds => cases h
  | called a t vars task returned =>
    simp only [link?] at h
    split at h
    · next hlinks =>
      obtain rfl := Option.some.inj h
      exact ⟨a, t, vars, task, rfl, hlinks⟩
    · cases h

theorem Deed.link_of_latestLink {deeds : List Deed} {tracker id : String}
    (h : latestLink deeds tracker = some id) : ∃ d ∈ deeds, d.link? tracker = some id := by
  obtain ⟨d, hd, hlink⟩ := List.exists_of_findSome?_eq_some h
  exact ⟨d, List.mem_reverse.mp hd, hlink⟩

theorem Deed.latestLink_of_link {deeds : List Deed} {d : Deed} {tracker id : String}
    (hd : d ∈ deeds) (hlink : d.link? tracker = some id) : ∃ id', latestLink deeds tracker = some id' := by
  cases h : latestLink deeds tracker with
  | some id' => exact ⟨id', rfl⟩
  | none =>
    have hnone := List.findSome?_eq_none_iff.mp h d (List.mem_reverse.mpr hd)
    cases hnone.symm.trans hlink

theorem knownTaskId_concat (found : Ticket) (u : Update) (before : List Deed) (d : Deed)
    (tracker : String) : knownTaskId found u (before ++ [d]) tracker =
      (d.link? tracker).getD (knownTaskId found u before tracker) := by
  simp only [knownTaskId, Deed.latestLink_concat]
  cases d.link? tracker <;> rfl

/-- A tracker that has an id for a ticket keeps it through all deeds. -/
theorem knownTaskId_kept {fs : Template.Functions} {found : Ticket} {u : Update}
    {tracker id : String} (hid : id ≠ "") {before deeds : List Deed} (hstart : knownTaskId found u before tracker = id)
    (hfollow : ∀ first d later, deeds = first ++ d :: later →
      d.Follows fs found u (before ++ first))
    (hkeep : ∀ d ∈ deeds, d.KeepsId) : knownTaskId found u (before ++ deeds) tracker = id := by
  induction deeds generalizing before with
  | nil => simpa using hstart
  | cons d deeds ih =>
    have hnext : knownTaskId found u (before ++ [d]) tracker = id := by
      rw [knownTaskId_concat]
      cases hlink : d.link? tracker with
      | none => exact hstart
      | some returned =>
        obtain ⟨a, t, vars, task, rfl, hattached, htracker, -⟩ := Deed.called_of_link? hlink
        have hfollows : Deed.Follows fs found u before (.called a t vars task returned) := by
          simpa using hfollow [] _ deeds rfl
        obtain ⟨-, -, -, htask⟩ := hfollows
        simp only [hattached, Bool.false_eq_true, if_false, htracker, hstart] at htask
        have hreturned := hkeep _ List.mem_cons_self (htask ▸ hid)
        rw [Option.getD_some, hreturned, htask]
    have hrest := ih hnext (fun first d' later hsplit => ?_)
      fun d' hd' => hkeep d' (List.mem_cons_of_mem _ hd')
    · simpa using hrest
    · have hfollows := hfollow (d :: first) d' later (by rw [hsplit, List.cons_append])
      simpa using hfollows

/-! ### Tickets of runs -/

theorem Ticket.ext_of_told {t t' : Ticket} (hid : t.id = t'.id)
    (hparticipants : ∀ tracker,
      t.variations.contains tracker = true ↔ t'.variations.contains tracker = true)
    (htaskId : ∀ tracker, t.taskId tracker = t'.taskId tracker)
    (hcontent : ∀ tracker, (t.variation tracker).content = (t'.variation tracker).content) :
    t = t' := by
  have hvariations : t.variations = t'.variations := by
    refine Dict.ext_get? fun tracker => ?_
    have htask := htaskId tracker
    have hsays := hcontent tracker
    have hboth := hparticipants tracker
    simp only [taskId, variation, Dict.contains] at htask hsays hboth
    cases h : t.variations.get? tracker with
    | none =>
      cases h' : t'.variations.get? tracker with
      | none => rfl
      | some v' => simp [h, h'] at hboth
    | some v =>
      cases h' : t'.variations.get? tracker with
      | none => simp [h, h'] at hboth
      | some v' =>
        simp only [h, h', Option.getD_some] at htask hsays
        obtain ⟨id, content⟩ := v
        obtain ⟨id', content'⟩ := v'
        cases htask
        cases hsays
        rfl
  obtain ⟨id, variations⟩ := t
  obtain ⟨id', variations'⟩ := t'
  cases hid
  cases hvariations
  rfl

theorem Locator.id_ne_empty {l : Locator} (hl : l.isEmpty = false) : l.id ≠ "" := by
  intro hempty
  have hblank : Text.isAllBlank "" = true := rfl
  simp [isEmpty, hempty, hblank] at hl

/-- A ticket lists a locator under which a tracker knows it. -/
theorem Ticket.mem_locators {t : Ticket} {l : Locator}
    (hknown : t.variations.contains l.tracker = true) (hid : t.taskId l.tracker = l.id)
    (hl : l.isEmpty = false) : l ∈ t.locators := by
  obtain ⟨v, hv⟩ := Option.isSome_iff_exists.mp hknown
  have hvid : v.id = l.id := by
    rw [← hid, taskId, variation, hv, Option.getD_some]
  refine List.mem_filter.mpr ⟨List.mem_map.mpr ⟨(l.tracker, v), ?_, ?_⟩, by simpa using hl⟩
  · exact (Dict.mem_entries_iff _ _ _).mpr hv
  · rw [hvid]

namespace Engine

variable {fs : Template.Functions} {j : Job} {u : Update} {xs : List (Exchange Engine)} {t : Ticket}
  {looked : Outcome Ticket} {found : Ticket} {deeds : List Deed} {saved : Exchange Engine}

/-- An exchange in which a tracker returned the task id that it was given, if it was given one. -/
def KeepsId : Exchange Engine → Prop
  | ⟨.call _ r, .ok id⟩ => r.taskId ≠ "" → id = r.taskId
  | _ => True

theorem World.keepsId_of_gives {τ : Type} {e : Surroundings τ} (hkeep : e.trackers.KeepTaskIds)
    {x : Exchange Engine} (hx : (World.handler e).Gives x) : KeepsId x := by
  obtain ⟨q, a⟩ := x
  obtain ⟨w, w', ha⟩ := hx
  cases q with
  | call tracker r =>
    cases a with
    | ok id => exact fun htask => hkeep _ _ _ _ _ htask ha.symm
    | error f => trivial
  | _ => trivial

namespace Threads

/-- What is known of the ticket that a run has stored: it is the one that was found after the deeds
of the run, under the id that it is stored under. -/
theorem after (h : Threads fs j u xs t looked found deeds saved) :
    t.After { found with id := t.id } u deeds := by
  cases h.saves with
  | updated known after => exact ⟨rfl, after.participants, after.taskId, after.content⟩
  | created new after => exact ⟨rfl, after.participants, after.taskId, after.content⟩

theorem call_mem (h : Threads fs j u xs t looked found deeds saved) {a : Action} {before : Ticket}
    {vars : Vars} {task returned : String} (hd : .called a before vars task returned ∈ deeds) :
    ⟨.call a.name.tracker ⟨a.name.method, vars, task⟩, .ok returned⟩ ∈ xs := by
  rw [h.exchanges]
  refine List.mem_append_left _ (List.mem_cons_of_mem _ (List.mem_flatMap.mpr ⟨_, hd, ?_⟩))
  simp [Deed.exchanges]

theorem keepsId (h : Threads fs j u xs t looked found deeds saved) (hx : ∀ x ∈ xs, KeepsId x) :
    ∀ d ∈ deeds, d.KeepsId := by
  intro d hd
  cases d with
  | called a before vars task returned => exact hx _ (h.call_mem hd)
  | decided condition before holds => trivial

/-- A tracker that has an id for the ticket at the beginning keeps it. -/
theorem taskId_kept (h : Threads fs j u xs t looked found deeds saved) (hx : ∀ x ∈ xs, KeepsId x)
    {tracker id : String} (hid : id ≠ "") (hstart : knownTaskId found u [] tracker = id) :
    t.taskId tracker = id := by
  have hkept := knownTaskId_kept hid hstart
    (fun first d later hsplit => h.follows first d later hsplit) (h.keepsId hx)
  rw [h.after.taskId]
  exact hkept

/-- The tracker that the update came from knows the ticket by the id of the update. -/
theorem taskId_source (h : Threads fs j u xs t looked found deeds saved) (hx : ∀ x ∈ xs, KeepsId x)
    (hsource : u.receivedFrom.id ≠ "") :
    t.taskId u.receivedFrom.tracker = u.receivedFrom.id :=
  h.taskId_kept hx hsource (by simp [knownTaskId, Deed.latestLink])

/-- The ticket of a run lists the locator that the update came from. -/
theorem source_mem (h : Threads fs j u xs t looked found deeds saved) (hx : ∀ x ∈ xs, KeepsId x)
    (hsource : u.receivedFrom.isEmpty = false) : u.receivedFrom ∈ t.locators := by
  exact Ticket.mem_locators ((h.after.participants _).mpr (.inl rfl))
    (h.taskId_source hx (Locator.id_ne_empty hsource)) hsource

/-- A ticket that was found with an id is updated under it. -/
theorem updates (h : Threads fs j u xs t looked found deeds saved) (hknown : found.id ≠ "") :
    t.id = found.id ∧ saved = ⟨.updateTicket t, .ok ()⟩ := by
  cases h.saves with
  | updated known after => exact ⟨after.id, rfl⟩
  | created new after => exact absurd new hknown

/-- A ticket is created under the id that it is stored under when none was found. -/
theorem creates (h : Threads fs j u xs t looked found deeds saved) (hnew : found.id = "") :
    ∃ new, saved = ⟨.createTicket new, .ok t.id⟩ := by
  cases h.saves with
  | updated known after => exact absurd hnew known
  | created new after => exact ⟨_, rfl⟩

end Threads

end Engine

/-! ### Running again -/

/-- A job without conditions. -/
def Job.IfFree (j : Job) : Prop := ∀ s ∈ j.steps, ∃ a, s = .action a

namespace Engine

theorem called_iff {steps : List Step} {deeds : List Deed} (h : Step.AllDo steps deeds)
    (hplain : ∀ s ∈ steps, ∃ a, s = .action a) (a : Action) :
    .action a ∈ steps ↔ ∃ t vars task returned, .called a t vars task returned ∈ deeds := by
  induction steps generalizing deeds with
  | nil =>
    obtain rfl : deeds = [] := h
    simp
  | cons s steps ih =>
    obtain ⟨first, later, rfl, hfirst, hlater⟩ := h
    obtain ⟨b, rfl⟩ := hplain s List.mem_cons_self
    obtain ⟨t, vars, task, returned, rfl⟩ := hfirst
    have hrest := ih hlater fun s' hs' => hplain s' (List.mem_cons_of_mem _ hs')
    simp only [List.mem_cons, Step.action.injEq, hrest, List.singleton_append, Deed.called.injEq]
    constructor
    · rintro (rfl | ⟨t', vars', task', returned', hmem⟩)
      · exact ⟨t, vars, task, returned, .inl ⟨rfl, rfl, rfl, rfl, rfl⟩⟩
      · exact ⟨t', vars', task', returned', .inr hmem⟩
    · rintro ⟨t', vars', task', returned', ⟨rfl, -⟩ | hmem⟩
      · exact .inl rfl
      · exact .inr ⟨t', vars', task', returned', hmem⟩

variable {fs : Template.Functions} {j : Job} {u : Update} {xs ys : List (Exchange Engine)}
  {t t' : Ticket} {looked looked' : Outcome Ticket} {found : Ticket} {deeds deeds' : List Deed}
  {saved saved' : Exchange Engine}

/-- A tracker that is linked when a job without conditions runs again has an id already. -/
theorem Threads.linked_before (h : Threads fs j u xs t looked found deeds saved)
    (h' : Threads fs j u ys t' looked' t deeds' saved') (hplain : j.IfFree)
    (hnamed : ∀ tracker r id, ⟨.call tracker r, .ok id⟩ ∈ xs → id ≠ "") {tracker id : String}
    (hlink : Deed.latestLink deeds' tracker = some id) :
    t.taskId tracker ≠ "" ∧ t.variations.contains tracker = true := by
  obtain ⟨d, hd, hdlink⟩ := Deed.link_of_latestLink hlink
  obtain ⟨a, before, vars, task, rfl, hattached, htracker, -⟩ := Deed.called_of_link? hdlink
  have hstep : Step.action a ∈ j.steps :=
    (called_iff h'.steps hplain a).mpr ⟨before, vars, task, id, hd⟩
  obtain ⟨before', vars', task', returned, hcalled⟩ := (called_iff h.steps hplain a).mp hstep
  have hreturned := hnamed _ _ _ (h.call_mem hcalled)
  have hlinked : Deed.link? tracker (.called a before' vars' task' returned) = some returned := by
    simp [Deed.link?, hattached, htracker, hreturned]
  obtain ⟨id', hlatest⟩ := Deed.latestLink_of_link hcalled hlinked
  obtain ⟨d', -, hlink'⟩ := Deed.link_of_latestLink hlatest
  obtain ⟨-, -, -, -, -, -, -, hid'⟩ := Deed.called_of_link? hlink'
  constructor
  · rw [h.after.taskId, knownTaskId, hlatest]
    exact hid'
  · rw [h.after.participants, hlatest]
    simp

/-- A job without conditions that runs again for the same update, on the ticket that it has left,
leaves the same ticket, when every call returned an id the first time. -/
theorem Threads.eq_of_rerun (h : Threads fs j u xs t looked found deeds saved)
    (h' : Threads fs j u ys t' looked' t deeds' saved') (hx : ∀ x ∈ xs, KeepsId x)
    (hy : ∀ y ∈ ys, KeepsId y) (hplain : j.IfFree) (hid : t.id ≠ "")
    (hsource : u.receivedFrom.id ≠ "")
    (hnamed : ∀ tracker r id, ⟨.call tracker r, .ok id⟩ ∈ xs → id ≠ "") : t' = t := by
  refine Ticket.ext_of_told (h'.updates hid).1 (fun tracker => ?_) (fun tracker => ?_)
    fun tracker => ?_
  · rw [h'.after.participants]
    constructor
    · rintro (rfl | hknown | hlink)
      · exact (h.after.participants _).mpr (.inl rfl)
      · exact hknown
      · obtain ⟨id, hlink⟩ := Option.isSome_iff_exists.mp hlink
        exact (h.linked_before h' hplain hnamed hlink).2
    · exact fun hknown => .inr (.inl hknown)
  · by_cases hfrom : tracker = u.receivedFrom.tracker
    · rw [hfrom, h.taskId_source hx hsource, h'.taskId_source hy hsource]
    · have hstart : knownTaskId t u [] tracker = t.taskId tracker := by
        simp [knownTaskId, Deed.latestLink, hfrom]
      by_cases hempty : t.taskId tracker = ""
      · cases hlink : Deed.latestLink deeds' tracker with
        | some id => exact absurd hempty (h.linked_before h' hplain hnamed hlink).1
        | none =>
          rw [h'.after.taskId, knownTaskId, hlink]
          simp only [if_neg hfrom]
          rfl
      · exact h'.taskId_kept hy hempty hstart
  · rw [h'.after.content]
    split
    · next hfrom => rw [h.after.content, if_pos hfrom]
    · rfl

end Engine
end TicketSync
