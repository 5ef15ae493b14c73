import TicketSync.Proofs.SourceTicket

/-! # One ticket for the updates of one task

Updates of one task are worked off one after the other, by runs that may end with a ticket, fail or
be given up. Until the first one ends with a ticket the store does not know the task. From then on
the task leads to the one ticket that was created, and each run finds it and writes it back. -/
namespace TicketSync.Engine

variable {τ : Type}

/-- A run to be made, of a job for an update, and the turns that it gets. -/
structure Errand (τ : Type) where
  job : Job
  update : Update
  turns : List (Turn τ)

namespace Course

/-- The ticket that a run has ended with. -/
def ticket? (c : Course τ) : Option Ticket :=
  match c.task.outcome? with
  | some (.ok t) => some t
  | _ => none

/-- The ids that a run got for new tickets. -/
def created (c : Course τ) : List String := c.exchanges.filterMap created?

/-- Runs one after the other, each in the world that the one before has left, and the world after
them. -/
def oneByOne (e : Surroundings τ) (w : World τ) : List (Errand τ) → List (Course τ) × World τ
  | [] => ([], w)
  | r :: rest =>
    let c := (start r.job r.update w).after e r.turns
    let (courses, w) := oneByOne e c.world rest
    (c :: courses, w)

/-- A run that writes no ticket but the one with an id, which it updates if it ends with a
ticket. -/
structure Rewrites (id : String) (c : Course τ) : Prop where
  writes : ∀ x ∈ c.exchanges, x.question.isWrite = true →
    ∃ t, x.question = .updateTicket t ∧ t.id = id
  ends : ∀ t, c.ticket? = some t → t.id = id ∧ ⟨.updateTicket t, .ok ()⟩ ∈ c.exchanges

/-- What runs for the updates of one task have done, and the world that they have left. -/
structure OneTicket (l : Locator) (courses : List (Course τ)) (w : World τ) : Prop where
  created : (courses.flatMap created).length ≤ 1
  rewrites : ∀ before c after t, courses = before ++ c :: after → c.ticket? = some t →
    ∀ c' ∈ after, Rewrites t.id c'
  found : w.store.getTicket (.locator l) =
    orFail (ticketNotFound l.display) (courses.filterMap ticket?).getLast?

/-! ### One run -/

variable {e : Surroundings τ} {j : Job} {u : Update} {w : World τ} {c : Course τ} {t : Ticket}

theorem outcome?_of_ticket? (h : c.ticket? = some t) : c.task.outcome? = some (.ok t) := by
  unfold ticket? at h
  split at h
  · next t' ht' => rw [ht', Option.some.inj h]
  · cases h

theorem created?_of_failure {x : Exchange Engine} {f : Failure} (h : failure? x = some f) :
    created? x = none := by
  obtain ⟨q, a⟩ := x
  cases q with
  | createTicket t =>
    cases a with
    | ok id => cases h
    | error f => rfl
  | _ => rfl

theorem created?_of_reads {x : Exchange Engine} (h : x.question.isWrite = false) :
    created? x = none :=
  created?_of_stored? (stored?_of_reads h)

theorem filterMap_created?_quiet {xs : List (Exchange Engine)} (h : ∀ x ∈ xs, Quiet x) :
    xs.filterMap created? = [] :=
  List.filterMap_eq_nil_iff.mpr fun x hx => created?_of_reads (h x hx).2

/-- A run that has not ended with a ticket has left the store alone and created nothing. -/
theorem Atomic.of_no_ticket (h : Atomic w c) (hnone : c.ticket? = none) :
    c.world.store = w.store ∧ c.created = [] := by
  cases hend : c.task.outcome? with
  | none =>
    obtain ⟨hsame, hall⟩ := h.under_way hend
    exact ⟨hsame, filterMap_created?_quiet hall⟩
  | some r =>
    cases r with
    | ok t => simp [ticket?, hend] at hnone
    | error f =>
      obtain ⟨hsame, before, x, hexchanges, hx, hbefore⟩ := h.failed f hend
      refine ⟨hsame, ?_⟩
      rw [created, hexchanges, List.filterMap_append, filterMap_created?_quiet hbefore]
      simp [created?_of_failure hx]

/-- A run that has ended with a ticket has created no other one. -/
theorem Atomic.created_of_ticket (h : Atomic w c) (ht : c.ticket? = some t) :
    t.id ≠ "" ∧ (c.created = [] ∨ c.created = [t.id]) := by
  obtain ⟨hid, -, before, x, hexchanges, hx, hbefore⟩ := h.stored t (outcome?_of_ticket? ht)
  refine ⟨hid, ?_⟩
  rw [created, hexchanges, List.filterMap_append, filterMap_created?_quiet hbefore]
  rcases hx with rfl | ⟨new, -, rfl, -⟩
  · exact .inl rfl
  · exact .inr rfl

namespace Told

theorem evaluates (h : Told e j u w c) : ∀ x ∈ c.exchanges, Evaluates e.functions x :=
  fun x hx => (World.handler_evaluates e).of_gives (h.given x hx)

theorem keepsId (h : Told e j u w c) (hkeep : e.trackers.KeepTaskIds) :
    ∀ x ∈ c.exchanges, KeepsId x :=
  fun x hx => World.keepsId_of_gives hkeep (h.given x hx)

theorem leads_ticket (h : Told e j u w c) (ht : c.ticket? = some t) :
    (runJob j u).Leads c.exchanges (.done t) := by
  obtain ⟨asked, hcame⟩ := h.came
  exact (hcame.leads_of_outcome (outcome?_of_ticket? ht)).1

/-- The ticket that a run has ended with is known under its locators. -/
theorem leadsTo (h : Told e j u w c) (ht : c.ticket? = some t) : c.world.store.LeadsTo t := by
  obtain ⟨x, hx, hstored⟩ := stored_of_leads (h.leads_ticket ht)
  exact h.leads x hx t hstored

/-- The ticket that a run has ended with, told by its deeds, where the look-up was answered by the
store that it began with. -/
theorem threads (h : Told e j u w c) (ht : c.ticket? = some t) :
    ∃ looked found deeds saved, Threads e.functions j u c.exchanges t looked found deeds saved ∧
      saved ∈ c.exchanges ∧
      (w.store.getTicket (.locator u.receivedFrom) = .ok found ∨ found = {} ∧
        ∃ f, w.store.getTicket (.locator u.receivedFrom) = .error f) := by
  obtain ⟨looked, found, deeds, saved, hthreads⟩ := threads_of_leads (h.leads_ticket ht) h.evaluates
  have hsaved : saved ∈ c.exchanges := by
    rw [hthreads.exchanges]
    simp
  have hlooked : ⟨.findTicket (.locator u.receivedFrom), looked⟩ ∈ c.exchanges := by
    rw [hthreads.exchanges]
    simp
  refine ⟨looked, found, deeds, saved, hthreads, hsaved, ?_⟩
  rcases h.read _ hlooked with hread | hfault
  · rw [← hread]
    rcases hthreads.lookup with hfound | ⟨hnew, f, hf, -⟩
    · exact .inl hfound
    · exact .inr ⟨hnew, f, hf⟩
  · rcases hthreads.lookup with hfound | ⟨-, f, hf, hnone⟩
    · cases hfound.symm.trans hfault
    · cases hf.symm.trans hfault
      cases hnone

/-- A run that began with a store that knows the task of its update writes no other ticket. -/
theorem rewrites (h : Told e j u w c) {t₀ : Ticket} (hid : t₀.id ≠ "")
    (hknown : w.store.getTicket (.locator u.receivedFrom) = .ok t₀) : Rewrites t₀.id c where
  writes x hx hwrite := by
    obtain ⟨asked, hcame⟩ := h.came
    obtain ⟨rest, hleads, -⟩ := hcame.came
    obtain ⟨before, after, htold, hdecides⟩ := decides_of_write hleads h.evaluates hx hwrite
    have hlooked : ∀ looked, ⟨.findTicket (.locator u.receivedFrom), looked⟩ ∈ before →
        looked = .ok t₀ ∨ looked = .error (World.fault .getTicket) := by
      intro looked hmem
      have hread := h.read _ (htold ▸ List.mem_append_left _ hmem)
      rwa [← hknown]
    obtain ⟨q, a⟩ := x
    cases hdecides with
    | @update new found more lookup named same =>
      rcases hlooked _ (lookup ▸ List.mem_cons_self) with hfound | hfault
      · cases hfound
        exact ⟨new, rfl, same⟩
      · cases hfault
    | @create new looked more lookup unknown =>
      rcases hlooked _ (lookup ▸ List.mem_cons_self) with rfl | rfl
      · rcases unknown with ⟨found, hfound, hempty⟩ | ⟨f, hf, -⟩
        · cases hfound
          exact absurd hempty hid
        · cases hf
      · rcases unknown with ⟨found, hfound, -⟩ | ⟨f, hf, hnone⟩
        · cases hfound
        · cases hf
          cases hnone
  ends t ht := by
    obtain ⟨looked, found, deeds, saved, hthreads, hsaved, hfound | ⟨-, f, hf⟩⟩ := h.threads ht
    · cases hknown.symm.trans hfound
      obtain ⟨hsame, rfl⟩ := hthreads.updates hid
      exact ⟨hsame, hsaved⟩
    · cases hknown.symm.trans hf

end Told

theorem Rewrites.created_eq_nil {id : String} (h : Rewrites id c) : c.created = [] := by
  refine List.filterMap_eq_nil_iff.mpr fun x hx => ?_
  cases hwrite : x.question.isWrite with
  | false => exact created?_of_reads hwrite
  | true =>
    obtain ⟨q, a⟩ := x
    obtain ⟨t, rfl, -⟩ := h.writes _ hx hwrite
    rfl

/-! ### Runs one after the other -/

section
variable (hids : ∀ n, e.ticketId n ≠ "")
include hids

theorem told_after (j : Job) (u : Update) (w : World τ) (turns : List (Turn τ)) :
    Told e j u w ((start j u w).after e turns) ∧ Atomic w ((start j u w).after e turns) :=
  ⟨(told_start e j u w).after hids (sound_start j u w) turns,
    ((sound_start j u w).after hids turns).atomic⟩

variable (hkeep : e.trackers.KeepTaskIds) {l : Locator} (hl : l.isEmpty = false)
include hkeep hl

/-- The task of an update leads to the ticket that a run for it has ended with. -/
theorem found_of_ticket {r : Errand τ} (hsource : r.update.receivedFrom = l) {t : Ticket}
    (ht : ((start r.job r.update w).after e r.turns).ticket? = some t) :
    ((start r.job r.update w).after e r.turns).world.store.getTicket (.locator l) = .ok t := by
  obtain ⟨htold, -⟩ := told_after hids r.job r.update w r.turns
  obtain ⟨looked, found, deeds, saved, hthreads, -⟩ := htold.threads ht
  subst hsource
  exact htold.leadsTo ht _ (hthreads.source_mem (htold.keepsId hkeep) hl)

/-- Runs for a task that the store knows rewrite its ticket, and the task goes on leading to it. -/
theorem oneByOne_known (errands : List (Errand τ))
    (hsource : ∀ r ∈ errands, r.update.receivedFrom = l) {t₀ : Ticket} (hid : t₀.id ≠ "")
    (hknown : w.store.getTicket (.locator l) = .ok t₀) :
    (∀ c ∈ (oneByOne e w errands).1, Rewrites t₀.id c) ∧
    (oneByOne e w errands).2.store.getTicket (.locator l) =
      .ok (((oneByOne e w errands).1.filterMap ticket?).getLast?.getD t₀) := by
  induction errands generalizing w t₀ with
  | nil => exact ⟨by simp [oneByOne], hknown⟩
  | cons r errands ih =>
    have hr := hsource r List.mem_cons_self
    have hrest := fun r' hr' => hsource r' (List.mem_cons_of_mem r hr')
    obtain ⟨htold, hatomic⟩ := told_after hids r.job r.update w r.turns
    have hrewrites := htold.rewrites hid (hr ▸ hknown)
    simp only [oneByOne]
    cases ht : ((start r.job r.update w).after e r.turns).ticket? with
    | none =>
      obtain ⟨hsame, -⟩ := hatomic.of_no_ticket ht
      obtain ⟨hall, hfound⟩ := ih hrest hid (hsame ▸ hknown)
      refine ⟨List.forall_mem_cons.mpr ⟨hrewrites, hall⟩, ?_⟩
      rw [hfound, List.filterMap_cons_none ht]
    | some t =>
      have hsame := (hrewrites.ends t ht).1
      obtain ⟨hall, hfound⟩ := ih hrest (hsame ▸ hid) (found_of_ticket hids hkeep hl hr ht)
      refine ⟨List.forall_mem_cons.mpr ⟨hrewrites, fun c hc => hsame ▸ hall c hc⟩, ?_⟩
      rw [hfound, List.filterMap_cons_some ht, List.getLast?_cons, Option.getD_some]

theorem oneByOne_unknown (errands : List (Errand τ))
    (hsource : ∀ r ∈ errands, r.update.receivedFrom = l)
    (hnew : w.store.getTicket (.locator l) = .error (ticketNotFound l.display)) :
    OneTicket l (oneByOne e w errands).1 (oneByOne e w errands).2 := by
  induction errands generalizing w with
  | nil => exact ⟨by simp [oneByOne], by simp [oneByOne], hnew⟩
  | cons r errands ih =>
    have hr := hsource r List.mem_cons_self
    have hrest := fun r' hr' => hsource r' (List.mem_cons_of_mem r hr')
    obtain ⟨htold, hatomic⟩ := told_after hids r.job r.update w r.turns
    simp only [oneByOne]
    cases ht : ((start r.job r.update w).after e r.turns).ticket? with
    | none =>
      obtain ⟨hsame, hcreated⟩ := hatomic.of_no_ticket ht
      have hone := ih hrest (hsame ▸ hnew)
      refine ⟨?_, ?_, ?_⟩
      · rw [List.flatMap_cons, hcreated, List.nil_append]
        exact hone.created
      · intro before c after t hsplit hc
        cases before with
        | nil =>
          obtain ⟨rfl, -⟩ := List.cons.inj hsplit
          cases ht.symm.trans hc
        | cons b before => exact hone.rewrites before c after t (List.cons.inj hsplit).2 hc
      · rw [List.filterMap_cons_none ht]
        exact hone.found
    | some t =>
      obtain ⟨hid, hcreated⟩ := hatomic.created_of_ticket ht
      obtain ⟨hall, hfound⟩ := oneByOne_known hids hkeep hl errands hrest hid
        (found_of_ticket hids hkeep hl hr ht)
      refine ⟨?_, ?_, ?_⟩
      · rw [List.flatMap_cons, List.flatMap_eq_nil_iff.mpr fun c hc => (hall c hc).created_eq_nil,
          List.append_nil]
        rcases hcreated with hnone | hone
        · simp [hnone]
        · simp [hone]
      · intro before c after t' hsplit hc c' hc'
        cases before with
        | nil =>
          obtain ⟨rfl, rfl⟩ := List.cons.inj hsplit
          obtain rfl := Option.some.inj (ht.symm.trans hc)
          exact hall c' hc'
        | cons b before =>
          have hrest' := (List.cons.inj hsplit).2
          rw [((hall c (by simp [hrest'])).ends t' hc).1]
          exact hall c' (by simp [hrest', hc'])
      · rw [hfound, List.filterMap_cons_some ht, List.getLast?_cons]
        rfl

end

/-- A job without conditions that runs again for the same update leaves the ticket that it has
stored as it is. -/
theorem rerun_eq (hids : ∀ n, e.ticketId n ≠ "") (hkeep : e.trackers.KeepTaskIds)
    (hsource : u.receivedFrom.isEmpty = false) (hplain : j.IfFree) {turns turns' : List (Turn τ)}
    {t t' : Ticket} (ht : ((start j u w).after e turns).ticket? = some t)
    (ht' : ((start j u ((start j u w).after e turns).world).after e turns').ticket? = some t')
    (hnamed : ∀ tracker r id,
      ⟨.call tracker r, .ok id⟩ ∈ ((start j u w).after e turns).exchanges → id ≠ "") : t' = t := by
  obtain ⟨htold, hatomic⟩ := told_after hids j u w turns
  obtain ⟨htold', -⟩ := told_after hids j u ((start j u w).after e turns).world turns'
  obtain ⟨looked, found, deeds, saved, hthreads, -⟩ := htold.threads ht
  obtain ⟨looked', found', deeds', saved', hthreads', -, hfound⟩ := htold'.threads ht'
  have hlists := hthreads.source_mem (htold.keepsId hkeep) hsource
  have hknown := htold.leadsTo ht _ hlists
  obtain rfl : found' = t := by
    rcases hfound with hfound | ⟨-, f, hf⟩
    · exact (Except.ok.inj (hknown.symm.trans hfound)).symm
    · cases hknown.symm.trans hf
  refine hthreads.eq_of_rerun hthreads' (htold.keepsId hkeep) (htold'.keepsId hkeep) hplain
    (hatomic.created_of_ticket ht).1 (Locator.id_ne_empty hsource) hnamed

/-- Updates of one task, worked off one after the other from an empty store by runs of any jobs that
may end with a ticket, fail or be given up, with trackers that know a task by the id that they are
given, lead to one ticket at most: it is created once, every run after the first one that ended with
a ticket writes this ticket and no other, and the task leads to it as the last of these runs has
left it. When a job without conditions runs again for the same update, and all calls have returned
ids, it leaves the stored ticket as it is. -/
theorem one_ticket_per_task (e : Surroundings τ) (hids : ∀ n, e.ticketId n ≠ "")
    (hkeep : e.trackers.KeepTaskIds) (l : Locator) (hl : l.isEmpty = false) :
    (∀ (w : World τ) (errands : List (Errand τ)),
      w.store = .memory {} ∨ w.store = .disk {} → (∀ r ∈ errands, r.update.receivedFrom = l) →
      OneTicket l (oneByOne e w errands).1 (oneByOne e w errands).2) ∧
    ∀ (w : World τ) (j : Job) (u : Update) (turns turns' : List (Turn τ)) (t t' : Ticket),
      j.IfFree → u.receivedFrom = l →
      let c := (start j u w).after e turns
      let c' := (start j u c.world).after e turns'
      c.ticket? = some t → c'.ticket? = some t' →
      (∀ tracker r id, ⟨.call tracker r, .ok id⟩ ∈ c.exchanges → id ≠ "") →
      t' = t ∧ ∀ id, c'.world.store.getTicket (.id id) = c.world.store.getTicket (.id id) := by
  refine ⟨fun w errands hempty hsource => oneByOne_unknown hids hkeep hl errands hsource ?_, ?_⟩
  · rcases hempty with hempty | hempty <;> rw [hempty] <;> rfl
  intro w j u turns turns' t t' hplain hsource c c' ht ht' hnamed
  obtain rfl := rerun_eq hids hkeep (hsource ▸ hl) hplain ht ht' hnamed
  refine ⟨rfl, fun id => ?_⟩
  have hwrote := ((told_after hids j u w turns).2.stored _ (outcome?_of_ticket? ht)).2.1
  have hwrote' := ((told_after hids j u c.world turns').2.stored _ (outcome?_of_ticket? ht')).2.1
  by_cases hid : id = t'.id
  · rw [hid, hwrote'.written, hwrote.written]
  · exact hwrote'.others id hid

/-- The desk, where a task that has an id keeps it. -/
def keeper : Surroundings Unit :=
  { desk with
    trackers :=
      { desk.trackers with
        call := fun _ r s =>
          ({ delay := some 5
             settle := fun s => (.ok (if r.taskId = "" then "7" else r.taskId), s) }, s) } }

/-- A job that opens a task at the desk. -/
def forward : Job :=
  { name := "forward", triggerName := "mail", steps := [.action { name := ⟨"desk", "open"⟩ }] }

/-- A mail that is delivered three times, where the run for the first delivery is given up. -/
def redelivered : List (Errand Unit) :=
  [3, 8, 8].map fun n => ⟨forward, { receivedFrom := ⟨"mail", "1"⟩ }, List.replicate n .own⟩

/-- The run for a delivery that opens the task. -/
def delivered : Course Unit :=
  (start forward { receivedFrom := ⟨"mail", "1"⟩ } { store := .disk {}, trackers := () }).after keeper
    (List.replicate 8 .own)

/-- The run for the same mail again. -/
def deliveredAgain : Course Unit :=
  (start forward { receivedFrom := ⟨"mail", "1"⟩ } delivered.world).after keeper
    (List.replicate 8 .own)

theorem keeper_keeps : keeper.trackers.KeepTaskIds := by
  intro tracker r s s' id htask hid
  have hreturned : (if r.taskId = "" then "7" else r.taskId) = id := Except.ok.inj hid
  rw [← hreturned, if_neg htask]

theorem keeper_names {tracker : String} {r : CallRequest} {id : String}
    (h : (World.handler keeper).Gives ⟨.call tracker r, .ok id⟩) : id ≠ "" := by
  obtain ⟨w, w', hgiven⟩ := h
  have hreturned : id = if r.taskId = "" then "7" else r.taskId := Except.ok.inj hgiven
  rw [hreturned]
  split
  · decide
  · assumption

theorem redelivered_mail_has_one_ticket :
    (∀ n, keeper.ticketId n ≠ "") ∧ keeper.trackers.KeepTaskIds ∧
    (⟨"mail", "1"⟩ : Locator).isEmpty = false ∧
    let w : World Unit := { store := .disk {}, trackers := () }
    let runs := oneByOne keeper w redelivered
    (∀ r ∈ redelivered, r.update.receivedFrom = ⟨"mail", "1"⟩) ∧ runs.1.flatMap created = ["t1"] ∧
    runs.1.filterMap ticket? = [forwarded, forwarded] ∧ OneTicket ⟨"mail", "1"⟩ runs.1 runs.2 ∧
    forward.IfFree ∧ delivered.ticket? = some forwarded ∧ deliveredAgain.ticket? = some forwarded ∧
    (∀ tracker r id, ⟨.call tracker r, .ok id⟩ ∈ delivered.exchanges → id ≠ "") ∧
    ∀ id, deliveredAgain.world.store.getTicket (.id id) = delivered.world.store.getTicket (.id id) := by
  have hblank : (⟨"mail", "1"⟩ : Locator).isEmpty = false := by decide +kernel
  have hsource : ∀ r ∈ redelivered, r.update.receivedFrom = ⟨"mail", "1"⟩ := by
    simp [redelivered]
  have hplain : forward.IfFree := by
    intro s hs
    exact ⟨_, List.mem_singleton.mp hs⟩
  have ht : delivered.ticket? = some forwarded := by decide +kernel
  have ht' : deliveredAgain.ticket? = some forwarded := by decide +kernel
  have hnamed : ∀ tracker r id, ⟨.call tracker r, .ok id⟩ ∈ delivered.exchanges → id ≠ "" := by
    intro tracker r id hmem
    exact keeper_names ((told_after (e := keeper) desk_names_tickets _ _ _ _).1.given _ hmem)
  have hone := one_ticket_per_task keeper desk_names_tickets keeper_keeps ⟨"mail", "1"⟩ hblank
  obtain ⟨-, hkept⟩ := hone.2 _ forward _ _ _ forwarded forwarded hplain rfl ht ht' hnamed
  refine ⟨desk_names_tickets, keeper_keeps, hblank, ?_⟩
  intro w runs
  exact ⟨hsource, by decide +kernel, by decide +kernel, hone.1 w redelivered (.inr rfl) hsource,
    hplain, ht, ht', hnamed, hkept⟩

end Course
end TicketSync.Engine
