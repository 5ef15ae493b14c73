import TicketSync.Proofs.ListenerFrame
import TicketSync.Proofs.RunWrites

/-! # The table of tickets

Whatever became of a store from its start, its tickets are those of one table, each under its own
id, and this table alone decides which queries for an id and which updates succeed. What a run does
to its surroundings is one change of the table at most. -/
namespace TicketSync

/-- A store whose tickets are those of a table, each under its own id, which is not empty. On disk
they stand as their records, and no other record is nested too deep for the file. -/
structure Store.HasTickets (s : Store) (table : Dict Ticket) : Prop where
  stands : match s with
    | .memory m => m.tickets = table
    | .disk d => d.tickets = table.map Ticket.toJson
  fits : match s with
    | .memory _ => True
    | .disk d => ∀ id v, d.subscriptions.get? id = some v → v.Fits DiskStore.recordDepth
  named : ∀ id t, table.get? id = some t → t.id = id ∧ id ≠ ""

/-- A store that operations on an empty one lead to, where new tickets get ids that are not
empty. -/
def Store.Reached (s : Store) : Prop :=
  ∃ calls : List StoreCall, (∀ id ∈ calls.filterMap StoreCall.ticketCreated?, id ≠ "") ∧
    (s = ((Store.memory {}).performAll calls).2 ∨ s = ((Store.disk {}).performAll calls).2)

namespace Store
namespace HasTickets

variable {s s' : Store} {table : Dict Ticket}

theorem named_insert (h : s.HasTickets table) {t : Ticket} (ht : t.id ≠ "") (id : String)
    (u : Ticket) (hu : (table.insert t.id t).get? id = some u) : u.id = id ∧ id ≠ "" := by
  rw [Dict.get?_insert] at hu
  split at hu
  · next hid =>
    obtain rfl := Option.some.inj hu
    exact ⟨hid, hid ▸ ht⟩
  · exact h.named id u hu

theorem getTicket_id (h : s.HasTickets table) (id : String) :
    s.getTicket (.id id) = orFail (ticketNotFound id) (table.get? id) := by
  have hstands := h.stands
  cases s with
  | memory m =>
    simp only at hstands
    rw [← hstands]
    rfl
  | disk d =>
    simp only at hstands
    simp only [getTicket, DiskStore.getTicket, bind, Except.bind, hstands, Dict.get?_map,
      TicketQuery.display]
    cases table.get? id <;> simp [orFail, DiskStore.readRecord]

/-- What a query finds is a ticket of the table. -/
theorem mem_of_getTicket (h : s.HasTickets table) {q : TicketQuery} {t : Ticket}
    (ht : s.getTicket q = .ok t) : table.get? t.id = some t := by
  have hsome : ∃ id, table.get? id = some t := by
    have hstands := h.stands
    cases s with
    | memory m =>
      simp only at hstands
      simp only [getTicket, MemoryStore.getTicket, hstands, orFail] at ht
      split at ht
      · next u hu =>
        obtain ⟨id, -, hget⟩ := Option.bind_eq_some_iff.mp hu
        exact ⟨id, Except.ok.inj ht ▸ hget⟩
      · cases ht
    | disk d =>
      simp only at hstands
      have hread : ∀ {f : Failure} {id : String}, (orFail f (d.tickets.get? id)).bind
          (DiskStore.readRecord Ticket.ofJson?) = .ok t → table.get? id = some t := by
        intro f id hid
        rw [hstands, Dict.get?_map] at hid
        cases hget : table.get? id with
        | none => simp [hget, orFail, Except.bind] at hid
        | some u =>
          simp only [hget, Option.map_some, orFail, Except.bind, DiskStore.readRecord,
            Ticket.ofJson?_toJson, Except.ok.injEq] at hid
          rw [hid]
      cases q with
      | id id => exact ⟨id, hread ht⟩
      | locator l =>
        simp only [getTicket, DiskStore.getTicket, bind] at ht
        cases hindex : d.index.get? l.display with
        | none => simp [hindex, orFail, Except.bind] at ht
        | some id =>
          simp only [hindex, orFail, Except.bind] at ht
          exact ⟨id, hread ht⟩
  obtain ⟨id, hid⟩ := hsome
  rwa [(h.named id t hid).1]

/-- A ticket that is written stands in the table under its id. -/
theorem puts (h : s.HasTickets table) {t : Ticket} (ht : t.id ≠ "") (hputs : Puts t s s') :
    s'.HasTickets (table.insert t.id t) := by
  have hnamed := h.named_insert ht
  have hstands := h.stands
  cases hputs with
  | memory m =>
    simp only at hstands
    exact ⟨hstands ▸ rfl, trivial, hnamed⟩
  | disk d previous =>
    simp only at hstands
    refine ⟨?_, h.fits, hnamed⟩
    simp only [DiskStore.putTicket, hstands]
    exact (Dict.map_insert _ _ _ _).symm

theorem createTicket (h : s.HasTickets table) {id id' : String} {t : Ticket} (hid : id ≠ "")
    (hc : s.createTicket id t = .ok (id', s')) :
    id' = id ∧ s'.HasTickets (table.insert id { t with id }) := by
  obtain ⟨hsame, hputs⟩ := puts_of_createTicket hc
  exact ⟨hsame, h.puts (t := { t with id }) hid hputs⟩

/-- An update of a ticket of the table puts it in place of its last version. -/
theorem updateTicket (h : s.HasTickets table) {t : Ticket} (ht : table.contains t.id = true) :
    ∃ s', s.updateTicket t = .ok s' ∧ s'.HasTickets (table.insert t.id t) := by
  obtain ⟨old, hold⟩ := Option.isSome_iff_exists.mp ht
  obtain ⟨s', hupdate⟩ : ∃ s', s.updateTicket t = .ok s' := by
    have hstands := h.stands
    cases s with
    | memory m =>
      simp only at hstands
      exact ⟨.memory (m.putTicket t), by
        simp [Store.updateTicket, MemoryStore.updateTicket, hstands, ht, Except.map]⟩
    | disk d =>
      simp only at hstands
      exact ⟨.disk (d.putTicket t (some old)), by
        simp [Store.updateTicket, DiskStore.updateTicket, hstands, Dict.get?_map, hold,
          DiskStore.readRecord, bind, Except.bind, pure, Except.pure, Except.map]⟩
  exact ⟨s', hupdate, h.puts (h.named t.id old hold).2 (puts_of_updateTicket hupdate)⟩

theorem updateTicket_unknown (h : s.HasTickets table) {t : Ticket}
    (ht : table.contains t.id = false) : s.updateTicket t = .error (ticketNotFound t.id) := by
  have hnone : table.get? t.id = none :=
    Option.isNone_iff_eq_none.mp (Option.isSome_eq_false_iff.mp ht)
  have hstands := h.stands
  cases s with
  | memory m =>
    simp only at hstands
    simp [Store.updateTicket, MemoryStore.updateTicket, hstands, ht, Except.map]
  | disk d =>
    simp only at hstands
    simp [Store.updateTicket, DiskStore.updateTicket, hstands, Dict.get?_map, hnone, Except.map]

theorem putSubscription {d : DiskStore} (h : (Store.disk d).HasTickets table) (id : String)
    (x : Subscription) :
    (Store.disk { d with subscriptions := d.subscriptions.insert id x.toJson }).HasTickets
      table where
  stands := h.stands
  fits k v hv := by
    rw [Dict.get?_insert] at hv
    split at hv
    · obtain rfl := Option.some.inj hv
      exact x.fits_toJson _
    · exact h.fits k v hv
  named := h.named

theorem disk_fits {d : DiskStore} (h : (Store.disk d).HasTickets table) : d.Fits where
  tickets id v hv := by
    have hstands : d.tickets = table.map Ticket.toJson := h.stands
    rw [hstands, Dict.get?_map] at hv
    obtain ⟨t, -, rfl⟩ := Option.map_eq_some_iff.mp hv
    exact t.fits_toJson _
  subscriptions := h.fits

theorem createSubscription (h : s.HasTickets table) (id : String) (x : Subscription) :
    (s.perform (.createSubscription id x)).2.HasTickets table := by
  cases s with
  | memory m => exact ⟨h.stands, trivial, h.named⟩
  | disk d => exact h.putSubscription id { x with id }

theorem updateSubscription (h : s.HasTickets table) (x : Subscription) :
    (s.perform (.updateSubscription x)).2.HasTickets table := by
  cases s with
  | memory m =>
    simp only [Store.perform, Store.updateSubscription, MemoryStore.updateSubscription]
    split <;> exact ⟨h.stands, trivial, h.named⟩
  | disk d =>
    simp only [Store.perform, Store.updateSubscription, DiskStore.updateSubscription]
    split
    · exact h.putSubscription x.id x
    · exact h

theorem deleteSubscription (h : s.HasTickets table) (id : String) :
    (s.perform (.deleteSubscription id)).2.HasTickets table := by
  cases s with
  | memory m =>
    simp only [Store.perform, Store.deleteSubscription, MemoryStore.deleteSubscription]
    split <;> exact ⟨h.stands, trivial, h.named⟩
  | disk d =>
    simp only [Store.perform, Store.deleteSubscription, DiskStore.deleteSubscription]
    split
    · refine ⟨h.stands, fun k v hv => ?_, h.named⟩
      rw [Dict.get?_erase] at hv
      split at hv
      · cases hv
      · exact h.fits k v hv
    · exact h

theorem reopen (h : s.HasTickets table) : (s.perform .reopen).2.HasTickets table := by
  cases s with
  | memory m => exact h
  | disk d =>
    simpa [Store.perform, Store.reopen, DiskStore.load_save h.disk_fits, Except.map, Store.settle]
      using h

/-- An operation leaves a table of tickets behind, unless it gives a new ticket the empty id. -/
theorem perform (h : s.HasTickets table) (c : StoreCall) (hc : c.ticketCreated? ≠ some "") :
    ∃ table', (s.perform c).2.HasTickets table' := by
  cases c with
  | createTicket id t =>
    cases hcreate : s.createTicket id t with
    | ok r =>
      have hid : id ≠ "" := fun he => hc (congrArg some he)
      have hstored := (h.createTicket hid hcreate).2
      exact ⟨_, by simpa [Store.perform, hcreate, Store.settle] using hstored⟩
    | error f => exact ⟨table, by simpa [Store.perform, hcreate, Store.settle] using h⟩
  | updateTicket t =>
    cases hknown : table.contains t.id with
    | true =>
      obtain ⟨s', hupdate, hs'⟩ := h.updateTicket hknown
      exact ⟨_, by simpa [Store.perform, hupdate, Store.settle] using hs'⟩
    | false =>
      have hupdate := h.updateTicket_unknown hknown
      exact ⟨table, by simpa [Store.perform, hupdate, Store.settle] using h⟩
  | createSubscription id x => exact ⟨table, h.createSubscription id x⟩
  | updateSubscription x => exact ⟨table, h.updateSubscription x⟩
  | deleteSubscription id => exact ⟨table, h.deleteSubscription id⟩
  | reopen => exact ⟨table, h.reopen⟩
  | _ => exact ⟨table, by rw [Store.perform, Store.settle_read]; exact h⟩

end HasTickets

/-- A store that was reached from the start has a table of tickets. -/
theorem Reached.exists_hasTickets {s : Store} (h : s.Reached) : ∃ table, s.HasTickets table := by
  have hall : ∀ (s : Store) (calls : List StoreCall), (∃ table, s.HasTickets table) →
      (∀ id ∈ calls.filterMap StoreCall.ticketCreated?, id ≠ "") →
        ∃ table, (s.performAll calls).2.HasTickets table := by
    intro s calls hs hids
    induction calls generalizing s with
    | nil => exact hs
    | cons c calls ih =>
      obtain ⟨table, hs⟩ := hs
      refine ih _ (hs.perform c fun hempty => ?_) fun id hid => hids id ?_
      · exact hids "" (List.mem_filterMap.mpr ⟨c, List.mem_cons_self, hempty⟩) rfl
      · obtain ⟨c', hc', hid'⟩ := List.mem_filterMap.mp hid
        exact List.mem_filterMap.mpr ⟨c', List.mem_cons_of_mem _ hc', hid'⟩
  have hempty : ∀ id t, (Dict.empty : Dict Ticket).get? id = some t → t.id = id ∧ id ≠ "" := by
    simp
  obtain ⟨calls, hids, rfl | rfl⟩ := h
  · exact hall _ calls ⟨.empty, rfl, trivial, hempty⟩ hids
  · exact hall _ calls ⟨.empty, rfl, by simp, hempty⟩ hids

end Store

/-! ### Questions of runs -/

namespace Engine

/-- What an answer says of the table of tickets: a ticket that was found is one of it, and an update
finds nothing only when its ticket is none of it. -/
def AnsweredBy (table : Dict Ticket) : Exchange Engine → Prop
  | ⟨.findTicket _, .ok t⟩ => table.get? t.id = some t
  | ⟨.updateTicket t, .error f⟩ => f.isNotFound = true → table.contains t.id = false
  | _ => True

namespace World

variable {τ : Type} {e : Surroundings τ} {w w' : World τ} {table : Dict Ticket}

/-- What an exchange of a run does to the table of tickets: it has entered a new ticket, put one in
place of its last version, or left all as they are. -/
inductive TicketEffect (e : Surroundings τ) (w : World τ) (table : Dict Ticket) (w' : World τ) :
    Option (Exchange Engine) → Prop
  | created (t : Ticket) {id : String} (number : id = e.ticketId (w.tickets + 1))
      (tickets : w'.store.HasTickets (table.insert id { t with id }))
      (count : w'.tickets = w.tickets + 1) :
      TicketEffect e w table w' (some ⟨.createTicket t, .ok id⟩)
  | updated (t : Ticket) (known : table.contains t.id = true)
      (tickets : w'.store.HasTickets (table.insert t.id t)) (count : w'.tickets = w.tickets) :
      TicketEffect e w table w' (some ⟨.updateTicket t, .ok ()⟩)
  | kept {x? : Option (Exchange Engine)} (tickets : w'.store.HasTickets table)
      (count : w'.tickets = w.tickets)
      (quiet : ∀ x, x? = some x → stored? x = none ∧ AnsweredBy table x) :
      TicketEffect e w table w' x?

theorem TicketEffect.of_sameStore (h : w.store.HasTickets table) (hsame : w.SameStore w')
    {x? : Option (Exchange Engine)}
    (quiet : ∀ x, x? = some x → stored? x = none ∧ AnsweredBy table x) :
    TicketEffect e w table w' x? :=
  .kept (hsame.store ▸ h) hsame.tickets quiet

theorem ticketEffect_createTicket (h : w.store.HasTickets table)
    (hid : e.ticketId (w.tickets + 1) ≠ "") (t : Ticket) :
    TicketEffect e w table (w.createTicket e t).2
      (some ⟨.createTicket t, (w.createTicket e t).1⟩) := by
  have hrefused : ∀ (f : Failure) (w' : World τ), w.SameStore w' →
      TicketEffect e w table w' (some ⟨.createTicket t, .error f⟩) := by
    intro f w' hsame
    refine .of_sameStore h hsame ?_
    rintro x ⟨⟩
    exact ⟨rfl, trivial⟩
  refine guarded_elim (p := fun r => TicketEffect e w table r.2 (some ⟨.createTicket t, r.1⟩)) w
    .createTicket (hrefused _ _ ⟨rfl, rfl⟩) ?_
  cases hc : w.store.createTicket (e.ticketId (w.tickets + 1)) t with
  | ok r =>
    obtain ⟨id, store⟩ := r
    obtain ⟨rfl, htickets⟩ := h.createTicket hid hc
    exact .created t rfl htickets rfl
  | error f => exact hrefused f w (.refl w)

theorem ticketEffect_updateTicket (h : w.store.HasTickets table) (t : Ticket) :
    TicketEffect e w table (w.updateTicket t).2 (some ⟨.updateTicket t, (w.updateTicket t).1⟩) := by
  have hrefused : ∀ (f : Failure) (w' : World τ), w.SameStore w' →
      (f.isNotFound = true → table.contains t.id = false) →
      TicketEffect e w table w' (some ⟨.updateTicket t, .error f⟩) := by
    intro f w' hsame hf
    refine .of_sameStore h hsame ?_
    rintro x ⟨⟩
    exact ⟨rfl, hf⟩
  have hfault : (fault .updateTicket).isNotFound = true → table.contains t.id = false :=
    fun hnone => by cases hnone
  refine guarded_elim (p := fun r => TicketEffect e w table r.2 (some ⟨.updateTicket t, r.1⟩)) w
    .updateTicket (hrefused _ _ ⟨rfl, rfl⟩ hfault) ?_
  cases hknown : table.contains t.id with
  | true =>
    obtain ⟨store, hupdate, htickets⟩ := h.updateTicket hknown
    simp only [note, hupdate, keep]
    exact .updated t hknown htickets rfl
  | false =>
    simp only [note, h.updateTicket_unknown hknown, keep]
    exact hrefused _ _ ⟨rfl, rfl⟩ fun _ => hknown

/-- A look-up finds a ticket of the table. -/
theorem answeredBy_findTicket (h : w.store.HasTickets table) (q : TicketQuery) :
    AnsweredBy table
      ⟨.findTicket q, (w.guarded .getTicket fun w => (w.store.getTicket q, w)).1⟩ := by
  refine guarded_elim (p := fun r => AnsweredBy table ⟨.findTicket q, r.1⟩) w .getTicket trivial ?_
  cases hfound : w.store.getTicket q with
  | ok t => exact h.mem_of_getTicket hfound
  | error f => trivial

/-- An answer that the store gives comes in the turn that asks for it. -/
theorem reads_of_slow (table : Dict Ticket) {q : Question} {w : World τ} (hq : OfRun q)
    (hslow : (handler e q w).1.delay ≠ some 0) :
    q.isWrite = false ∧ ∀ a, AnsweredBy table ⟨q, a⟩ := by
  cases q with
  | call tracker r => exact ⟨rfl, fun _ => trivial⟩
  | isCancelled => exact absurd rfl hslow
  | condition text u t => exact absurd rfl hslow
  | render vars u t => exact absurd rfl hslow
  | findTicket q => exact absurd rfl hslow
  | createTicket t => exact absurd rfl hslow
  | updateTicket t => exact absurd rfl hslow
  | isRegistered tracker => exact absurd rfl hslow
  | _ => cases hq

/-- A turn of a run changes the table in one entry at most. -/
theorem ticketEffect_of_turn {q? : Option (Dialogue.Question Engine)}
    {x? : Option (Exchange Engine)}
    (hturn : Task.Turn (handler e) w q? x? w') (h : w.store.HasTickets table)
    (hq : ∀ q, q? = some q → OfRun q) (hx : ∀ x, x? = some x → OfRun x.question)
    (hid : e.ticketId (w.tickets + 1) ≠ "") : TicketEffect e w table w' x? := by
  cases hturn with
  | rest => exact .of_sameStore h (.refl w) (by simp)
  | asked q slow =>
    have hread := (reads_of_slow table (hq q rfl) slow).1
    exact .of_sameStore h (handler_sameStore e hread w).1 (by simp)
  | answered q w₀ slow =>
    obtain ⟨hread, hanswered⟩ := reads_of_slow table (hx _ rfl) slow
    refine .of_sameStore h ((handler_sameStore e hread w₀).2 w) ?_
    rintro x ⟨⟩
    exact ⟨stored?_of_reads hread, hanswered _⟩
  | prompt q now =>
    have hkept : q.isWrite = false →
        AnsweredBy table ⟨q, ((handler e q w).1.finish (handler e q w).2).1⟩ →
        TicketEffect e w table ((handler e q w).1.finish (handler e q w).2).2
          (some ⟨q, ((handler e q w).1.finish (handler e q w).2).1⟩) := by
      intro hread hanswered
      obtain ⟨hasked, hdone⟩ := handler_sameStore e hread w
      refine .of_sameStore h (hasked.trans (hdone _)) ?_
      rintro x ⟨⟩
      exact ⟨stored?_of_reads hread, hanswered⟩
    cases q with
    | createTicket t => exact ticketEffect_createTicket h hid t
    | updateTicket t => exact ticketEffect_updateTicket h t
    | findTicket q => exact hkept rfl (answeredBy_findTicket h q)
    | isCancelled => exact hkept rfl trivial
    | condition text u t => exact hkept rfl trivial
    | render vars u t => exact hkept rfl trivial
    | isRegistered tracker => exact hkept rfl trivial
    | call tracker r => exact hkept rfl trivial
    | _ => cases hq _ rfl

end World
end Engine
end TicketSync
