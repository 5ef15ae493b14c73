import TicketSync.Proofs.LocatorIndex

/-! # What a store answers after any history

Operations that succeed add their ticket to the history, and no other operation touches what a query
for a ticket can see. So a store that began empty answers every query for a ticket by the history
of its writes, and an operation that failed might as well not have been there. -/
namespace TicketSync

/-- An operation that writes no ticket of a tracker with a slash in its name. -/
def StoreCall.SlashFree : StoreCall → Prop
  | .createTicket _ t => t.SlashFree
  | .updateTicket t => t.SlashFree
  | _ => True

namespace Store

/-- What a store answers about tickets after writes, the first one first. The locators in question
are those that the store can tell apart. -/
structure Recalls (s : Store) (ws : List Ticket) (known : Locator → Prop) : Prop where
  byId : ∀ id t, s.getTicket (.id id) = .ok t ↔ LastWriteOf ws id t
  unknownId : ∀ id, (∀ t ∈ ws, t.id ≠ id) → s.getTicket (.id id) = .error (ticketNotFound id)
  byLocator : ∀ l, known l → ∀ t, s.getTicket (.locator l) = .ok t ↔ LastListing ws l t
  unknownLocator : ∀ l, known l → (∀ t, ¬LastListing ws l t) →
    s.getTicket (.locator l) = .error (ticketNotFound l.display)
  update : ∀ t, (∃ s', s.updateTicket t = .ok s') ↔ ∃ u ∈ ws, u.id = t.id
  create : ∀ id t, (∀ u ∈ ws, u.id ≠ id) → ∃ s', s.createTicket id t = .ok (id, s')

theorem settle_error {α : Type} (s : Store) (r : Outcome α) (f : α → StoreReply × Store)
    {e : Failure} (h : (s.settle r f).1 = .error e) : (s.settle r f).2 = s := by
  cases r with
  | ok x => simp [settle] at h
  | error e => rfl

theorem perform_error {s : Store} {c : StoreCall} {e : Failure} (h : (s.perform c).1 = .error e) :
    (s.perform c).2 = s := by
  cases c <;> exact settle_error _ _ _ h

theorem settle_read {α : Type} (s : Store) (r : Outcome α) (reply : α → StoreReply) :
    (s.settle r fun x => (reply x, s)).2 = s := by
  cases r <;> rfl

end Store

namespace MemoryStore.Follows

variable {s : MemoryStore} {past : List Ticket}

theorem contains_iff (h : s.Follows past) (id : String) :
    s.tickets.contains id = true ↔ ∃ t ∈ past, t.id = id := by
  rw [Dict.contains, h.tickets, lastOf, List.find?_isSome]
  simp

theorem perform (h : s.Follows past) (c : StoreCall) :
    ∃ s', ((Store.memory s).perform c).2 = .memory s' ∧
      s'.Follows ((c.written? ((Store.memory s).perform c).1).toList ++ past) := by
  cases c with
  | createTicket id t => exact ⟨_, rfl, h.putTicket _⟩
  | updateTicket t =>
    simp only [Store.perform, Store.updateTicket, MemoryStore.updateTicket]
    split
    · exact ⟨_, rfl, h.putTicket t⟩
    · exact ⟨_, rfl, h⟩
  | getTicket q =>
    rw [Store.perform, Store.settle_read]
    exact ⟨_, rfl, h⟩
  | createSubscription id x => exact ⟨_, rfl, h.tickets, h.distinct, h.index⟩
  | updateSubscription x =>
    simp only [Store.perform, Store.updateSubscription, MemoryStore.updateSubscription]
    split <;> exact ⟨_, rfl, h.tickets, h.distinct, h.index⟩
  | getSubscription id =>
    rw [Store.perform, Store.settle_read]
    exact ⟨_, rfl, h⟩
  | deleteSubscription id =>
    simp only [Store.perform, Store.deleteSubscription, MemoryStore.deleteSubscription]
    split <;> exact ⟨_, rfl, h.tickets, h.distinct, h.index⟩
  | listSubscriptions tracker =>
    rw [Store.perform, Store.settle_read]
    exact ⟨_, rfl, h⟩
  | reopen => exact ⟨_, rfl, h⟩

end MemoryStore.Follows

namespace DiskStore.Follows

variable {s : DiskStore} {past : List Ticket}

theorem contains_iff (h : s.Follows past) (id : String) :
    s.tickets.contains id = true ↔ ∃ t ∈ past, t.id = id := by
  rw [Dict.contains, h.tickets, Option.isSome_map, lastOf, List.find?_isSome]
  simp

/-- An update succeeds for an id that was written, and puts its ticket over the last version. -/
theorem updateTicket_eq (h : s.Follows past) (t : Ticket) :
    s.updateTicket t =
      if (lastOf past t.id).isSome then .ok (s.putTicket t (lastOf past t.id))
      else .error (ticketNotFound t.id) := by
  simp only [updateTicket, h.tickets]
  cases lastOf past t.id <;> simp [readRecord, bind, Except.bind, pure, Except.pure]

theorem createTicket_eq (h : s.Follows past) (id : String) (t : Ticket) :
    s.createTicket id t =
      if (lastOf past id).isSome then .error (.alreadyExists ("ticket " ++ id))
      else .ok (id, s.putTicket { t with id } (lastOf past id)) := by
  simp only [createTicket, Dict.contains, h.tickets]
  cases lastOf past id <;> simp

theorem perform (h : s.Follows past) {c : StoreCall} (hopen : c ≠ .reopen) (hc : c.SlashFree) :
    ∃ s', ((Store.disk s).perform c).2 = .disk s' ∧
      s'.Follows ((c.written? ((Store.disk s).perform c).1).toList ++ past) := by
  cases c with
  | createTicket id t =>
    simp only [Store.perform, Store.createTicket, h.createTicket_eq]
    split
    · exact ⟨_, rfl, h⟩
    · exact ⟨_, rfl, @Follows.putTicket _ _ h { t with id } hc⟩
  | updateTicket t =>
    simp only [Store.perform, Store.updateTicket, h.updateTicket_eq]
    split
    · exact ⟨_, rfl, h.putTicket hc⟩
    · exact ⟨_, rfl, h⟩
  | getTicket q =>
    rw [Store.perform, Store.settle_read]
    exact ⟨_, rfl, h⟩
  | createSubscription id x => exact ⟨_, rfl, h.tickets, h.slashFree, h.index⟩
  | updateSubscription x =>
    simp only [Store.perform, Store.updateSubscription, DiskStore.updateSubscription]
    split <;> exact ⟨_, rfl, h.tickets, h.slashFree, h.index⟩
  | getSubscription id =>
    rw [Store.perform, Store.settle_read]
    exact ⟨_, rfl, h⟩
  | deleteSubscription id =>
    simp only [Store.perform, Store.deleteSubscription, DiskStore.deleteSubscription]
    split <;> exact ⟨_, rfl, h.tickets, h.slashFree, h.index⟩
  | listSubscriptions tracker =>
    rw [Store.perform, Store.settle_read]
    exact ⟨_, rfl, h⟩
  | reopen => exact absurd rfl hopen

end DiskStore.Follows

namespace Store

variable {s : Store} {past : List Ticket}

theorem history_cons (s : Store) (c : StoreCall) (calls : List StoreCall) :
    s.history (c :: calls) =
      (c.written? (s.perform c).1).toList ++ (s.perform c).2.history calls := by
  cases hc : c.written? (s.perform c).1 <;> simp [history, Store.performAll, hc]

/-- What every operation keeps, of a store and the tickets written so far with the last one first,
holds after a history. -/
theorem performAll_induction {P : Store → List Ticket → Prop} {p : StoreCall → Prop}
    (hstep : ∀ s past c, P s past → p c →
      P (s.perform c).2 ((c.written? (s.perform c).1).toList ++ past))
    (h : P s past) {calls : List StoreCall} (hp : ∀ c ∈ calls, p c) :
    P (s.performAll calls).2 ((s.history calls).reverse ++ past) := by
  induction calls generalizing s past with
  | nil => exact h
  | cons c calls ih =>
    have hrest := ih (hstep s past c h (hp c List.mem_cons_self))
      fun d hd => hp d (List.mem_cons_of_mem _ hd)
    have hone : (c.written? (s.perform c).1).toList.reverse = (c.written? (s.perform c).1).toList := by
      cases c.written? (s.perform c).1 <;> rfl
    simp only [Store.performAll, history_cons, List.reverse_append, List.append_assoc, hone]
    exact hrest

/-- A store recalls what it answers by the last writes and by `holding`. -/
theorem Recalls.of_answers {known : Locator → Prop}
    (hid : ∀ id, s.getTicket (.id id) = orFail (ticketNotFound id) (lastOf past id))
    (hlocator : ∀ l, known l →
      s.getTicket (.locator l) = orFail (ticketNotFound l.display) (holding past l))
    (hupdate : ∀ t, (∃ s', s.updateTicket t = .ok s') ↔ ∃ u ∈ past, u.id = t.id)
    (hcreate : ∀ id t, (∀ u ∈ past, u.id ≠ id) → ∃ s', s.createTicket id t = .ok (id, s')) :
    s.Recalls past.reverse known where
  byId id t := by
    rw [hid, ← lastOf_eq_some_iff]
    cases lastOf past id <;> simp [orFail]
  unknownId id h := by
    rw [hid, (lastOf_eq_none_iff past id).mpr fun t ht => h t (List.mem_reverse.mpr ht)]
    rfl
  byLocator l hl t := by
    rw [hlocator l hl, ← holding_eq_some_iff]
    cases holding past l <;> simp [orFail]
  unknownLocator l hl h := by
    rw [hlocator l hl]
    cases hh : holding past l with
    | none => rfl
    | some t => exact absurd ((holding_eq_some_iff past l t).mp hh) (h t)
  update t := by simpa using hupdate t
  create id t h := hcreate id t (by simpa using h)

end Store

theorem MemoryStore.Follows.recalls {s : MemoryStore} {past : List Ticket} (h : s.Follows past) :
    (Store.memory s).Recalls past.reverse fun _ => True := by
  refine Store.Recalls.of_answers ?_ ?_ ?_ ?_
  · exact h.getTicket_id
  · exact fun l _ => h.getTicket_locator l
  · intro t
    rw [← h.contains_iff, Store.updateTicket, updateTicket]
    cases s.tickets.contains t.id <;> simp [Except.map]
  · exact fun id t _ => ⟨_, rfl⟩

theorem DiskStore.Follows.recalls {s : DiskStore} {past : List Ticket} (h : s.Follows past) :
    (Store.disk s).Recalls past.reverse Locator.SlashFree := by
  refine Store.Recalls.of_answers ?_ ?_ ?_ ?_
  · exact h.getTicket_id
  · exact fun l hl => h.getTicket_locator hl
  · intro t
    have hiff := h.contains_iff t.id
    rw [Dict.contains, h.tickets, Option.isSome_map] at hiff
    rw [← hiff, Store.updateTicket, h.updateTicket_eq]
    cases lastOf past t.id <;> simp [Except.map]
  · intro id t hnew
    have hnone := (lastOf_eq_none_iff past id).mpr hnew
    simp [Store.createTicket, h.createTicket_eq, hnone, Except.map]

theorem MemoryStore.follows_performAll (calls : List StoreCall) :
    ∃ s, ((Store.memory {}).performAll calls).2 = .memory s ∧
      s.Follows ((Store.memory {}).history calls).reverse := by
  have hstep : ∀ s past (c : StoreCall), (∃ m, s = Store.memory m ∧ m.Follows past) → True →
      ∃ m, (s.perform c).2 = .memory m ∧
        m.Follows ((c.written? (s.perform c).1).toList ++ past) := by
    rintro _ past c ⟨m, rfl, h⟩ -
    exact h.perform c
  simpa using Store.performAll_induction hstep ⟨{}, rfl, follows_empty⟩ fun c (_ : c ∈ calls) => trivial

theorem DiskStore.follows_performAll {calls : List StoreCall}
    (hc : ∀ c ∈ calls, c ≠ .reopen ∧ c.SlashFree) :
    ∃ s, ((Store.disk {}).performAll calls).2 = .disk s ∧
      s.Follows ((Store.disk {}).history calls).reverse := by
  have hstep : ∀ s past (c : StoreCall), (∃ d, s = Store.disk d ∧ d.Follows past) →
      c ≠ .reopen ∧ c.SlashFree → ∃ d, (s.perform c).2 = .disk d ∧
        d.Follows ((c.written? (s.perform c).1).toList ++ past) := by
    rintro _ past c ⟨d, rfl, h⟩ ⟨hopen, hslash⟩
    exact h.perform hopen hslash
  simpa using Store.performAll_induction hstep ⟨{}, rfl, follows_empty⟩ hc

/-- Every query for a ticket is answered by the history of successful writes: an id by its last
write, a locator by the last write that lists it, provided that this is the last write of its ticket
too. On disk this is so as long as trackers have no slash in their names. Operations that fail
change no later answer. -/
theorem tickets_are_found_by_last_writes (calls : List StoreCall) :
    ((Store.memory {}).performAll calls).2.Recalls ((Store.memory {}).history calls)
      (fun _ => True) ∧
    ((∀ c ∈ calls, c ≠ .reopen ∧ c.SlashFree) →
      ((Store.disk {}).performAll calls).2.Recalls ((Store.disk {}).history calls)
        Locator.SlashFree) ∧
    ∀ (s : Store) (c : StoreCall) (e : Failure), (s.perform c).1 = .error e →
      s.performAll (c :: calls) = (.error e :: (s.performAll calls).1, (s.performAll calls).2) := by
  refine ⟨?_, ?_, ?_⟩
  · obtain ⟨s, hs, h⟩ := MemoryStore.follows_performAll calls
    simpa [hs] using h.recalls
  · intro hc
    obtain ⟨s, hs, h⟩ := DiskStore.follows_performAll hc
    simpa [hs] using h.recalls
  · intro s c e h
    simp only [Store.performAll, h, Store.perform_error h]

/-- A ticket that one task of one tracker has been seen for. -/
def Ticket.ofTask (id tracker task : String) : Ticket :=
  { id, variations := Dict.empty.insert tracker ⟨task, {}⟩ }

/-- A locator moves from one ticket to another, which then gives it up. -/
def handover : List StoreCall :=
  [.createTicket "a" (.ofTask "" "github" "5"), .createTicket "b" (.ofTask "" "github" "5"),
    .updateTicket { id := "b" }]

theorem handover_slashFree : ∀ c ∈ handover, c ≠ .reopen ∧ c.SlashFree := by
  simp [handover, StoreCall.SlashFree, Ticket.SlashFree, Ticket.ofTask, Dict.keys, Dict.insert,
    Dict.empty, Dict.put]

theorem handover_recalled :
    (∀ c ∈ handover, c ≠ .reopen ∧ c.SlashFree) ∧
    (Store.disk {}).history handover =
      [.ofTask "a" "github" "5", .ofTask "b" "github" "5", { id := "b" }] ∧
    ((Store.disk {}).performAll handover).2.Recalls ((Store.disk {}).history handover)
      Locator.SlashFree :=
  ⟨handover_slashFree, rfl, (tickets_are_found_by_last_writes handover).2.1 handover_slashFree⟩

end TicketSync
