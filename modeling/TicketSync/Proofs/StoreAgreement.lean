import TicketSync.Proofs.FrameCodec
import TicketSync.Proofs.InstantText
import TicketSync.Proofs.LocatorLaw

/-! # The two stores give the same answers

A store in memory and one on disk that start empty and are asked the same hold the same tickets and
the same subscriptions. The tickets agree since both stores follow one history; the subscriptions
on disk are the records of those in memory, entry by entry. Closing and opening the store on disk
changes nothing, since its file reads back as the same tables. -/
namespace TicketSync

/-! ### The file of a store -/

theorem Dict.map_self {α : Type} (d : Dict α) : d.map (fun v => v) = d := by
  apply Dict.ext
  exact List.map_id _

namespace DiskStore

/-- The most brackets inside a record of a table. -/
def recordDepth : Nat := Json.maxDepth - 2

/-- Tables whose records are not nested too deep for the file. -/
structure Fits (s : DiskStore) : Prop where
  tickets : ∀ id v, s.tickets.get? id = some v → v.Fits recordDepth
  subscriptions : ∀ id v, s.subscriptions.get? id = some v → v.Fits recordDepth

theorem fits_table {d : Dict Json} (h : ∀ k v, d.get? k = some v → v.Fits recordDepth) :
    (Json.ofDict d).Fits (recordDepth + 1) := by
  rw [Json.ofDict, Json.Fits, Json.fieldsFit_iff]
  intro e he
  exact h e.1 e.2 ((d.mem_entries_iff e.1 e.2).mp he)

theorem load_save {s : DiskStore} (h : s.Fits) : load s.save = .ok s := by
  have hfits : s.toJson.Fits Json.maxDepth := by
    have htickets := fits_table h.tickets
    have hsubscriptions := fits_table h.subscriptions
    have hindex := Json.fits_ofTexts s.index recordDepth
    show (Json.obj _).Fits (recordDepth + 1 + 1)
    simp [Json.Fits, Json.FieldsFit, htickets, hsubscriptions, hindex]
  have htable : ∀ d : Dict Json, Json.asDict .ok (.ofDict d) = .ok d := by
    intro d
    have hread := @Json.asDict_ofDict _ .ok (fun v => v) (fun _ => rfl) d
    rwa [d.map_self] at hread
  have hread : ofJson? s.toJson = .ok s := by
    simp [ofJson?, toJson, Json.record, Json.repeats, Json.required, Dict.find, htable,
      Json.asDict_ofTexts, bind, Except.bind, pure, Except.pure]
  simp [load, save, Json.read?, Json.toText, Json.readChars?_print hfits, hread]

end DiskStore

/-! ### The order of lists -/

namespace Subscription

/-- The order of lists, on the three numbers and texts that it looks at. -/
theorem not_listedBefore_iff (x y : Subscription) :
    (!y.listedBefore x) = true ↔
      x.createdAt.seconds < y.createdAt.seconds ∨
      x.createdAt.seconds = y.createdAt.seconds ∧ (x.createdAt.nanos < y.createdAt.nanos ∨
        x.createdAt.nanos = y.createdAt.nanos ∧ x.id ≤ y.id) := by
  have hdate : y.createdAt = x.createdAt ↔
      y.createdAt.seconds = x.createdAt.seconds ∧ y.createdAt.nanos = x.createdAt.nanos := by
    cases y.createdAt
    cases x.createdAt
    simp
  simp only [listedBefore, Instant.before, Bool.not_eq_true', Bool.or_eq_false_iff,
    Bool.and_eq_false_iff, decide_eq_false_iff_not, hdate, String.not_lt]
  grind

theorem listed_trans (x y z : Subscription) (hxy : (!y.listedBefore x) = true)
    (hyz : (!z.listedBefore y) = true) : (!z.listedBefore x) = true := by
  rw [not_listedBefore_iff] at *
  have htrans : x.id ≤ y.id → y.id ≤ z.id → x.id ≤ z.id := String.le_trans
  grind

theorem listed_total (x y : Subscription) :
    (!y.listedBefore x || !x.listedBefore y) = true := by
  rw [Bool.or_eq_true, not_listedBefore_iff, not_listedBefore_iff]
  have htotal : x.id ≤ y.id ∨ y.id ≤ x.id := String.le_total x.id y.id
  grind

theorem id_eq_of_listed {x y : Subscription} (hxy : (!y.listedBefore x) = true)
    (hyx : (!x.listedBefore y) = true) : x.id = y.id := by
  rw [not_listedBefore_iff] at *
  apply String.le_antisymm <;> grind

end Subscription

/-- A list of subscriptions with different ids does not depend on the order in which they are read. -/
theorem listed_perm {rows rows' : List Subscription} (hperm : rows'.Perm rows)
    (hids : ∀ x ∈ rows, ∀ y ∈ rows, x.id = y.id → x = y) (tracker : Option String) :
    listed tracker rows' = listed tracker rows := by
  have hsorted : ∀ l : List Subscription,
      (l.mergeSort fun a b => !b.listedBefore a).Pairwise fun a b => (!b.listedBefore a) = true :=
    List.pairwise_mergeSort Subscription.listed_trans Subscription.listed_total
  refine List.Perm.eq_of_pairwise ?_ (hsorted _) (hsorted _) ?_
  · intro x y hx hy hxy hyx
    rw [listed, List.mem_mergeSort] at hx hy
    exact hids x (hperm.subset (List.mem_filter.mp hx).1) y (List.mem_filter.mp hy).1
      (Subscription.id_eq_of_listed hxy hyx)
  · exact (List.mergeSort_perm _ _).trans
      ((hperm.filter _).trans (List.mergeSort_perm _ _).symm)

/-! ### One operation -/

namespace Dict

variable {α β : Type}

theorem map_insert (f : α → β) (d : Dict α) (k : String) (v : α) :
    (d.insert k v).map f = (d.map f).insert k (f v) := by
  apply ext_get?
  intro k'
  by_cases hk : k = k' <;> simp [get?_insert, hk]

theorem map_erase (f : α → β) (d : Dict α) (k : String) :
    (d.erase k).map f = (d.map f).erase k := by
  apply ext_get?
  intro k'
  by_cases hk : k = k' <;> simp [get?_erase, hk]

theorem contains_map (f : α → β) (d : Dict α) (k : String) :
    (d.map f).contains k = d.contains k := by
  simp [contains]

end Dict

/-- A store in memory and one on disk that hold the same: both follow one history of tickets, and
each subscription in memory, under its own id, stands on disk as its record. -/
structure MemoryStore.Agrees (m : MemoryStore) (d : DiskStore) (past : List Ticket) : Prop where
  memory : m.Follows past
  disk : d.Follows past
  records : d.subscriptions = m.subscriptions.map Subscription.toJson
  dated : ∀ id x, m.subscriptions.get? id = some x → x.Dated
  ids : ∀ id x, m.subscriptions.get? id = some x → x.id = id

namespace MemoryStore.Agrees

variable {m : MemoryStore} {d : DiskStore} {past : List Ticket}

theorem empty : Agrees {} {} [] :=
  ⟨follows_empty, DiskStore.follows_empty, rfl, by simp, by simp⟩

theorem putTicket (h : m.Agrees d past) {t : Ticket} (ht : t.SlashFree) :
    (m.putTicket t).Agrees (d.putTicket t (lastOf past t.id)) (t :: past) where
  memory := h.memory.putTicket t
  disk := h.disk.putTicket ht
  records := h.records
  dated := h.dated
  ids := h.ids

theorem putSubscription (h : m.Agrees d past) {x : Subscription} (hx : x.Dated) :
    Agrees { m with subscriptions := m.subscriptions.insert x.id x }
      { d with subscriptions := d.subscriptions.insert x.id x.toJson } past where
  memory := ⟨h.memory.tickets, h.memory.distinct, h.memory.index⟩
  disk := ⟨h.disk.tickets, h.disk.slashFree, h.disk.index⟩
  records := by rw [h.records, Dict.map_insert]
  dated id y := by
    rw [Dict.get?_insert]
    split
    · rintro ⟨⟩
      exact hx
    · exact h.dated id y
  ids id y := by
    rw [Dict.get?_insert]
    split
    · rintro ⟨⟩
      assumption
    · exact h.ids id y

theorem eraseSubscription (h : m.Agrees d past) (id : String) :
    Agrees { m with subscriptions := m.subscriptions.erase id }
      { d with subscriptions := d.subscriptions.erase id } past where
  memory := ⟨h.memory.tickets, h.memory.distinct, h.memory.index⟩
  disk := ⟨h.disk.tickets, h.disk.slashFree, h.disk.index⟩
  records := by rw [h.records, Dict.map_erase]
  dated k x := by
    rw [Dict.get?_erase]
    split
    · simp
    · exact h.dated k x
  ids k x := by
    rw [Dict.get?_erase]
    split
    · simp
    · exact h.ids k x

theorem contains_subscriptions (h : m.Agrees d past) (id : String) :
    d.subscriptions.contains id = m.subscriptions.contains id := by
  rw [h.records, Dict.contains_map]

theorem readRecord_eq (h : m.Agrees d past) {id : String} {x : Subscription}
    (hx : m.subscriptions.get? id = some x) :
    DiskStore.readRecord Subscription.ofJson? x.toJson = .ok x := by
  simp [DiskStore.readRecord, Subscription.ofJson?_toJson (h.dated id x hx)]

theorem getSubscription_eq (h : m.Agrees d past) (id : String) :
    m.getSubscription id = d.getSubscription id := by
  rw [MemoryStore.getSubscription, DiskStore.getSubscription, h.records, Dict.get?_map]
  cases hx : m.subscriptions.get? id with
  | none => rfl
  | some x => exact (h.readRecord_eq hx).symm

theorem listSubscriptions_eq (h : m.Agrees d past) (tracker : Option String) :
    m.listSubscriptions tracker = d.listSubscriptions tracker := by
  have hread : ∀ x ∈ m.subscriptions.values,
      DiskStore.readRecord Subscription.ofJson? x.toJson = .ok x := by
    intro x hx
    obtain ⟨e, he, rfl⟩ := List.mem_map.mp hx
    exact h.readRecord_eq ((m.subscriptions.mem_entries_iff e.1 e.2).mp he)
  have hvalues : d.subscriptions.values = m.subscriptions.values.map Subscription.toJson := by
    simp [h.records, Dict.values, Dict.map, Function.comp_def]
  simp [MemoryStore.listSubscriptions, DiskStore.listSubscriptions, hvalues,
    mapM_ok_of_left_inverse hread, bind, Except.bind, pure, Except.pure]

theorem eq_of_id_eq (h : m.Agrees d past) {x y : Subscription} (hx : x ∈ m.subscriptions.values)
    (hy : y ∈ m.subscriptions.values) (hid : x.id = y.id) : x = y := by
  have hstored : ∀ z ∈ m.subscriptions.values, m.subscriptions.get? z.id = some z := by
    intro z hz
    obtain ⟨e, he, rfl⟩ := List.mem_map.mp hz
    have hget := (m.subscriptions.mem_entries_iff e.1 e.2).mp he
    rwa [h.ids e.1 e.2 hget]
  have hboth := hstored x hx
  rw [hid, hstored y hy] at hboth
  exact (Option.some.inj hboth).symm

theorem disk_fits (h : m.Agrees d past) : d.Fits where
  tickets id v hv := by
    rw [h.disk.tickets] at hv
    obtain ⟨t, -, rfl⟩ := Option.map_eq_some_iff.mp hv
    exact t.fits_toJson _
  subscriptions id v hv := by
    rw [h.records, Dict.get?_map] at hv
    obtain ⟨x, -, rfl⟩ := Option.map_eq_some_iff.mp hv
    exact x.fits_toJson _

end MemoryStore.Agrees

namespace StoreCall

/-- The id that an operation gives to a new ticket. -/
def ticketCreated? : StoreCall → Option String
  | createTicket id _ => some id
  | _ => none

/-- An operation that names no tracker with a slash in tickets or queries for them, and stores no
subscription with a time that no clock shows. -/
def Portable : StoreCall → Prop
  | createTicket _ t => t.SlashFree
  | updateTicket t => t.SlashFree
  | getTicket (.locator l) => l.SlashFree
  | createSubscription _ x => x.createdAt.Valid
  | updateSubscription x => x.createdAt.Valid
  | _ => True

end StoreCall

namespace MemoryStore.Agrees

variable {m : MemoryStore} {d : DiskStore} {past : List Ticket}

/-- An operation that only reads, and reads the same from both stores. -/
theorem read {α : Type} (h : m.Agrees d past) {r r' : Outcome α} (hr : r = r')
    (reply : α → StoreReply) :
    ((Store.memory m).settle r fun x => (reply x, .memory m)).1 =
      ((Store.disk d).settle r' fun x => (reply x, .disk d)).1 ∧
    ∃ m' d', ((Store.memory m).settle r fun x => (reply x, .memory m)).2 = .memory m' ∧
      ((Store.disk d).settle r' fun x => (reply x, .disk d)).2 = .disk d' ∧ m'.Agrees d' past := by
  subst hr
  cases r <;> exact ⟨rfl, _, _, rfl, rfl, h⟩

/-- Two stores that agree answer an operation alike and agree after it, unless it gives a new ticket
an id that was written before. -/
theorem perform (h : m.Agrees d past) {c : StoreCall} (hc : c.Portable)
    (hfresh : ∀ id ∈ c.ticketCreated?, lastOf past id = none) :
    ((Store.memory m).perform c).1 = ((Store.disk d).perform c).1 ∧
    ∃ m' d', ((Store.memory m).perform c).2 = .memory m' ∧
      ((Store.disk d).perform c).2 = .disk d' ∧
      m'.Agrees d' ((c.written? ((Store.memory m).perform c).1).toList ++ past) := by
  cases c with
  | createTicket id t =>
    have hnone : lastOf past id = none := hfresh id rfl
    have hput := @putTicket _ _ _ h { t with id } hc
    simp only [hnone] at hput
    simp only [Store.perform, Store.createTicket, h.disk.createTicket_eq, hnone]
    exact ⟨rfl, _, _, rfl, rfl, hput⟩
  | updateTicket t =>
    have hcontains : m.tickets.contains t.id = (lastOf past t.id).isSome := by
      rw [Dict.contains, h.memory.tickets]
    simp only [Store.perform, Store.updateTicket, MemoryStore.updateTicket,
      h.disk.updateTicket_eq, hcontains]
    split
    · exact ⟨rfl, _, _, rfl, rfl, h.putTicket hc⟩
    · exact ⟨rfl, _, _, rfl, rfl, h⟩
  | getTicket q =>
    have hanswer : m.getTicket q = d.getTicket q := by
      cases q with
      | id id => rw [h.memory.getTicket_id, h.disk.getTicket_id]
      | locator l => rw [h.memory.getTicket_locator, h.disk.getTicket_locator hc]
    exact h.read hanswer .ticket
  | createSubscription id x =>
    have hx : ({ x with id } : Subscription).Dated := Instant.parse?_toText hc
    exact ⟨rfl, _, _, rfl, rfl, h.putSubscription hx⟩
  | updateSubscription x =>
    have hx : x.Dated := Instant.parse?_toText hc
    simp only [Store.perform, Store.updateSubscription, MemoryStore.updateSubscription,
      DiskStore.updateSubscription, h.contains_subscriptions]
    split
    · exact ⟨rfl, _, _, rfl, rfl, h.putSubscription hx⟩
    · exact ⟨rfl, _, _, rfl, rfl, h⟩
  | getSubscription id => exact h.read (h.getSubscription_eq id) .subscription
  | deleteSubscription id =>
    simp only [Store.perform, Store.deleteSubscription, MemoryStore.deleteSubscription,
      DiskStore.deleteSubscription, h.contains_subscriptions]
    split
    · exact ⟨rfl, _, _, rfl, rfl, h.eraseSubscription id⟩
    · exact ⟨rfl, _, _, rfl, rfl, h⟩
  | listSubscriptions tracker => exact h.read (h.listSubscriptions_eq tracker) .subscriptions
  | reopen =>
    simp only [Store.perform, Store.reopen, DiskStore.load_save h.disk_fits]
    exact ⟨rfl, _, _, rfl, rfl, h⟩

end MemoryStore.Agrees

/-! ### Any number of operations -/

/-- What is written has the id of the new ticket or one that was written before. -/
theorem MemoryStore.Follows.written_id {m : MemoryStore} {past : List Ticket} (h : m.Follows past)
    {c : StoreCall} {t : Ticket} (ht : c.written? ((Store.memory m).perform c).1 = some t) :
    c.ticketCreated? = some t.id ∨ lastOf past t.id ≠ none := by
  cases c with
  | createTicket id u =>
    obtain rfl := Option.some.inj ht
    exact .inl rfl
  | updateTicket u =>
    refine .inr ?_
    by_cases hcontains : m.tickets.contains u.id = true
    · simp only [Store.perform, Store.updateTicket, updateTicket, hcontains] at ht
      obtain rfl := Option.some.inj ht
      rw [Dict.contains, h.tickets] at hcontains
      exact Option.isSome_iff_ne_none.mp hcontains
    · simp [Store.perform, Store.updateTicket, updateTicket, hcontains, Except.map, Store.settle,
        StoreCall.written?] at ht
  | _ => simp [StoreCall.written?] at ht

/-- An id that was fresh is still fresh after an operation that does not give it to a ticket. -/
theorem MemoryStore.Follows.fresh_after {m : MemoryStore} {past : List Ticket} (h : m.Follows past)
    {c : StoreCall} {id : String} (hfresh : lastOf past id = none) (hid : id ∉ c.ticketCreated?) :
    lastOf ((c.written? ((Store.memory m).perform c).1).toList ++ past) id = none := by
  cases ht : c.written? ((Store.memory m).perform c).1 with
  | none => exact hfresh
  | some t =>
    have hne : t.id ≠ id := by
      rintro rfl
      rcases h.written_id ht with hnew | hold
      · exact hid hnew
      · exact hold hfresh
    simpa [lastOf_cons, hne] using hfresh

namespace MemoryStore.Agrees

variable {m : MemoryStore} {d : DiskStore} {past : List Ticket}

theorem performAll (h : m.Agrees d past) {calls : List StoreCall} (hc : ∀ c ∈ calls, c.Portable)
    (hfresh : (calls.filterMap StoreCall.ticketCreated?).Nodup)
    (hpast : ∀ id ∈ calls.filterMap StoreCall.ticketCreated?, lastOf past id = none) :
    ((Store.memory m).performAll calls).1 = ((Store.disk d).performAll calls).1 ∧
    ∃ m' d' past', ((Store.memory m).performAll calls).2 = .memory m' ∧
      ((Store.disk d).performAll calls).2 = .disk d' ∧ m'.Agrees d' past' := by
  induction calls generalizing m d past with
  | nil => exact ⟨rfl, m, d, past, rfl, rfl, h⟩
  | cons c calls ih =>
    have hone : ∀ id ∈ c.ticketCreated?, lastOf past id = none := by
      intro id hid
      exact hpast id (List.mem_filterMap.mpr ⟨c, List.mem_cons_self, hid⟩)
    obtain ⟨hanswer, m', d', hm, hd, hagrees⟩ := h.perform (hc c List.mem_cons_self) hone
    have hlater : ∀ id ∈ calls.filterMap StoreCall.ticketCreated?, id ∉ c.ticketCreated? := by
      intro id hid hnew
      rw [List.filterMap_cons_some hnew] at hfresh
      exact (List.nodup_cons.mp hfresh).1 hid
    have hrest : ∀ id ∈ calls.filterMap StoreCall.ticketCreated?,
        lastOf ((c.written? ((Store.memory m).perform c).1).toList ++ past) id = none := by
      intro id hid
      obtain ⟨c', hc', hid'⟩ := List.mem_filterMap.mp hid
      have hbefore := hpast id (List.mem_filterMap.mpr ⟨c', List.mem_cons_of_mem _ hc', hid'⟩)
      exact h.memory.fresh_after hbefore (hlater id hid)
    have hnodup := hfresh.sublist ((List.sublist_cons_self c calls).filterMap _)
    obtain ⟨hanswers, hstores⟩ :=
      ih hagrees (fun c' hc' => hc c' (List.mem_cons_of_mem _ hc')) hnodup hrest
    simp only [Store.performAll, hm, hd, hanswer, hanswers, true_and]
    exact hstores

end MemoryStore.Agrees

/-- Asked the same from the start, with fresh ids for new tickets, both stores give the same
answers, also where the one on disk is closed and opened again in between. Rows in memory are in no
order, and whichever order they are read in, they are listed alike. -/
theorem stores_answer_alike (calls : List StoreCall) (hc : ∀ c ∈ calls, c.Portable)
    (hfresh : (calls.filterMap StoreCall.ticketCreated?).Nodup) :
    ((Store.memory {}).performAll calls).1 = ((Store.disk {}).performAll calls).1 ∧
    ∃ m, ((Store.memory {}).performAll calls).2 = .memory m ∧
      ∀ tracker rows, rows.Perm m.subscriptions.values →
        listed tracker rows = listed tracker m.subscriptions.values := by
  obtain ⟨hanswers, m, d, past, hm, -, hagrees⟩ :=
    MemoryStore.Agrees.empty.performAll hc hfresh fun _ _ => rfl
  refine ⟨hanswers, m, hm, ?_⟩
  intro tracker rows hperm
  exact listed_perm hperm (fun x hx y hy => hagrees.eq_of_id_eq hx hy) tracker

/-- A ticket is found and a subscription is listed after the store was closed and opened. -/
def reopened : List StoreCall :=
  [.createTicket "a" (.ofTask "" "github" "5"), .reopen, .getTicket (.locator ⟨"github", "5"⟩),
    .createSubscription "s"
      { trackerName := "github", triggerName := "opened", baseUrl := "http://localhost",
        createdAt := ⟨0, 0⟩ },
    .reopen, .listSubscriptions (some "github"), .deleteSubscription "t"]

theorem reopened_portable : ∀ c ∈ reopened, c.Portable := by
  have hstart : Instant.Valid ⟨0, 0⟩ := ⟨by decide, by decide, .inl (by decide)⟩
  simp [reopened, StoreCall.Portable, Ticket.SlashFree, Locator.SlashFree, Ticket.ofTask, Dict.keys,
    Dict.insert, Dict.empty, Dict.put, hstart]

theorem reopened_answered :
    (∀ c ∈ reopened, c.Portable) ∧ (reopened.filterMap StoreCall.ticketCreated?).Nodup ∧
    ((Store.memory {}).performAll reopened).1 = ((Store.disk {}).performAll reopened).1 ∧
    ((Store.memory {}).performAll reopened).1.length = 7 :=
  ⟨reopened_portable, by decide,
    (stores_answer_alike reopened reopened_portable (by decide)).1, rfl⟩

end TicketSync
