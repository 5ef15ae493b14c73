import TicketSync.Proofs.RunAtomicity
import TicketSync.Proofs.ScriptQuestions
import TicketSync.Proofs.StoreAgreement

/-! # The subscriptions of a store

Both stores keep a table of subscriptions by id, of which a row can be read or not. Each operation
is one change of this table, and every other question of the engine leaves it alone. -/
namespace TicketSync

theorem Subscription.ofJson?_toJson_eq (x : Subscription) :
    ofJson? x.toJson =
      (asInstant (.str x.createdAt.toText)).map fun createdAt => { x with createdAt } := by
  obtain ⟨id, ref, tracker, trigger, base, created⟩ := x
  cases hdate : asInstant (.str created.toText) <;> cases ref <;>
    simp [ofJson?, toJson, plainFields, Json.record, Json.repeats, Json.required, Json.optional,
      Dict.find, Json.asText, Json.asOption, Except.map, hdate, bind, Except.bind, pure, Except.pure]

namespace Store

/-- The table of subscriptions, with what each row is read as. -/
def rows : Store → Dict (Outcome Subscription)
  | memory m => m.subscriptions.map .ok
  | disk d => d.subscriptions.map (DiskStore.readRecord Subscription.ofJson?)

/-- What a subscription is read as after it was written. -/
def readBack : Store → Subscription → Outcome Subscription
  | memory _, x => .ok x
  | disk _, x => DiskStore.readRecord Subscription.ofJson? x.toJson

/-- Every row that can be read holds a subscription under its own id. -/
def Keyed (s : Store) : Prop := ∀ id x, s.rows.get? id = some (.ok x) → x.id = id

variable {s s' : Store}

theorem readBack_id {x y : Subscription} (h : s.readBack x = .ok y) : y.id = x.id := by
  cases s with
  | memory m =>
    cases h
    rfl
  | disk d =>
    simp only [readBack, DiskStore.readRecord, Subscription.ofJson?_toJson_eq] at h
    cases hdate : Subscription.asInstant (.str x.createdAt.toText) with
    | ok createdAt =>
      simp only [hdate, Except.map, Except.ok.injEq] at h
      rw [← h]
    | error e => simp [hdate, Except.map] at h

theorem readBack_of_valid {x : Subscription} (h : x.createdAt.Valid) : s.readBack x = .ok x := by
  cases s with
  | memory m => rfl
  | disk d =>
    have hread : Subscription.ofJson? x.toJson = .ok x :=
      Subscription.ofJson?_toJson (Instant.parse?_toText h)
    simp [readBack, DiskStore.readRecord, hread]

theorem getSubscription_eq (s : Store) (id : String) :
    s.getSubscription id = (s.rows.get? id).getD (.error (subscriptionNotFound id)) := by
  cases s with
  | memory m =>
    simp only [getSubscription, MemoryStore.getSubscription, rows, Dict.get?_map]
    cases m.subscriptions.get? id <;> rfl
  | disk d =>
    simp only [getSubscription, DiskStore.getSubscription, rows, Dict.get?_map]
    cases d.subscriptions.get? id <;> rfl

theorem getSubscription_eq_ok_iff {id : String} {x : Subscription} :
    s.getSubscription id = .ok x ↔ s.rows.get? id = some (.ok x) := by
  rw [getSubscription_eq]
  cases s.rows.get? id <;> simp

theorem getSubscription_eq_notFound_iff {id : String} :
    s.getSubscription id = .error (subscriptionNotFound id) ↔ s.rows.get? id = none := by
  rw [getSubscription_eq]
  cases hrow : s.rows.get? id with
  | none => simp
  | some r =>
    have hfound : r ≠ .error (subscriptionNotFound id) := by
      cases s with
      | memory m =>
        obtain ⟨x, -, rfl⟩ := Option.map_eq_some_iff.mp ((Dict.get?_map _ _ _).symm.trans hrow)
        simp
      | disk d =>
        obtain ⟨v, -, rfl⟩ := Option.map_eq_some_iff.mp ((Dict.get?_map _ _ _).symm.trans hrow)
        cases hread : Subscription.ofJson? v <;>
          simp [DiskStore.readRecord, hread, DiskStore.unreadable, subscriptionNotFound]
    simp [hfound]

/-- Subscriptions are listed only when all rows can be read, and then those that the filter admits. -/
theorem values_of_listSubscriptions {tracker : Option String} {xs : List Subscription}
    (h : s.listSubscriptions tracker = .ok xs) :
    ∃ ys : List Subscription, s.rows.values = ys.map .ok ∧
      xs.Perm (ys.filter fun x => tracker.all (· = x.trackerName)) := by
  have hlisted : ∀ ys : List Subscription,
      (listed tracker ys).Perm (ys.filter fun x => tracker.all (· = x.trackerName)) :=
    fun ys => List.mergeSort_perm _ _
  cases s with
  | memory m =>
    simp only [listSubscriptions, MemoryStore.listSubscriptions, Except.ok.injEq] at h
    refine ⟨m.subscriptions.values, ?_, h ▸ hlisted _⟩
    simp [rows, Dict.values, Dict.map, Function.comp_def]
  | disk d =>
    cases hvalues : d.subscriptions.values.mapM (DiskStore.readRecord Subscription.ofJson?) with
    | error f =>
      simp [listSubscriptions, DiskStore.listSubscriptions, hvalues, bind, Except.bind] at h
    | ok ys =>
      simp only [listSubscriptions, DiskStore.listSubscriptions, hvalues, bind, Except.bind, pure,
        Except.pure, Except.ok.injEq] at h
      refine ⟨ys, ?_, h ▸ hlisted _⟩
      rw [← map_eq_of_mapM_eq_ok hvalues]
      simp [rows, Dict.values, Dict.map, Function.comp_def]

/-- The row of a value, which stands under the value's id. -/
theorem get?_of_mem_values (hkeyed : s.Keyed) {x : Subscription} (hx : .ok x ∈ s.rows.values) :
    s.rows.get? x.id = some (.ok x) := by
  obtain ⟨⟨k, r⟩, hentry, hr⟩ := List.mem_map.mp hx
  have hget := (s.rows.mem_entries_iff k r).mp hentry
  obtain rfl : r = .ok x := hr
  rwa [hkeyed k x hget]

/-- A subscription that is listed is stored. -/
theorem get?_of_listSubscriptions {tracker : Option String} {xs : List Subscription}
    (h : s.listSubscriptions tracker = .ok xs) (hkeyed : s.Keyed) {x : Subscription} (hx : x ∈ xs) :
    s.rows.get? x.id = some (.ok x) := by
  obtain ⟨ys, hvalues, hperm⟩ := values_of_listSubscriptions h
  have hy : x ∈ ys := (List.mem_filter.mp (hperm.mem_iff.mp hx)).1
  exact get?_of_mem_values hkeyed (hvalues ▸ List.mem_map_of_mem hy)

theorem mem_rows_of_listSubscriptions {xs : List Subscription}
    (h : s.listSubscriptions none = .ok xs) (hkeyed : s.Keyed) (id : String)
    (r : Outcome Subscription) : s.rows.get? id = some r ↔ ∃ x ∈ xs, x.id = id ∧ r = .ok x := by
  constructor
  · intro hget
    obtain ⟨ys, hvalues, hperm⟩ := values_of_listSubscriptions h
    have hmem : r ∈ s.rows.values :=
      List.mem_map.mpr ⟨(id, r), (s.rows.mem_entries_iff id r).mpr hget, rfl⟩
    obtain ⟨x, hx, rfl⟩ := List.mem_map.mp (hvalues ▸ hmem)
    exact ⟨x, hperm.mem_iff.mpr (by simpa using hx), hkeyed id x hget, rfl⟩
  · rintro ⟨x, hx, rfl, rfl⟩
    exact get?_of_listSubscriptions h hkeyed hx

theorem keys_eq_of_values_eq {es : List (String × Outcome Subscription)} {ys : List Subscription}
    (hvalues : es.map (·.2) = ys.map .ok) (hkeys : ∀ e ∈ es, ∀ x, e.2 = .ok x → x.id = e.1) :
    es.map (·.1) = ys.map (·.id) := by
  induction es generalizing ys with
  | nil =>
    obtain rfl := List.map_eq_nil_iff.mp hvalues.symm
    rfl
  | cons e es ih =>
    cases ys with
    | nil => simp at hvalues
    | cons y ys =>
      obtain ⟨hy, hrest⟩ := List.cons.inj hvalues
      have hfirst := hkeys e List.mem_cons_self y hy
      have htail := ih hrest fun e he => hkeys e (List.mem_cons_of_mem _ he)
      simp [hfirst, htail]

/-- No two subscriptions that are listed have one id. -/
theorem pairwise_of_listSubscriptions {tracker : Option String} {xs : List Subscription}
    (h : s.listSubscriptions tracker = .ok xs) (hkeyed : s.Keyed) :
    xs.Pairwise fun x y => x.id ≠ y.id := by
  obtain ⟨ys, hvalues, hperm⟩ := values_of_listSubscriptions h
  refine hperm.symm.pairwise (List.Pairwise.filter _ ?_) fun hxy => Ne.symm hxy
  have hentries : s.rows.entries.map (·.1) = ys.map (·.id) := by
    apply keys_eq_of_values_eq hvalues
    intro e he x hx
    exact hkeyed e.1 x (hx ▸ (s.rows.mem_entries_iff e.1 e.2).mp he)
  have hdistinct : (s.rows.entries.map (·.1)).Pairwise (· ≠ ·) :=
    List.pairwise_map.mpr s.rows.pairwise_ne
  rw [hentries] at hdistinct
  exact List.pairwise_map.mp hdistinct

/-! ### Operations -/

theorem rows_createSubscription {id id' : String} {x : Subscription}
    (h : s.createSubscription id x = .ok (id', s')) :
    id' = id ∧ s'.rows = s.rows.insert id (s.readBack { x with id }) ∧
      (∀ q, s'.getTicket q = s.getTicket q) ∧ ∀ x, s'.readBack x = s.readBack x := by
  cases s with
  | memory m =>
    obtain ⟨rfl, rfl⟩ := Prod.mk.inj (Except.ok.inj h)
    exact ⟨rfl, Dict.map_insert _ _ _ _, fun _ => rfl, fun _ => rfl⟩
  | disk d =>
    obtain ⟨rfl, rfl⟩ := Prod.mk.inj (Except.ok.inj h)
    exact ⟨rfl, Dict.map_insert _ _ _ _, fun _ => rfl, fun _ => rfl⟩

theorem rows_updateSubscription {x : Subscription} (h : s.updateSubscription x = .ok s') :
    s.rows.contains x.id = true ∧ s'.rows = s.rows.insert x.id (s.readBack x) ∧
      (∀ q, s'.getTicket q = s.getTicket q) ∧ ∀ x, s'.readBack x = s.readBack x := by
  cases s with
  | memory m =>
    simp only [updateSubscription, MemoryStore.updateSubscription] at h
    split at h
    · next hrow =>
      cases h
      exact ⟨(Dict.contains_map _ _ _).trans hrow, Dict.map_insert _ _ _ _, fun _ => rfl,
        fun _ => rfl⟩
    · cases h
  | disk d =>
    simp only [updateSubscription, DiskStore.updateSubscription] at h
    split at h
    · next hrow =>
      cases h
      exact ⟨(Dict.contains_map _ _ _).trans hrow, Dict.map_insert _ _ _ _, fun _ => rfl,
        fun _ => rfl⟩
    · cases h

theorem rows_deleteSubscription {id : String} (h : s.deleteSubscription id = .ok s') :
    s'.rows = s.rows.erase id ∧ (∀ q, s'.getTicket q = s.getTicket q) ∧
      ∀ x, s'.readBack x = s.readBack x := by
  cases s with
  | memory m =>
    simp only [deleteSubscription, MemoryStore.deleteSubscription] at h
    split at h
    · cases h
      exact ⟨Dict.map_erase _ _ _, fun _ => rfl, fun _ => rfl⟩
    · cases h
  | disk d =>
    simp only [deleteSubscription, DiskStore.deleteSubscription] at h
    split at h
    · cases h
      exact ⟨Dict.map_erase _ _ _, fun _ => rfl, fun _ => rfl⟩
    · cases h

/-- Writing a ticket leaves the subscriptions alone. -/
theorem Puts.rows {t : Ticket} (h : Puts t s s') :
    s'.rows = s.rows ∧ ∀ x, s'.readBack x = s.readBack x := by
  cases h with
  | memory m => exact ⟨rfl, fun _ => rfl⟩
  | disk d previous => exact ⟨rfl, fun _ => rfl⟩

/-- Every store that is reached from the start is keyed. -/
theorem keyed_performAll {calls : List StoreCall} (hc : ∀ c ∈ calls, c.Portable)
    (hfresh : (calls.filterMap StoreCall.ticketCreated?).Nodup) :
    ((memory {}).performAll calls).2.Keyed ∧ ((disk {}).performAll calls).2.Keyed := by
  obtain ⟨-, m, d, past, hm, hd, hagrees⟩ :=
    MemoryStore.Agrees.empty.performAll hc hfresh fun _ _ => rfl
  rw [hm, hd]
  constructor
  · intro id x hx
    rw [rows, Dict.get?_map] at hx
    obtain ⟨y, hy, hyx⟩ := Option.map_eq_some_iff.mp hx
    cases hyx
    exact hagrees.ids id x hy
  · intro id x hx
    rw [rows, hagrees.records, Dict.get?_map, Dict.get?_map] at hx
    obtain ⟨v, hv, hread⟩ := Option.map_eq_some_iff.mp hx
    obtain ⟨y, hy, rfl⟩ := Option.map_eq_some_iff.mp hv
    rw [hagrees.readRecord_eq hy] at hread
    cases hread
    exact hagrees.ids id x hy

end Store

/-! ### Questions of the engine -/

namespace Engine

/-- Whether a question asks for a change of the subscriptions. -/
def Question.writesRows : Question → Bool
  | .createSubscription _ | .updateSubscription _ | .deleteSubscription _ => true
  | _ => false

/-- Whether a question asks for a change of the tickets. -/
def Question.writesTickets : Question → Bool
  | .createTicket _ | .updateTicket _ => true
  | _ => false

/-- Whether an exchange has changed the subscriptions. -/
def wroteRow : Exchange Engine → Bool
  | ⟨.createSubscription _, .ok _⟩ | ⟨.updateSubscription _, .ok _⟩
  | ⟨.deleteSubscription _, .ok _⟩ => true
  | _ => false

theorem wroteRow_of_reads {x : Exchange Engine} (h : x.question.writesRows = false) :
    wroteRow x = false := by
  obtain ⟨q, a⟩ := x
  cases q <;> first | rfl | cases h

namespace World

variable {τ α : Type} {e : Surroundings τ} {w w' : World τ}

/-- Worlds with the same subscriptions and the same faults. -/
structure SameRows (w w' : World τ) : Prop where
  rows : w'.store.rows = w.store.rows
  readBack : ∀ x, w'.store.readBack x = w.store.readBack x
  subscriptions : w'.subscriptions = w.subscriptions
  faults : w'.faults = w.faults

theorem SameRows.refl (w : World τ) : w.SameRows w := ⟨rfl, fun _ => rfl, rfl, rfl⟩

theorem SameRows.trans {w'' : World τ} (h : w.SameRows w') (h' : w'.SameRows w'') :
    w.SameRows w'' :=
  ⟨h'.rows.trans h.rows, fun x => (h'.readBack x).trans (h.readBack x),
    h'.subscriptions.trans h.subscriptions, h'.faults.trans h.faults⟩

theorem sameRows_of_eq (hstore : w'.store = w.store) (hcount : w'.subscriptions = w.subscriptions)
    (hfaults : w'.faults = w.faults) : w.SameRows w' := by
  refine ⟨?_, ?_, hcount, hfaults⟩ <;> simp [hstore]

/-- An operation is made to fail, or it takes place. -/
theorem guarded_elim {p : Outcome α × World τ → Prop} (w : World τ) (op : StoreOperation)
    {run : World τ → Outcome α × World τ} (hfault : p (.error (fault op), w.note (.refused op)))
    (hrun : p (run w)) : p (w.guarded op run) := by
  unfold guarded
  split
  · exact hfault
  · exact hrun

theorem SameRows.guarded (w : World τ) (op : StoreOperation)
    {run : World τ → Outcome α × World τ} (h : w.SameRows (run w).2) :
    w.SameRows (w.guarded op run).2 :=
  guarded_elim (p := fun r => w.SameRows r.2) w op (sameRows_of_eq rfl rfl rfl) h

theorem sameRows_createTicket (t : Ticket) (w : World τ) : w.SameRows (w.createTicket e t).2 := by
  apply SameRows.guarded
  cases hc : w.store.createTicket (e.ticketId (w.tickets + 1)) t with
  | ok r =>
    obtain ⟨hrows, hread⟩ := (Store.puts_of_createTicket hc).2.rows
    exact ⟨hrows, hread, rfl, rfl⟩
  | error f => exact .refl w

theorem sameRows_updateTicket (t : Ticket) (w : World τ) : w.SameRows (w.updateTicket t).2 := by
  apply SameRows.guarded
  cases hc : w.store.updateTicket t with
  | ok store =>
    obtain ⟨hrows, hread⟩ := (Store.puts_of_updateTicket hc).rows
    exact ⟨hrows, hread, rfl, rfl⟩
  | error f => exact sameRows_of_eq rfl rfl rfl

theorem handler_sameRows {q : Question} (hq : q.writesRows = false) (w : World τ) :
    w.SameRows (handler e q w).2 ∧
      ∀ w' : World τ, w'.SameRows ((handler e q w).1.finish w').2 := by
  cases q with
  | isCancelled => exact ⟨.refl w, .refl⟩
  | now => exact ⟨.refl w, .refl⟩
  | condition text u t => exact ⟨.refl w, .refl⟩
  | render vars u t => exact ⟨.refl w, .refl⟩
  | findTicket q => exact ⟨.guarded w _ (.refl w), .refl⟩
  | createTicket t => exact ⟨sameRows_createTicket t w, .refl⟩
  | updateTicket t => exact ⟨sameRows_updateTicket t w, .refl⟩
  | createSubscription x => cases hq
  | updateSubscription x => cases hq
  | findSubscription id => exact ⟨.guarded w _ (.refl w), .refl⟩
  | deleteSubscription id => cases hq
  | listSubscriptions tracker => exact ⟨.guarded w _ (.refl w), .refl⟩
  | isRegistered tracker => exact ⟨.refl w, .refl⟩
  | call tracker r => exact ⟨sameRows_of_eq rfl rfl rfl, fun _ => sameRows_of_eq rfl rfl rfl⟩
  | subscribe tracker r => exact ⟨sameRows_of_eq rfl rfl rfl, fun _ => sameRows_of_eq rfl rfl rfl⟩
  | unsubscribe tracker ref =>
    exact ⟨sameRows_of_eq rfl rfl rfl, fun _ => sameRows_of_eq rfl rfl rfl⟩
  | handleWebhook tracker x r =>
    exact ⟨sameRows_of_eq rfl rfl rfl, fun _ => sameRows_of_eq rfl rfl rfl⟩

/-- Questions that do not ask for a change of the subscriptions do not change them. -/
theorem respects_rows (e : Surroundings τ) :
    (handler e).Respects (fun q => q.writesRows = false) SameRows where
  refl := .refl
  trans := .trans
  asked _ w hq := (handler_sameRows hq w).1
  answered _ w w' hq := (handler_sameRows hq w).2 w'

/-- Worlds in which every query for a ticket has the same answer. -/
def SameTickets (w w' : World τ) : Prop := ∀ q, w'.store.getTicket q = w.store.getTicket q

theorem SameTickets.of_store (h : w'.store = w.store) : w.SameTickets w' := by
  intro q
  rw [h]

theorem sameTickets_guarded (w : World τ) (op : StoreOperation)
    {run : World τ → Outcome α × World τ} (h : w.SameTickets (run w).2) :
    w.SameTickets (w.guarded op run).2 :=
  guarded_elim (p := fun r => w.SameTickets r.2) w op (fun _ => rfl) h

theorem handler_sameTickets {q : Question} (hq : q.writesTickets = false) (w : World τ) :
    w.SameTickets (handler e q w).2 ∧
      ∀ w' : World τ, w'.SameTickets ((handler e q w).1.finish w').2 := by
  by_cases hwrite : q.isWrite = false
  · obtain ⟨hasked, hanswered⟩ := handler_sameStore e hwrite w
    exact ⟨.of_store hasked.store, fun w' => .of_store (hanswered w').store⟩
  · cases q with
    | createSubscription x =>
      refine ⟨sameTickets_guarded w _ ?_, fun _ _ => rfl⟩
      cases hc : w.store.createSubscription (e.subscriptionId (w.subscriptions + 1)) x with
      | ok r => exact (Store.rows_createSubscription hc).2.2.1
      | error f => exact fun _ => rfl
    | updateSubscription x =>
      refine ⟨sameTickets_guarded w _ ?_, fun _ _ => rfl⟩
      cases hc : w.store.updateSubscription x with
      | ok store => exact (Store.rows_updateSubscription hc).2.2.1
      | error f => exact fun _ => rfl
    | deleteSubscription id =>
      refine ⟨sameTickets_guarded w _ ?_, fun _ _ => rfl⟩
      cases hc : w.store.deleteSubscription id with
      | ok store => exact (Store.rows_deleteSubscription hc).2.1
      | error f => exact fun _ => rfl
    | createTicket t => cases hq
    | updateTicket t => cases hq
    | _ => exact absurd rfl hwrite

/-- Questions that do not ask for a change of the tickets do not change them. -/
theorem respects_tickets (e : Surroundings τ) :
    (handler e).Respects (fun q => q.writesTickets = false) SameTickets where
  refl _ _ := rfl
  trans h h' q := (h' q).trans (h q)
  asked _ w hq := (handler_sameTickets hq w).1
  answered _ w w' hq := (handler_sameTickets hq w).2 w'

/-! ### What an exchange does to the subscriptions -/

/-- What an exchange does to the subscriptions: it has created a row, changed one, deleted one, or
left all as they are. -/
inductive RowEffect (e : Surroundings τ) (w w' : World τ) : Option (Exchange Engine) → Prop
  | created (x : Subscription) {id : String} (number : id = e.subscriptionId (w.subscriptions + 1))
      (rows : w'.store.rows = w.store.rows.insert id (w.store.readBack { x with id }))
      (readBack : ∀ x, w'.store.readBack x = w.store.readBack x)
      (count : w'.subscriptions = w.subscriptions + 1) :
      RowEffect e w w' (some ⟨.createSubscription x, .ok id⟩)
  | updated (x : Subscription) (known : w.store.rows.contains x.id = true)
      (rows : w'.store.rows = w.store.rows.insert x.id (w.store.readBack x))
      (readBack : ∀ x, w'.store.readBack x = w.store.readBack x)
      (count : w'.subscriptions = w.subscriptions) :
      RowEffect e w w' (some ⟨.updateSubscription x, .ok ()⟩)
  | deleted (id : String) (rows : w'.store.rows = w.store.rows.erase id)
      (readBack : ∀ x, w'.store.readBack x = w.store.readBack x)
      (count : w'.subscriptions = w.subscriptions) :
      RowEffect e w w' (some ⟨.deleteSubscription id, .ok ()⟩)
  | kept {x? : Option (Exchange Engine)} (same : w.SameRows w')
      (quiet : ∀ x, x? = some x → wroteRow x = false) : RowEffect e w w' x?

theorem RowEffect.refused {q : Question} {a : q.Answer} (same : w.SameRows w')
    (quiet : wroteRow ⟨q, a⟩ = false) : RowEffect e w w' (some ⟨q, a⟩) := by
  refine .kept same ?_
  rintro x ⟨⟩
  exact quiet

theorem rowEffect_createSubscription (x : Subscription) (w : World τ) :
    RowEffect e w (w.createSubscription e x).2
      (some ⟨.createSubscription x, (w.createSubscription e x).1⟩) := by
  refine guarded_elim (p := fun r => RowEffect e w r.2 (some ⟨.createSubscription x, r.1⟩)) w
    .createSubscription (.refused (sameRows_of_eq rfl rfl rfl) rfl) ?_
  cases hc : w.store.createSubscription (e.subscriptionId (w.subscriptions + 1)) x with
  | ok r =>
    obtain ⟨id, store⟩ := r
    obtain ⟨hid, hrows, -, hread⟩ := Store.rows_createSubscription hc
    subst hid
    exact .created x rfl hrows hread rfl
  | error f => exact .refused (.refl w) rfl

theorem rowEffect_updateSubscription (x : Subscription) (w : World τ) :
    RowEffect e w (w.updateSubscription x).2
      (some ⟨.updateSubscription x, (w.updateSubscription x).1⟩) := by
  refine guarded_elim (p := fun r => RowEffect e w r.2 (some ⟨.updateSubscription x, r.1⟩)) w
    .updateSubscription (.refused (sameRows_of_eq rfl rfl rfl) rfl) ?_
  cases hc : w.store.updateSubscription x with
  | ok store =>
    obtain ⟨hknown, hrows, -, hread⟩ := Store.rows_updateSubscription hc
    exact .updated x hknown hrows hread rfl
  | error f => exact .refused (sameRows_of_eq rfl rfl rfl) rfl

theorem rowEffect_deleteSubscription (id : String) (w : World τ) :
    RowEffect e w (w.deleteSubscription id).2
      (some ⟨.deleteSubscription id, (w.deleteSubscription id).1⟩) := by
  refine guarded_elim (p := fun r => RowEffect e w r.2 (some ⟨.deleteSubscription id, r.1⟩)) w
    .deleteSubscription (.refused (sameRows_of_eq rfl rfl rfl) rfl) ?_
  cases hc : w.store.deleteSubscription id with
  | ok store =>
    obtain ⟨hrows, -, hread⟩ := Store.rows_deleteSubscription hc
    exact .deleted id hrows hread rfl
  | error f => exact .refused (sameRows_of_eq rfl rfl rfl) rfl

/-- An answer of the store comes in the turn that asks for it. -/
theorem delay_of_writesRows {q : Question} (hq : q.writesRows = true) (w : World τ) :
    (handler e q w).1.delay = some 0 := by
  cases q <;> first | rfl | cases hq

theorem rowEffect_of_turn {q? : Option (Dialogue.Question Engine)} {x? : Option (Exchange Engine)}
    (h : Task.Turn (handler e) w q? x? w') : RowEffect e w w' x? := by
  have hreads : ∀ q (w : World τ), (handler e q w).1.delay ≠ some 0 → q.writesRows = false := by
    intro q w hslow
    cases hq : q.writesRows with
    | false => rfl
    | true => exact absurd (delay_of_writesRows hq w) hslow
  cases h with
  | rest => exact .kept (.refl w) (by simp)
  | prompt q now =>
    cases hq : q.writesRows with
    | false =>
      obtain ⟨hasked, hanswered⟩ := handler_sameRows (e := e) hq w
      exact .refused (hasked.trans (hanswered _)) (wroteRow_of_reads hq)
    | true =>
      cases q with
      | createSubscription x => exact rowEffect_createSubscription x w
      | updateSubscription x => exact rowEffect_updateSubscription x w
      | deleteSubscription id => exact rowEffect_deleteSubscription id w
      | _ => cases hq
  | asked q slow => exact .kept (handler_sameRows (hreads q w slow) w).1 (by simp)
  | answered q w₀ slow =>
    have hq := hreads q w₀ slow
    exact .refused ((handler_sameRows hq w₀).2 w) (wroteRow_of_reads hq)

theorem RowEffect.keyed {x? : Option (Exchange Engine)} (h : RowEffect e w w' x?)
    (hw : w.store.Keyed) : w'.store.Keyed := by
  have hinsert : ∀ (x : Subscription),
      w'.store.rows = w.store.rows.insert x.id (w.store.readBack x) → w'.store.Keyed := by
    intro x hrows id y hy
    rw [hrows, Dict.get?_insert] at hy
    split at hy
    · next hid => exact (Store.readBack_id (Option.some.inj hy)).trans hid
    · exact hw id y hy
  cases h with
  | created x number rows => exact hinsert { x with id := _ } rows
  | updated x known rows => exact hinsert x rows
  | deleted id rows =>
    intro k y hy
    rw [rows, Dict.get?_erase] at hy
    split at hy
    · cases hy
    · exact hw k y hy
  | kept same =>
    intro id y hy
    rw [same.rows] at hy
    exact hw id y hy

end World
end Engine
end TicketSync
