import TicketSync.Proofs.RecordCodec
import TicketSync.Proofs.RunClock

/-! # A run stores its ticket once or leaves the store alone

Until its last exchange a run only reads. What keeps this through every turn is that the rest of the
script is `Orderly`, or the run has ended with its last exchange: with the failure of it, or with the
ticket that it stored. -/
namespace TicketSync

/-- A store after a ticket was written to it: the ticket is found by its id, and every other id
finds what it found before. -/
structure Store.Wrote (s s' : Store) (t : Ticket) : Prop where
  written : s'.getTicket (.id t.id) = .ok t
  others : ∀ id, id ≠ t.id → s'.getTicket (.id id) = s.getTicket (.id id)

theorem MemoryStore.putTicket_wrote (s : MemoryStore) (t : Ticket) :
    (Store.memory s).Wrote (.memory (s.putTicket t)) t where
  written := by
    simp [Store.getTicket, getTicket, putTicket, orFail]
  others id hid := by
    simp [Store.getTicket, getTicket, putTicket, Dict.get?_insert, Ne.symm hid]

theorem DiskStore.putTicket_wrote (s : DiskStore) (t : Ticket) (previous : Option Ticket) :
    (Store.disk s).Wrote (.disk (s.putTicket t previous)) t where
  written := by
    simp [Store.getTicket, getTicket, putTicket, orFail, readRecord, bind, Except.bind]
  others id hid := by
    simp [Store.getTicket, getTicket, putTicket, Dict.get?_insert, Ne.symm hid, bind, Except.bind]

/-- A store before and after a ticket is written to it. On disk the keys of an earlier version may
go with it. -/
inductive Store.Puts (t : Ticket) : Store → Store → Prop
  | memory (m : MemoryStore) : Puts t (.memory m) (.memory (m.putTicket t))
  | disk (d : DiskStore) (previous : Option Ticket) :
      Puts t (.disk d) (.disk (d.putTicket t previous))

namespace Store

variable {s s' : Store}

theorem puts_of_createTicket {id id' : String} {t : Ticket}
    (h : s.createTicket id t = .ok (id', s')) : id' = id ∧ Puts { t with id } s s' := by
  cases s with
  | memory m =>
    obtain ⟨rfl, rfl⟩ := Prod.mk.inj (Except.ok.inj h)
    exact ⟨rfl, .memory m⟩
  | disk d =>
    simp only [createTicket, DiskStore.createTicket] at h
    split at h
    · cases h
    · obtain ⟨rfl, rfl⟩ := Prod.mk.inj (Except.ok.inj h)
      exact ⟨rfl, .disk d none⟩

theorem puts_of_updateTicket {t : Ticket} (h : s.updateTicket t = .ok s') : Puts t s s' := by
  cases s with
  | memory m =>
    simp only [updateTicket, MemoryStore.updateTicket] at h
    split at h
    · cases Except.ok.inj h
      exact .memory m
    · cases h
  | disk d =>
    simp only [updateTicket, DiskStore.updateTicket] at h
    split at h
    · cases h
    · next v hv =>
      cases hr : DiskStore.readRecord Ticket.ofJson? v with
      | error f => simp [hr, bind, Except.bind, Except.map] at h
      | ok old =>
        simp only [hr, bind, Except.bind, pure, Except.pure, Except.map, Except.ok.injEq] at h
        subst h
        exact .disk d (some old)

theorem Puts.wrote {t : Ticket} (h : Puts t s s') : s.Wrote s' t := by
  cases h with
  | memory m => exact m.putTicket_wrote t
  | disk d previous => exact d.putTicket_wrote t previous

end Store

namespace Engine.World

variable {τ α : Type} (e : Surroundings τ)

/-- A world that has created as many tickets as another one, in the same store. -/
structure SameStore (w w' : World τ) : Prop where
  store : w'.store = w.store
  tickets : w'.tickets = w.tickets

theorem SameStore.refl (w : World τ) : w.SameStore w := ⟨rfl, rfl⟩

theorem SameStore.trans {w w' w'' : World τ} (h : w.SameStore w') (h' : w'.SameStore w'') :
    w.SameStore w'' :=
  ⟨h'.store.trans h.store, h'.tickets.trans h.tickets⟩

theorem sameStore_guarded (w : World τ) (op : StoreOperation)
    {run : World τ → Outcome α × World τ} (h : w.SameStore (run w).2) :
    w.SameStore (w.guarded op run).2 := by
  unfold guarded
  split
  · exact ⟨rfl, rfl⟩
  · exact h

/-- A question that does not ask for a write leaves the store, and so does its answer. -/
theorem handler_sameStore {q : Question} (hq : q.isWrite = false) (w : World τ) :
    w.SameStore (handler e q w).2 ∧
      ∀ w' : World τ, w'.SameStore ((handler e q w).1.finish w').2 := by
  cases q with
  | isCancelled => exact ⟨.refl w, .refl⟩
  | now => exact ⟨.refl w, .refl⟩
  | condition text u t => exact ⟨.refl w, .refl⟩
  | render vars u t => exact ⟨.refl w, .refl⟩
  | findTicket q => exact ⟨sameStore_guarded w _ (.refl w), .refl⟩
  | findSubscription id => exact ⟨sameStore_guarded w _ (.refl w), .refl⟩
  | listSubscriptions tracker => exact ⟨sameStore_guarded w _ (.refl w), .refl⟩
  | isRegistered tracker => exact ⟨.refl w, .refl⟩
  | call tracker r => exact ⟨⟨rfl, rfl⟩, fun _ => ⟨rfl, rfl⟩⟩
  | subscribe tracker r => exact ⟨⟨rfl, rfl⟩, fun _ => ⟨rfl, rfl⟩⟩
  | unsubscribe tracker ref => exact ⟨⟨rfl, rfl⟩, fun _ => ⟨rfl, rfl⟩⟩
  | handleWebhook tracker x r => exact ⟨⟨rfl, rfl⟩, fun _ => ⟨rfl, rfl⟩⟩
  | _ => cases hq

/-- A ticket is created under an id of the surroundings, or nothing happens to the store. -/
theorem createTicket_cases (t : Ticket) (w : World τ) :
    (∃ f, (w.createTicket e t).1 = .error f ∧ (w.createTicket e t).2.store = w.store) ∨
    ∃ n, (w.createTicket e t).1 = .ok (e.ticketId n) ∧
      w.store.Wrote (w.createTicket e t).2.store { t with id := e.ticketId n } := by
  unfold createTicket guarded
  split
  · exact .inl ⟨_, rfl, rfl⟩
  · cases hcreate : w.store.createTicket (e.ticketId (w.tickets + 1)) t with
    | error f =>
      simp only [hcreate]
      exact .inl ⟨f, rfl, trivial⟩
    | ok r =>
      obtain ⟨hid, hputs⟩ := Store.puts_of_createTicket hcreate
      simp only [hcreate, hid]
      exact .inr ⟨w.tickets + 1, rfl, hputs.wrote⟩

/-- A ticket is put in place of its last version, or nothing happens to the store. -/
theorem updateTicket_cases (t : Ticket) (w : World τ) :
    (∃ f, (w.updateTicket t).1 = .error f ∧ (w.updateTicket t).2.store = w.store) ∨
    (w.updateTicket t).1 = .ok () ∧ w.store.Wrote (w.updateTicket t).2.store t := by
  unfold updateTicket guarded
  split
  · exact .inl ⟨_, rfl, rfl⟩
  · cases hupdate : w.store.updateTicket t with
    | error f =>
      simp only [note, hupdate]
      exact .inl ⟨f, rfl, rfl⟩
    | ok store =>
      simp only [note, hupdate]
      exact .inr ⟨rfl, (Store.puts_of_updateTicket hupdate).wrote⟩

end Engine.World

namespace Engine.Course

variable {τ : Type} {e : Surroundings τ} {w : World τ} {c : Course τ}

/-- What every turn of a course keeps, where `w` is the world that it began in. -/
inductive Sound (w : World τ) : Course τ → Prop
  | running {script world exchanges} (orderly : Orderly script)
      (quiet : ∀ x ∈ exchanges, Quiet x) (same : world.store = w.store) :
      Sound w ⟨.ready script, world, exchanges⟩
  | waiting {q p next world exchanges} (reads : q.isWrite = false)
      (goes : ∀ a, failure? ⟨q, a⟩ = none → Orderly (next a))
      (fails : ∀ a f, failure? ⟨q, a⟩ = some f → next a = .fail f)
      (kept : ∀ w' : World τ, (p.finish w').2.store = w'.store)
      (quiet : ∀ x ∈ exchanges, Quiet x) (same : world.store = w.store) :
      Sound w ⟨.waiting q p next, world, exchanges⟩
  | failed {f x world exchanges} (last : failure? x = some f)
      (quiet : ∀ x ∈ exchanges, Quiet x) (same : world.store = w.store) :
      Sound w ⟨.ready (.fail f), world, exchanges ++ [x]⟩
  | stored {t x world exchanges} (last : Stores x t) (named : t.id ≠ "")
      (quiet : ∀ x ∈ exchanges, Quiet x) (wrote : w.store.Wrote world.store t) :
      Sound w ⟨.ready (.done t), world, exchanges ++ [x]⟩

theorem sound_start (j : Job) (u : Update) (w : World τ) : Sound w (start j u w) :=
  .running (orderly_runJob j u) (by simp) rfl

/-- The answer to a question that reads lets the script go on, or ends it with its failure. -/
theorem sound_answered {q : Question} {next : q.Answer → Script Engine Ticket} {world : World τ}
    {exchanges : List (Exchange Engine)} (reads : q.isWrite = false)
    (goes : ∀ a, failure? ⟨q, a⟩ = none → Orderly (next a))
    (fails : ∀ a f, failure? ⟨q, a⟩ = some f → next a = .fail f)
    (quiet : ∀ x ∈ exchanges, Quiet x) (same : world.store = w.store) (a : q.Answer) :
    Sound w ⟨.ready (next a), world, exchanges ++ [⟨q, a⟩]⟩ := by
  cases hf : failure? ⟨q, a⟩ with
  | none =>
    refine .running (goes a hf) ?_ same
    intro x hx
    rcases List.mem_append.mp hx with hx | hx
    · exact quiet x hx
    · rw [List.mem_singleton.mp hx]
      exact ⟨hf, reads⟩
  | some f =>
    rw [fails a f hf]
    exact .failed hf quiet same

theorem sound_created (hids : ∀ n, e.ticketId n ≠ "") {t : Ticket} (new : t.isPersisted = false)
    {world : World τ} {exchanges : List (Exchange Engine)} (quiet : ∀ x ∈ exchanges, Quiet x)
    (same : world.store = w.store) :
    Sound w ⟨.ready ((Script.ofOutcome (world.createTicket e t).1).bind fun id =>
        .done { t with id }), (world.createTicket e t).2,
      exchanges ++ [⟨.createTicket t, (world.createTicket e t).1⟩]⟩ := by
  rcases World.createTicket_cases e t world with ⟨f, hf, hstore⟩ | ⟨n, hn, hwrote⟩
  · rw [hf]
    exact .failed rfl quiet (hstore.trans same)
  · rw [hn]
    rw [same] at hwrote
    exact .stored (.inr ⟨t, new, rfl, rfl⟩) (hids n) quiet hwrote

theorem sound_updated {t : Ticket} (known : t.isPersisted = true)
    {world : World τ} {exchanges : List (Exchange Engine)} (quiet : ∀ x ∈ exchanges, Quiet x)
    (same : world.store = w.store) :
    Sound w ⟨.ready ((Script.ofOutcome (world.updateTicket t).1).bind fun _ => .done t),
      (world.updateTicket t).2, exchanges ++ [⟨.updateTicket t, (world.updateTicket t).1⟩]⟩ := by
  rcases World.updateTicket_cases t world with ⟨f, hf, hstore⟩ | ⟨hok, hwrote⟩
  · rw [hf]
    exact .failed rfl quiet (hstore.trans same)
  · rw [hok]
    rw [same] at hwrote
    refine .stored (.inl rfl) ?_ quiet hwrote
    simpa [Ticket.isPersisted] using known

theorem Sound.turn (hids : ∀ n, e.ticketId n ≠ "") (h : Sound w c) (t : Turn τ) :
    Sound w (c.turn e t) := by
  cases t with
  | aside a =>
    cases h with
    | running orderly quiet same => exact .running orderly quiet ((a.store_change _).trans same)
    | waiting reads goes fails kept quiet same =>
      exact .waiting reads goes fails kept quiet ((a.store_change _).trans same)
    | failed last quiet same => exact .failed last quiet ((a.store_change _).trans same)
    | stored last named quiet wrote => exact .stored last named quiet (by rwa [a.store_change])
  | own =>
    cases h with
    | @running script world exchanges orderly quiet same =>
      cases orderly with
      | @look q next reads goes fails =>
        obtain ⟨hasked, hanswered⟩ := World.handler_sameStore e reads world
        have hfinish := fun w' => (hanswered w').store
        have hsame := hasked.store.trans same
        by_cases hdelay : (World.handler e q world).1.delay = some 0
        · simp only [Course.turn, Task.step, Task.exchange?, hdelay, if_true, Option.toList_some]
          exact sound_answered reads goes fails quiet ((hfinish _).trans hsame) _
        · simp only [Course.turn, Task.step, Task.exchange?, hdelay, if_false, Option.toList_none,
            List.append_nil]
          exact .waiting reads goes fails hfinish quiet hsame
      | create t new => exact sound_created hids new quiet same
      | update t known => exact sound_updated known quiet same
    | waiting reads goes fails kept quiet same =>
      exact sound_answered reads goes fails quiet ((kept _).trans same) _
    | failed last quiet same =>
      simpa [Course.turn, Task.step, Task.exchange?] using Sound.failed last quiet same
    | stored last named quiet wrote =>
      simpa [Course.turn, Task.step, Task.exchange?] using Sound.stored last named quiet wrote

theorem Sound.after (hids : ∀ n, e.ticketId n ≠ "") (h : Sound w c) (turns : List (Turn τ)) :
    Sound w (c.after e turns) := by
  induction turns generalizing c with
  | nil => exact h
  | cons t turns ih => exact ih (h.turn hids t)

/-- What a course that began in the world `w` has done to the store. -/
structure Atomic (w : World τ) (c : Course τ) : Prop where
  under_way : c.task.outcome? = none →
    c.world.store = w.store ∧ ∀ y ∈ c.exchanges, Quiet y
  failed : ∀ f, c.task.outcome? = some (.error f) → c.world.store = w.store ∧
    ∃ before x, c.exchanges = before ++ [x] ∧ failure? x = some f ∧ ∀ y ∈ before, Quiet y
  stored : ∀ t, c.task.outcome? = some (.ok t) → t.id ≠ "" ∧ w.store.Wrote c.world.store t ∧
    ∃ before x, c.exchanges = before ++ [x] ∧ Stores x t ∧ ∀ y ∈ before, Quiet y

theorem Orderly.outcome?_eq_none {script : Script Engine Ticket} (h : Orderly script) :
    (Task.ready (σ := World τ) script).outcome? = none := by
  cases h <;> rfl

theorem Sound.atomic (h : Sound w c) : Atomic w c := by
  cases h with
  | running orderly quiet same =>
    have hnone := Orderly.outcome?_eq_none (τ := τ) orderly
    refine ⟨fun _ => ⟨same, quiet⟩, ?_, ?_⟩
    · intro f h
      cases hnone.symm.trans h
    · intro t h
      cases hnone.symm.trans h
  | waiting reads goes fails kept quiet same =>
    refine ⟨fun _ => ⟨same, quiet⟩, ?_, ?_⟩
    · intro f h
      cases h
    · intro t h
      cases h
  | failed last quiet same =>
    refine ⟨?_, ?_, ?_⟩
    · intro h
      cases h
    · intro f h
      cases h
      exact ⟨same, _, _, rfl, last, quiet⟩
    · intro t h
      cases h
  | stored last named quiet wrote =>
    refine ⟨?_, ?_, ?_⟩
    · intro h
      cases h
    · intro f h
      cases h
    · intro t h
      cases h
      exact ⟨named, wrote, _, _, rfl, last, quiet⟩

/-- Whatever the job, the trackers and their replies, and whatever else goes on that does not write
to the store: until a run ends it has only read, if it fails the store is as it was and the failing
exchange was its last one, and if it ends with a ticket the one write of this ticket was its last
exchange. On the clock a run is such a course, which a limit may give up before its end, and then
the store is as it was too. -/
theorem run_stores_its_ticket_or_nothing (e : Surroundings τ) (hids : ∀ n, e.ticketId n ≠ "")
    (j : Job) (u : Update) (w : World τ) :
    (∀ turns, Atomic w ((start j u w).after e turns)) ∧
    ∀ (g : Gathering) (moments now : Nat),
      let x := g.run (fun _ _ => World.handler e) moments [runJob j u] now w
      (∃ turns, let c := (start j u w).after e turns
        x.state = c.world ∧ (x.outcome? 0 = c.task.outcome? ∨
          c.task.outcome? = none ∧ ∃ l, x.outcome? 0 = some (.error (.timeout l)))) ∧
      ((∀ t, x.outcome? 0 ≠ some (.ok t)) → x.state.store = w.store) ∧
      ∀ t, x.outcome? 0 = some (.ok t) → t.id ≠ "" ∧ w.store.Wrote x.state.store t := by
  have hatomic : ∀ turns, Atomic w ((start j u w).after e turns) := fun turns =>
    ((sound_start j u w).after hids turns).atomic
  refine ⟨hatomic, ?_⟩
  intro g moments now x
  obtain ⟨_, ⟨turns, rfl⟩, hshows⟩ := follows_run (e := e) g moments j u now w
  obtain ⟨hworld, houtcome⟩ := hshows.outcome_eq
  have hcourse := hatomic turns
  refine ⟨⟨turns, hworld, houtcome⟩, ?_, ?_⟩
  · intro hnone
    rw [hworld]
    rcases houtcome with hsame | ⟨hleft, _⟩
    · cases hend : ((start j u w).after e turns).task.outcome? with
      | none => exact (hcourse.under_way hend).1
      | some r =>
        cases r with
        | ok t => exact absurd (hsame.trans hend) (hnone t)
        | error f => exact (hcourse.failed f hend).1
    · exact (hcourse.under_way hleft).1
  · intro t ht
    rw [hworld]
    rcases houtcome with hsame | ⟨_, l, htimeout⟩
    · obtain ⟨hnamed, hwrote, _⟩ := hcourse.stored t (hsame.symm.trans ht)
      exact ⟨hnamed, hwrote⟩
    · cases htimeout.symm.trans ht

/-- A desk that takes its time to open a task. -/
def desk : Surroundings Unit where
  functions := .empty
  trackers :=
    { names := ["desk"]
      call := fun _ _ s => ({ delay := some 5, settle := fun s => (.ok "7", s) }, s)
      subscribe := fun _ _ s => ({ settle := fun s => (.ok "", s) }, s)
      unsubscribe := fun _ _ s => ({ settle := fun s => (.ok (), s) }, s)
      handleWebhook := fun _ _ _ s => ({ settle := fun s => (.ok none, s) }, s) }
  ticketId n := "t" ++ toString n
  subscriptionId n := "s" ++ toString n
  createdAt _ := default

/-- A job that opens a task at the desk on a condition. -/
def openTask : Job :=
  { name := "forward", triggerName := "mail"
    steps := [.branch "true" [.action { name := ⟨"desk", "open"⟩ }]] }

/-- The ticket of a mail that has become a task at the desk. -/
def forwarded : Ticket :=
  { id := "t1", variations := (Dict.empty.insert "mail" ⟨"1", {}⟩).insert "desk" ⟨"7", {}⟩ }

theorem desk_names_tickets (n : Nat) : desk.ticketId n ≠ "" := by
  simp [desk]

theorem forwarded_stored :
    (∀ n, desk.ticketId n ≠ "") ∧
    let w : World Unit := { store := .memory {}, trackers := () }
    let c := (start openTask { receivedFrom := ⟨"mail", "1"⟩ } w).after desk (List.replicate 12 .own)
    c.task.outcome? = some (.ok forwarded) ∧ w.store.Wrote c.world.store forwarded := by
  refine ⟨desk_names_tickets, rfl, ?_⟩
  have hrun := run_stores_its_ticket_or_nothing desk desk_names_tickets openTask
    { receivedFrom := ⟨"mail", "1"⟩ } { store := .memory {}, trackers := () }
  exact ((hrun.1 (List.replicate 12 .own)).stored forwarded rfl).2.1

end Engine.Course
end TicketSync
