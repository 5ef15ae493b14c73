import TicketSync.Proofs.LocatorIndex
import TicketSync.Proofs.RunAtomicity
import TicketSync.Proofs.RunWrites
import TicketSync.Proofs.SubscriptionRows

/-! # What a run finds, and how its ticket is found

As long as a run has not written, its look-up is answered by the store that it began with. What it
has written is known under every locator of the ticket, and stays so since its write is the last
thing that it does. -/
namespace TicketSync

/-- A store that finds a ticket under each of its locators. -/
def Store.LeadsTo (s : Store) (t : Ticket) : Prop :=
  ∀ l ∈ t.locators, s.getTicket (.locator l) = .ok t

namespace Store

/-- A ticket that was written is found under its locators. -/
theorem Puts.leadsTo {s s' : Store} {t : Ticket} (h : Puts t s s') : s'.LeadsTo t := by
  intro l hl
  cases h with
  | memory m =>
    have howner : (m.index.enter t).owner? l = some t.id := by
      rw [LocatorIndex.enter, LocatorIndex.owner?_foldl_assign, if_pos hl]
    simp [getTicket, MemoryStore.getTicket, MemoryStore.putTicket, howner, orFail]
  | disk d previous =>
    have hkey : ∃ m ∈ t.locators, m.display = l.display := ⟨l, hl, rfl⟩
    simp [getTicket, DiskStore.getTicket, DiskStore.putTicket, DiskStore.get?_enter, hkey, orFail,
      DiskStore.readRecord, bind, Except.bind]

end Store

namespace Engine

/-- An exchange in which a look-up was answered by a store, or made to fail. -/
def ReadFrom (s : Store) : Exchange Engine → Prop
  | ⟨.findTicket q, a⟩ => a = s.getTicket q ∨ a = .error (World.fault .getTicket)
  | _ => True

namespace World

variable {τ : Type} {e : Surroundings τ} {w w' : World τ}
  {q? : Option (Dialogue.Question Engine)} {x? : Option (Exchange Engine)}

theorem readFrom_of_turn (h : Task.Turn (handler e) w q? x? w') :
    ∀ x, x? = some x → ReadFrom w.store x := by
  have hfind : ∀ (q : TicketQuery) (w : World τ),
      ReadFrom w.store
        ⟨.findTicket q, (w.guarded .getTicket fun w => (w.store.getTicket q, w)).1⟩ :=
    fun q w => guarded_elim (p := fun r => ReadFrom w.store ⟨.findTicket q, r.1⟩) w .getTicket
      (.inr rfl) (.inl rfl)
  cases h with
  | rest => simp
  | asked q slow => simp
  | prompt q now =>
    rintro x ⟨⟩
    cases q with
    | findTicket q => exact hfind q w
    | _ => trivial
  | answered q w₀ slow =>
    rintro x ⟨⟩
    cases q with
    | findTicket q => exact absurd rfl slow
    | _ => trivial

/-- A ticket that a turn has stored is known under its locators then. -/
theorem leadsTo_of_turn (h : Task.Turn (handler e) w q? x? w') {x : Exchange Engine}
    (hx : x? = some x) {t : Ticket} (hstored : stored? x = some t) : w'.store.LeadsTo t := by
  cases h with
  | rest => cases hx
  | asked q slow => cases hx
  | answered q w₀ slow =>
    cases hx
    cases q with
    | createTicket new => exact absurd rfl slow
    | updateTicket new => exact absurd rfl slow
    | _ => cases hstored
  | prompt q now =>
    cases hx
    cases q with
    | createTicket new =>
      refine guarded_elim (p := fun r => stored? ⟨.createTicket new, r.1⟩ = some t →
        r.2.store.LeadsTo t) w .createTicket (by simp [stored?]) ?_ hstored
      cases hc : w.store.createTicket (e.ticketId (w.tickets + 1)) new with
      | ok r =>
        obtain ⟨id, store⟩ := r
        obtain ⟨rfl, hputs⟩ := Store.puts_of_createTicket hc
        rintro ⟨⟩
        exact hputs.leadsTo
      | error f => simp [stored?]
    | updateTicket new =>
      refine guarded_elim (p := fun r => stored? ⟨.updateTicket new, r.1⟩ = some t →
        r.2.store.LeadsTo t) w .updateTicket (by simp [stored?]) ?_ hstored
      cases hc : w.store.updateTicket new with
      | ok store =>
        simp only [note, keep]
        rintro ⟨⟩
        exact (Store.puts_of_updateTicket hc).leadsTo
      | error f => simp [note, keep, stored?]
    | _ => cases hstored

end World

namespace Course

variable {τ : Type} {e : Surroundings τ} {j : Job} {u : Update} {w : World τ} {c : Course τ}

/-- A run that has ended has no more turns. -/
theorem turn_own_of_ended {r : Outcome Ticket} (h : c.task.outcome? = some r) :
    c.turn e .own = c := by
  obtain ⟨task, world, exchanges⟩ := c
  cases task with
  | waiting q p next => cases h
  | ready script =>
    cases script with
    | done t => simp [turn, Task.step, Task.exchange?]
    | fail f => simp [turn, Task.step, Task.exchange?]
    | ask q next => cases h

/-- What is told of a run of a job for an update that began in a world. -/
structure Told (e : Surroundings τ) (j : Job) (u : Update) (w : World τ) (c : Course τ) : Prop where
  came : ∃ asked, Task.CameFrom (World.handler e) (runJob j u) asked c.exchanges c.task
  given : ∀ x ∈ c.exchanges, (World.handler e).Gives x
  read : ∀ x ∈ c.exchanges, ReadFrom w.store x
  leads : ∀ x ∈ c.exchanges, ∀ t, stored? x = some t → c.world.store.LeadsTo t

theorem told_start (e : Surroundings τ) (j : Job) (u : Update) (w : World τ) :
    Told e j u w (start j u w) where
  came := ⟨[], .start _ _⟩
  given := by simp [start]
  read := by simp [start]
  leads := by simp [start]

theorem Told.turn (hsound : Sound w c) (h : Told e j u w c) (t : Turn τ) :
    Told e j u w (c.turn e t) := by
  cases t with
  | aside a =>
    refine ⟨h.came, h.given, h.read, ?_⟩
    intro x hx t ht l hl
    rw [← h.leads x hx t ht l hl]
    exact congrArg (Store.getTicket · (.locator l)) (a.store_change c.world)
  | own =>
    cases hend : c.task.outcome? with
    | some r => rwa [turn_own_of_ended hend]
    | none =>
      obtain ⟨asked, hcame⟩ := h.came
      obtain ⟨hsame, hquiet⟩ := hsound.atomic.under_way hend
      have hturn := hcame.turn c.world
      have hmem : ∀ {x}, x ∈ (c.turn e .own).exchanges →
          x ∈ c.exchanges ∨ c.task.exchange? (World.handler e) c.world = some x := by
        intro x hx
        rcases List.mem_append.mp hx with hx | hx
        · exact .inl hx
        · exact .inr (Option.mem_toList.mp hx)
      refine ⟨⟨_, hcame.step c.world⟩, ?_, ?_, ?_⟩
      · intro x hx
        exact (hmem hx).elim (h.given x) (hturn.gives x)
      · intro x hx
        exact (hmem hx).elim (h.read x) fun hnew => hsame ▸ World.readFrom_of_turn hturn x hnew
      · intro x hx t ht
        rcases hmem hx with hx | hnew
        · cases (stored?_of_reads (hquiet x hx).2).symm.trans ht
        · exact World.leadsTo_of_turn hturn hnew ht

theorem Told.after (hids : ∀ n, e.ticketId n ≠ "") (hsound : Sound w c) (h : Told e j u w c)
    (turns : List (Turn τ)) : Told e j u w (c.after e turns) := by
  induction turns generalizing c with
  | nil => exact h
  | cons t turns ih => exact ih (hsound.turn hids t) (h.turn hsound t)

end Course
end Engine
end TicketSync
