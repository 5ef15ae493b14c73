import TicketSync.Proofs.LocatorLaw

/-! # Locators that stored tickets list

A locator has one owner, the ticket of the last write that lists it, and an owner that gives the
locator up does not hand it back to whom it took it from. So a stored ticket may list a locator and
yet not be known under it. This is the only way in which a listed locator leads nowhere. -/
namespace TicketSync

/-- The last write that lists a locator. -/
def LastToList (ws : List Ticket) (l : Locator) (t : Ticket) : Prop :=
  l ∈ t.locators ∧ WrittenAndSince ws t fun u => l ∉ u.locators

namespace Store

/-- A ticket that a store holds. -/
def Holds (s : Store) (t : Ticket) : Prop := s.getTicket (.id t.id) = .ok t

/-- Whatever locator a stored ticket lists, it leads to a stored ticket that lists it. -/
def FindsListed (s : Store) : Prop :=
  ∀ t l, s.Holds t → l ∈ t.locators →
    ∃ u, s.getTicket (.locator l) = .ok u ∧ s.Holds u ∧ l ∈ u.locators

/-- Where a locator leads that some write has listed: to the ticket that listed it last, unless
this ticket has been rewritten since. -/
inductive Traces (s : Store) (ws : List Ticket) (l : Locator) : Prop
  | found (t : Ticket) (last : LastToList ws l t) (stored : s.Holds t)
    (answer : s.getTicket (.locator l) = .ok t)
  | givenUp (t now : Ticket) (last : LastToList ws l t) (same : now.id = t.id)
    (stored : s.Holds now) (dropped : l ∉ now.locators)
    (answer : s.getTicket (.locator l) = .error (ticketNotFound l.display))

end Store

theorem LastToList.append {ws : List Ticket} {l : Locator} {t u : Ticket} (h : LastToList ws l t)
    (hu : l ∉ u.locators) : LastToList (ws ++ [u]) l t := by
  obtain ⟨hl, earlier, later, rfl, hlater⟩ := h
  refine ⟨hl, earlier, later ++ [u], by simp, ?_⟩
  intro v hv
  rcases List.mem_append.mp hv with hv | hv
  · exact hlater v hv
  · exact List.mem_singleton.mp hv ▸ hu

/-- The ticket that listed a locator last is known under it, or was rewritten without it. -/
theorem holding_of_listed {past : List Ticket} {l : Locator} (h : ∃ t ∈ past, l ∈ t.locators) :
    ∃ t, LastToList past.reverse l t ∧
      (holding past l = some t ∨
        holding past l = none ∧ ∃ now, lastOf past t.id = some now ∧ l ∉ now.locators) := by
  induction past with
  | nil => simp at h
  | cons u past ih =>
    by_cases hu : l ∈ u.locators
    · refine ⟨u, ⟨hu, past.reverse, [], by simp, by simp⟩, .inl ?_⟩
      simp [holding, hu]
    · have hpast : ∃ t ∈ past, l ∈ t.locators := by simpa [hu] using h
      obtain ⟨t, hlast, hheld⟩ := ih hpast
      refine ⟨t, List.reverse_cons ▸ hlast.append hu, ?_⟩
      simp only [holding, if_neg hu, lastOf_cons]
      rcases hheld with hheld | ⟨hheld, now, hnow, hdrop⟩
      · by_cases hid : u.id = t.id
        · exact .inr ⟨by simp [hheld, hid], u, by simp [hid], hu⟩
        · exact .inl (by simp [hheld, Ne.symm hid])
      · refine .inr ⟨by simp [hheld], ?_⟩
        by_cases hid : u.id = t.id
        · exact ⟨u, by simp [hid], hu⟩
        · exact ⟨now, by simp [hid, hnow], hdrop⟩

theorem id_of_lastOf {past : List Ticket} {id : String} {t : Ticket}
    (h : lastOf past id = some t) : t.id = id :=
  ((lastOf_eq_some_iff past id t).mp h).1

namespace Store.Recalls

variable {s : Store} {past : List Ticket} {known : Locator → Prop}

theorem holds_of_lastOf (h : s.Recalls past.reverse known) {id : String} {t : Ticket}
    (ht : lastOf past id = some t) : s.Holds t := by
  rw [← id_of_lastOf ht] at ht
  exact (h.byId t.id t).mpr ((lastOf_eq_some_iff past t.id t).mp ht)

/-- What a store answers about a locator that a write has listed. -/
theorem traces (h : s.Recalls past.reverse known) {l : Locator} (hl : known l)
    (hlisted : ∃ t ∈ past, l ∈ t.locators) : s.Traces past.reverse l := by
  obtain ⟨t, hlast, hheld | ⟨hheld, now, hnow, hdrop⟩⟩ := holding_of_listed hlisted
  · refine .found t hlast (h.holds_of_lastOf (lastOf_of_holding hheld)) ?_
    exact (h.byLocator l hl t).mpr ((holding_eq_some_iff past l t).mp hheld)
  · refine .givenUp t now hlast (id_of_lastOf hnow) (h.holds_of_lastOf hnow) hdrop ?_
    refine h.unknownLocator l hl fun u hu => ?_
    rw [← holding_eq_some_iff, hheld] at hu
    cases hu

/-- A ticket that is held was written. -/
theorem mem_of_holds (h : s.Recalls past.reverse known) {t : Ticket} (ht : s.Holds t) :
    t ∈ past := by
  obtain ⟨-, earlier, later, heq, -⟩ := (h.byId t.id t).mp ht
  have hmem : t ∈ past.reverse := by simp [heq]
  exact List.mem_reverse.mp hmem

/-- What a locator leads to is a stored ticket that lists it. -/
theorem holds_of_getTicket (h : s.Recalls past.reverse known) {l : Locator} (hl : known l)
    {t : Ticket} (ht : s.getTicket (.locator l) = .ok t) : s.Holds t ∧ l ∈ t.locators := by
  have hheld := (holding_eq_some_iff past l t).mpr ((h.byLocator l hl t).mp ht)
  exact ⟨h.holds_of_lastOf (lastOf_of_holding hheld), mem_locators_of_holding hheld⟩

end Store.Recalls

/-- After any operations, a locator leads only to a stored ticket that lists it. If a stored ticket
lists a locator, then the locator leads to the ticket that listed it last, or this ticket has been
rewritten without the locator and no ticket is found. On disk this is so as long as trackers have no
slash in their names. -/
theorem listed_locators_are_found_or_given_up (calls : List StoreCall) :
    (∀ l t, ((Store.memory {}).performAll calls).2.getTicket (.locator l) = .ok t →
      ((Store.memory {}).performAll calls).2.Holds t ∧ l ∈ t.locators) ∧
    (∀ l t, ((Store.memory {}).performAll calls).2.Holds t → l ∈ t.locators →
      ((Store.memory {}).performAll calls).2.Traces ((Store.memory {}).history calls) l) ∧
    ((∀ c ∈ calls, c ≠ .reopen ∧ c.SlashFree) →
      (∀ l t, l.SlashFree →
        ((Store.disk {}).performAll calls).2.getTicket (.locator l) = .ok t →
        ((Store.disk {}).performAll calls).2.Holds t ∧ l ∈ t.locators) ∧
      ∀ l t, ((Store.disk {}).performAll calls).2.Holds t → l ∈ t.locators →
        ((Store.disk {}).performAll calls).2.Traces ((Store.disk {}).history calls) l) := by
  obtain ⟨m, hm, hmemory⟩ := MemoryStore.follows_performAll calls
  rw [hm]
  refine ⟨?_, ?_, ?_⟩
  · exact fun l t ht => hmemory.recalls.holds_of_getTicket trivial ht
  · intro l t ht hl
    have hmem := hmemory.recalls.mem_of_holds ht
    simpa using hmemory.recalls.traces trivial ⟨t, hmem, hl⟩
  · intro hc
    obtain ⟨d, hd, hdisk⟩ := DiskStore.follows_performAll hc
    rw [hd]
    refine ⟨fun l t hl ht => hdisk.recalls.holds_of_getTicket hl ht, ?_⟩
    intro l t ht hl
    have hmem := hdisk.recalls.mem_of_holds ht
    have hslash : l.SlashFree := (hdisk.slashFree t hmem).locator hl
    simpa using hdisk.recalls.traces hslash ⟨t, hmem, hl⟩

/-- The first ticket of a handover is still listed under the locator, which leads nowhere. -/
theorem handover_leaves_a_locator_behind :
    (∀ c ∈ handover, c ≠ .reopen ∧ c.SlashFree) ∧
    ⟨"github", "5"⟩ ∈ (Ticket.ofTask "a" "github" "5").locators ∧
    ((Store.memory {}).performAll handover).2.Holds (.ofTask "a" "github" "5") ∧
    ((Store.memory {}).performAll handover).2.Traces ((Store.memory {}).history handover)
      ⟨"github", "5"⟩ ∧
    ((Store.disk {}).performAll handover).2.Holds (.ofTask "a" "github" "5") ∧
    ((Store.disk {}).performAll handover).2.Traces ((Store.disk {}).history handover)
      ⟨"github", "5"⟩ := by
  have hlisted : ⟨"github", "5"⟩ ∈ (Ticket.ofTask "a" "github" "5").locators := by decide
  have hmemory : ((Store.memory {}).performAll handover).2.Holds (.ofTask "a" "github" "5") := rfl
  have hdisk : ((Store.disk {}).performAll handover).2.Holds (.ofTask "a" "github" "5") := rfl
  refine ⟨handover_slashFree, hlisted, hmemory, ?_, hdisk, ?_⟩
  · exact (listed_locators_are_found_or_given_up handover).2.1 _ _ hmemory hlisted
  · exact ((listed_locators_are_found_or_given_up handover).2.2 handover_slashFree).2 _ _ hdisk
      hlisted

/-- Neither store finds every locator that its tickets list. -/
theorem handover_loses_the_first_ticket :
    (∀ c ∈ handover, c ≠ .reopen ∧ c.SlashFree) ∧
    ¬((Store.memory {}).performAll handover).2.FindsListed ∧
    ¬((Store.disk {}).performAll handover).2.FindsListed := by
  have hlisted : ⟨"github", "5"⟩ ∈ (Ticket.ofTask "a" "github" "5").locators := by decide
  refine ⟨handover_slashFree, ?_, ?_⟩
  · intro h
    obtain ⟨u, hu, -⟩ := h (.ofTask "a" "github" "5") _ rfl hlisted
    cases hu
  · intro h
    obtain ⟨u, hu, -⟩ := h (.ofTask "a" "github" "5") _ rfl hlisted
    cases hu

end TicketSync
