import TicketSync.Store.Basic

/-! # Which write of a history a query leads to

A history is the list of the tickets that were written, the first one first. A ticket stays known
under a locator until a later write lists the locator or rewrites the ticket. `holding` follows this
write by write over the same list read backwards. -/
namespace TicketSync

/-- The ticket that an operation has written, as its answer tells. -/
def StoreCall.written? : StoreCall → Outcome StoreReply → Option Ticket
  | .createTicket id t, .ok _ => some { t with id }
  | .updateTicket t, .ok _ => some t
  | _, _ => none

/-- The tickets that operations on a store write, in order. -/
def Store.history (s : Store) (calls : List StoreCall) : List Ticket :=
  (calls.zip (s.performAll calls).1).filterMap fun e => e.1.written? e.2

/-- A ticket was written, and what was written since has a property. -/
def WrittenAndSince (ws : List Ticket) (t : Ticket) (p : Ticket → Prop) : Prop :=
  ∃ earlier later, ws = earlier ++ t :: later ∧ ∀ u ∈ later, p u

/-- The last write of a ticket with an id. -/
def LastWriteOf (ws : List Ticket) (id : String) (t : Ticket) : Prop :=
  t.id = id ∧ WrittenAndSince ws t fun u => u.id ≠ id

/-- The last write that lists a locator, when it is also the last write of its ticket. -/
def LastListing (ws : List Ticket) (l : Locator) (t : Ticket) : Prop :=
  l ∈ t.locators ∧ WrittenAndSince ws t fun u => u.id ≠ t.id ∧ l ∉ u.locators

/-- The last ticket with an id, among tickets with the last one first. -/
def lastOf (past : List Ticket) (id : String) : Option Ticket := past.find? (·.id = id)

/-- The ticket known under a locator after writes, the last one first: a write takes over what it
lists, and what its ticket was known under before is forgotten. -/
def holding : List Ticket → Locator → Option Ticket
  | [], _ => none
  | t :: past, l => if l ∈ t.locators then some t else (holding past l).filter (·.id ≠ t.id)

theorem writtenAndSince_reverse (past : List Ticket) (t : Ticket) (p : Ticket → Prop) :
    WrittenAndSince past.reverse t p ↔
      ∃ later earlier, past = later ++ t :: earlier ∧ ∀ u ∈ later, p u := by
  constructor
  · rintro ⟨earlier, later, heq, hlater⟩
    refine ⟨later.reverse, earlier.reverse, ?_, by simpa using hlater⟩
    rw [← List.reverse_reverse past, heq]
    simp
  · rintro ⟨later, earlier, rfl, hlater⟩
    exact ⟨earlier.reverse, later.reverse, by simp, by simpa using hlater⟩

theorem lastOf_cons (t : Ticket) (past : List Ticket) (id : String) :
    lastOf (t :: past) id = if t.id = id then some t else lastOf past id := by
  by_cases h : t.id = id <;> simp [lastOf, h]

theorem lastOf_eq_none_iff (past : List Ticket) (id : String) :
    lastOf past id = none ↔ ∀ t ∈ past, t.id ≠ id := by
  simp [lastOf]

theorem lastOf_eq_some_iff (past : List Ticket) (id : String) (t : Ticket) :
    lastOf past id = some t ↔ LastWriteOf past.reverse id t := by
  rw [LastWriteOf, writtenAndSince_reverse, lastOf, List.find?_eq_some_iff_append]
  simp

theorem holding_eq_some_iff (past : List Ticket) (l : Locator) (t : Ticket) :
    holding past l = some t ↔ LastListing past.reverse l t := by
  rw [LastListing, writtenAndSince_reverse]
  induction past with
  | nil => simp [holding]
  | cons u past ih =>
    by_cases hl : l ∈ u.locators
    · simp only [holding, if_pos hl, Option.some.injEq]
      constructor
      · rintro rfl
        exact ⟨hl, [], past, rfl, by simp⟩
      · rintro ⟨-, later, earlier, heq, hlater⟩
        cases later with
        | nil => exact (List.cons.inj heq).1
        | cons v later =>
          obtain ⟨rfl, -⟩ := List.cons.inj heq
          exact absurd hl (hlater u List.mem_cons_self).2
    · simp only [holding, if_neg hl, Option.filter_eq_some_iff, ih, decide_eq_true_eq]
      constructor
      · rintro ⟨⟨hmem, later, earlier, rfl, hlater⟩, hne⟩
        refine ⟨hmem, u :: later, earlier, rfl, ?_⟩
        intro v hv
        rcases List.mem_cons.mp hv with rfl | hv
        · exact ⟨Ne.symm hne, hl⟩
        · exact hlater v hv
      · rintro ⟨hmem, later, earlier, heq, hlater⟩
        cases later with
        | nil => exact absurd ((List.cons.inj heq).1 ▸ hmem) hl
        | cons v later =>
          obtain ⟨rfl, rfl⟩ := List.cons.inj heq
          refine ⟨⟨hmem, later, earlier, rfl, ?_⟩, Ne.symm (hlater u List.mem_cons_self).1⟩
          exact fun w hw => hlater w (List.mem_cons_of_mem _ hw)

theorem mem_locators_of_holding {past : List Ticket} {l : Locator} {t : Ticket}
    (h : holding past l = some t) : l ∈ t.locators :=
  ((holding_eq_some_iff past l t).mp h).1

/-- Every locator leads to a ticket that is stored under its id. -/
theorem lastOf_of_holding {past : List Ticket} {l : Locator} {t : Ticket}
    (h : holding past l = some t) : lastOf past t.id = some t := by
  obtain ⟨-, earlier, later, heq, hlater⟩ := (holding_eq_some_iff past l t).mp h
  exact (lastOf_eq_some_iff past t.id t).mpr ⟨rfl, earlier, later, heq, fun u hu => (hlater u hu).1⟩

end TicketSync
