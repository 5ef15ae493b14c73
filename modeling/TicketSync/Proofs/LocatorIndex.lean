import TicketSync.Proofs.RecordCodec
import TicketSync.Proofs.TicketHistory

/-! # Indexes of locators after a write

Both stores rewrite their index at every write: the entries of the written ticket go, then its
locators are entered, also where another ticket held them. The invariant that a store `Follows` the
tickets written so far is kept by a write. On disk only the entries that the previous version lists
are looked at, which is enough since whatever leads to a ticket is among its locators. -/
namespace TicketSync

/-- A locator whose tracker has no slash in its name, so that its text can be taken apart. -/
def Locator.SlashFree (l : Locator) : Prop := '/' ∉ l.tracker.toList

/-- A ticket of trackers without slashes in their names. -/
def Ticket.SlashFree (t : Ticket) : Prop := ∀ tracker ∈ t.variations.keys, '/' ∉ tracker.toList

theorem Ticket.SlashFree.locator {t : Ticket} (h : t.SlashFree) {l : Locator}
    (hl : l ∈ t.locators) : l.SlashFree := by
  obtain ⟨hmem, -⟩ := List.mem_filter.mp hl
  obtain ⟨e, he, rfl⟩ := List.mem_map.mp hmem
  exact h e.1 (List.mem_map_of_mem he)

theorem Locator.toList_display (l : Locator) :
    l.display.toList = l.tracker.toList ++ '/' :: l.id.toList := by
  simp [display]

theorem Locator.takeWhile_display {l : Locator} (h : l.SlashFree) :
    l.display.toList.takeWhile (· ≠ '/') = l.tracker.toList := by
  have hall : ∀ c ∈ l.tracker.toList, decide (c ≠ '/') = true := by
    intro c hc
    exact decide_eq_true fun he => h (he ▸ hc)
  rw [toList_display, List.takeWhile_append_of_pos hall]
  simp

/-- Locators of trackers without slashes have different texts. -/
theorem Locator.display_inj {l m : Locator} (hl : l.SlashFree) (hm : m.SlashFree) :
    l.display = m.display ↔ l = m := by
  constructor
  · intro h
    have htracker : l.tracker.toList = m.tracker.toList := by
      rw [← takeWhile_display hl, ← takeWhile_display hm, h]
    have hid : l.id.toList = m.id.toList := by
      have hlist := congrArg String.toList h
      rw [toList_display, toList_display, htracker] at hlist
      exact (List.cons.inj (List.append_cancel_left hlist)).2
    cases l
    cases m
    simp only [mk.injEq]
    exact ⟨String.toList_inj.mp htracker, String.toList_inj.mp hid⟩
  · rintro rfl
    rfl

/-! ### In memory -/

namespace LocatorIndex

/-- At most one entry for a locator. -/
def Distinct (index : LocatorIndex) : Prop := index.Pairwise fun a b => a.1 ≠ b.1

theorem Distinct.filter {index : LocatorIndex} (h : index.Distinct) (p : Locator × String → Bool) :
    Distinct (List.filter p index) := List.Pairwise.filter p h

theorem Distinct.assign {index : LocatorIndex} (h : index.Distinct) (id : String) (l : Locator) :
    (index.assign id l).Distinct := by
  refine List.pairwise_cons.mpr ⟨?_, h.filter _⟩
  intro e he heq
  simp [← heq] at he

theorem owner?_assign (index : LocatorIndex) (id : String) (l m : Locator) :
    (index.assign id l).owner? m = if l = m then some id else index.owner? m := by
  by_cases hl : l = m
  · simp [owner?, LocatorIndex.assign, hl]
  · have hfind : (List.filter (fun e => e.1 ≠ l) index).find? (fun e => e.1 = m) =
        List.find? (fun e => e.1 = m) index := by
      rw [List.find?_filter]
      congr 1
      funext e
      by_cases he : e.1 = m <;> simp [he, Ne.symm hl]
    simp only [owner?, LocatorIndex.assign, List.find?_cons, hl, decide_false, if_false, hfind]

theorem owner?_filter {index : LocatorIndex} (h : index.Distinct) (id : String) (l : Locator) :
    owner? (List.filter (fun e => e.2 ≠ id) index) l = (index.owner? l).filter (· ≠ id) := by
  induction index with
  | nil => rfl
  | cons e index ih =>
    obtain ⟨hfirst, hrest⟩ := List.pairwise_cons.mp h
    by_cases hl : e.1 = l
    · by_cases hid : e.2 = id
      · have hfree : ∀ f ∈ index, f.1 ≠ l := fun f hf heq => hfirst f hf (hl.trans heq.symm)
        simp only [owner?, List.filter_cons, hid, ne_eq, not_true, decide_false, Bool.false_eq_true,
          if_false, List.find?_filter, List.find?_cons, hl, decide_true, Option.map_some]
        simpa [Option.filter] using fun a b hab _ => hfree (a, b) hab
      · simp [owner?, hl, hid, Option.filter]
    · have ih := ih hrest
      by_cases hid : e.2 = id <;> simpa [owner?, hl, hid] using ih

theorem owner?_foldl_assign (index : LocatorIndex) (id : String) (ls : List Locator) (m : Locator) :
    owner? (ls.foldl (fun index l => assign index id l) index) m =
      if m ∈ ls then some id else index.owner? m := by
  induction ls generalizing index with
  | nil => simp
  | cons l ls ih =>
    rw [List.foldl_cons, ih, owner?_assign]
    by_cases hm : m ∈ ls
    · simp [hm]
    · by_cases hl : l = m
      · simp [hl]
      · simp [hm, hl, Ne.symm (hl : l ≠ m)]

theorem Distinct.enter {index : LocatorIndex} (h : index.Distinct) (t : Ticket) :
    (index.enter t).Distinct := by
  have hfold : ∀ (ls : List Locator) (i : LocatorIndex), i.Distinct →
      Distinct (ls.foldl (fun index l => LocatorIndex.assign index t.id l) i) := by
    intro ls
    induction ls with
    | nil => exact fun i hi => hi
    | cons l ls ih => exact fun i hi => ih _ (hi.assign t.id l)
  exact hfold _ _ (h.filter _)

theorem owner?_enter {index : LocatorIndex} (h : index.Distinct) (t : Ticket) (l : Locator) :
    (index.enter t).owner? l =
      if l ∈ t.locators then some t.id else (index.owner? l).filter (· ≠ t.id) := by
  rw [enter, owner?_foldl_assign, owner?_filter h]

end LocatorIndex

/-- The owner of a locator after one more write. -/
theorem map_id_holding_cons (t : Ticket) (past : List Ticket) (l : Locator) :
    (holding (t :: past) l).map (·.id) =
      if l ∈ t.locators then some t.id else ((holding past l).map (·.id)).filter (· ≠ t.id) := by
  by_cases hl : l ∈ t.locators
  · simp [holding, hl]
  · cases hh : holding past l with
    | none => simp [holding, hl, hh]
    | some u => by_cases hu : u.id = t.id <;> simp [holding, hl, hh, hu, Option.filter]

/-- A store in memory that holds what the writes so far, the last one first, leave behind. -/
structure MemoryStore.Follows (s : MemoryStore) (past : List Ticket) : Prop where
  tickets : ∀ id, s.tickets.get? id = lastOf past id
  distinct : s.index.Distinct
  index : ∀ l, s.index.owner? l = (holding past l).map (·.id)

namespace MemoryStore

variable {s : MemoryStore} {past : List Ticket}

theorem follows_empty : Follows {} [] := ⟨fun _ => rfl, List.Pairwise.nil, fun _ => rfl⟩

theorem Follows.putTicket (h : s.Follows past) (t : Ticket) :
    (s.putTicket t).Follows (t :: past) where
  tickets id := by
    rw [lastOf_cons, ← h.tickets]
    exact Dict.get?_insert _ _ _ _
  distinct := h.distinct.enter t
  index l := by
    rw [map_id_holding_cons, ← h.index]
    exact LocatorIndex.owner?_enter h.distinct t l

theorem Follows.getTicket_id (h : s.Follows past) (id : String) :
    s.getTicket (.id id) = orFail (ticketNotFound id) (lastOf past id) := by
  rw [← h.tickets]
  rfl

theorem Follows.getTicket_locator (h : s.Follows past) (l : Locator) :
    s.getTicket (.locator l) = orFail (ticketNotFound l.display) (holding past l) := by
  simp only [getTicket, TicketQuery.display, h.index]
  cases hh : holding past l with
  | none => rfl
  | some t => simp [h.tickets, lastOf_of_holding hh]

end MemoryStore

/-! ### On disk -/

namespace DiskStore

theorem get?_enter (index : Dict String) (id : String) (ls : List Locator) (k : String) :
    (enter index id ls).get? k = if ∃ l ∈ ls, l.display = k then some id else index.get? k := by
  induction ls generalizing index with
  | nil => simp [enter]
  | cons l ls ih =>
    have ih := ih (index.insert l.display id)
    simp only [enter, List.foldl_cons] at ih ⊢
    rw [ih, Dict.get?_insert]
    by_cases hls : ∃ m ∈ ls, m.display = k <;> by_cases hl : l.display = k <;> simp [hls, hl]

theorem get?_release (index : Dict String) (id : String) (ls : List Locator) (k : String) :
    (release index id ls).get? k =
      if (∃ l ∈ ls, l.display = k) ∧ index.get? k = some id then none else index.get? k := by
  induction ls generalizing index with
  | nil => simp [release]
  | cons l ls ih =>
    have ih := ih (if index.get? l.display = some id then index.erase l.display else index)
    simp only [release, List.foldl_cons] at ih ⊢
    rw [ih]
    by_cases hid : index.get? l.display = some id
    · simp only [if_pos hid, Dict.get?_erase]
      by_cases hl : l.display = k
      · subst hl
        simp [hid]
      · simp [hl]
    · simp only [if_neg hid]
      by_cases hl : l.display = k
      · subst hl
        simp [hid]
      · simp [hl]

/-- A store on disk that holds what the writes so far, the last one first, leave behind. Entries
under texts that are no locators of trackers without slashes do not matter. -/
structure Follows (s : DiskStore) (past : List Ticket) : Prop where
  tickets : ∀ id, s.tickets.get? id = (lastOf past id).map Ticket.toJson
  slashFree : ∀ t ∈ past, t.SlashFree
  index : ∀ l : Locator, l.SlashFree → s.index.get? l.display = (holding past l).map (·.id)

variable {s : DiskStore} {past : List Ticket}

theorem follows_empty : Follows {} [] := ⟨fun _ => rfl, by simp, fun _ _ => rfl⟩

/-- The index without the entries that the previous version of a ticket lists has no entry left
that leads to the ticket. -/
theorem Follows.released (h : s.Follows past) (id : String) {l : Locator} (hl : l.SlashFree) :
    (match lastOf past id with
      | some old => release s.index id old.locators
      | none => s.index).get? l.display = ((holding past l).map (·.id)).filter (· ≠ id) := by
  have hmem : ∀ t, holding past l = some t → t.id = id → lastOf past id = some t := by
    rintro t ht rfl
    exact lastOf_of_holding ht
  cases hold : lastOf past id with
  | none =>
    rw [h.index l hl]
    cases ht : holding past l with
    | none => rfl
    | some t =>
      have hne : t.id ≠ id := by
        intro he
        rw [hmem t ht he] at hold
        cases hold
      simp [hne, Option.filter]
  | some old =>
    simp only [get?_release, h.index l hl]
    cases ht : holding past l with
    | none => simp
    | some t =>
      by_cases he : t.id = id
      · have hto : t = old := Option.some.inj ((hmem t ht he).symm.trans hold)
        have hlisted : ∃ m ∈ old.locators, m.display = l.display :=
          ⟨l, hto ▸ mem_locators_of_holding ht, rfl⟩
        simp [he, hlisted, Option.filter]
      · simp [he, Option.filter]

theorem Follows.putTicket (h : s.Follows past) {t : Ticket} (ht : t.SlashFree) :
    (s.putTicket t (lastOf past t.id)).Follows (t :: past) where
  tickets id := by
    rw [lastOf_cons]
    simp only [DiskStore.putTicket, Dict.get?_insert, h.tickets]
    by_cases hid : t.id = id <;> simp [hid]
  slashFree := by
    intro u hu
    rcases List.mem_cons.mp hu with rfl | hu
    · exact ht
    · exact h.slashFree u hu
  index l hl := by
    have hlisted : (∃ m ∈ t.locators, m.display = l.display) ↔ l ∈ t.locators := by
      constructor
      · rintro ⟨m, hm, hd⟩
        exact (Locator.display_inj (ht.locator hm) hl).mp hd ▸ hm
      · exact fun hm => ⟨l, hm, rfl⟩
    rw [map_id_holding_cons, ← h.released t.id hl]
    cases hprevious : lastOf past t.id with
    | none => simp [DiskStore.putTicket, get?_enter, hlisted]
    | some old => simp [DiskStore.putTicket, get?_enter, hlisted]

theorem Follows.getTicket_id (h : s.Follows past) (id : String) :
    s.getTicket (.id id) = orFail (ticketNotFound id) (lastOf past id) := by
  simp only [getTicket, bind, Except.bind, h.tickets, TicketQuery.display]
  cases lastOf past id <;> simp [orFail, readRecord]

theorem Follows.getTicket_locator (h : s.Follows past) {l : Locator} (hl : l.SlashFree) :
    s.getTicket (.locator l) = orFail (ticketNotFound l.display) (holding past l) := by
  simp only [getTicket, bind, Except.bind, TicketQuery.display, h.index l hl]
  cases hh : holding past l with
  | none => rfl
  | some t => simp [orFail, h.tickets, lastOf_of_holding hh, readRecord]

end DiskStore
end TicketSync
