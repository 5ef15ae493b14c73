import TicketSync.Proofs.TicketHistory
import TicketSync.Proofs.TicketTable

/-! # Runs at the same time over one store

Runs take turns in any order, and between their turns anything may happen that leaves the store
alone. What every turn keeps is a table of the stored tickets, which follows the writes of the runs
one by one, with the answers that the runs have got: a ticket that was ever found is still stored
when its run writes, whatever the others have put under its id since. -/
namespace TicketSync.Engine

/-- Something beside the runs that leaves the store alone. -/
structure Interlude (τ : Type) where
  change : World τ → World τ
  same : ∀ w : World τ, w.SameStore (change w)

/-- What happens next: a run has a turn, or something else happens. -/
inductive Move (τ : Type) where
  | run (i : Nat)
  | beside (x : Interlude τ)

/-- Runs under way at the same time, their surroundings, and the exchanges that they have had, in
order, each with the index of its run. -/
structure ConcurrentRuns (τ : Type) where
  pool : Pool Engine (World τ) Ticket
  world : World τ
  exchanges : List (Nat × Exchange Engine) := []

/-- The scripts of runs of jobs for updates. -/
def runScripts (runs : List (Job × Update)) : List (Script Engine Ticket) :=
  runs.map fun r => runJob r.1 r.2

namespace ConcurrentRuns

variable {τ : Type}

/-- Runs that have not begun. -/
def start (runs : List (Job × Update)) (w : World τ) : ConcurrentRuns τ :=
  { pool := (runScripts runs).map .ready, world := w }

/-- The runs after one more move. -/
def turn (e : Surroundings τ) (c : ConcurrentRuns τ) : Move τ → ConcurrentRuns τ
  | .run i =>
    let h := World.handler e
    ⟨(c.pool.step h c.world i).1, (c.pool.step h c.world i).2,
      c.exchanges ++ ((c.pool.exchange? h c.world i).map (i, ·)).toList⟩
  | .beside x => { c with world := x.change c.world }

/-- The runs after moves. -/
def after (e : Surroundings τ) (c : ConcurrentRuns τ) (moves : List (Move τ)) : ConcurrentRuns τ :=
  moves.foldl (turn e) c

/-- The exchanges of one run, in order. -/
def exchangesOf (c : ConcurrentRuns τ) (i : Nat) : List (Exchange Engine) :=
  c.exchanges.filterMap fun x => if x.1 = i then some x.2 else none

/-- The tickets that were stored, in order, each with the index of its run. -/
def writes (c : ConcurrentRuns τ) : List (Nat × Ticket) :=
  c.exchanges.filterMap fun x => (stored? x.2).map (x.1, ·)

/-- The ids that new tickets got, in order. -/
def created (c : ConcurrentRuns τ) : List String := c.exchanges.filterMap fun x => created? x.2

/-- How a run has ended, if it has. -/
def outcome? (c : ConcurrentRuns τ) (i : Nat) : Option (Outcome Ticket) :=
  c.pool[i]?.bind Task.outcome?

variable {e : Surroundings τ} {c : ConcurrentRuns τ}

theorem after_append (c : ConcurrentRuns τ) (moves more : List (Move τ)) :
    c.after e (moves ++ more) = (c.after e moves).after e more :=
  List.foldl_append

/-- Turns of the runs alone are a schedule of their pool. -/
theorem after_runs (c : ConcurrentRuns τ) (schedule : List Nat) :
    ((c.after e (schedule.map .run)).pool, (c.after e (schedule.map .run)).world) =
      c.pool.run (World.handler e) c.world schedule := by
  induction schedule generalizing c with
  | nil => rfl
  | cons i schedule ih => exact ih (c.turn e (.run i))

theorem mem_exchangesOf {i : Nat} {x : Exchange Engine} :
    x ∈ c.exchangesOf i ↔ (i, x) ∈ c.exchanges :=
  mem_entriesOf

theorem mem_writes {i : Nat} {t : Ticket} :
    (i, t) ∈ c.writes ↔ ∃ x ∈ c.exchangesOf i, stored? x = some t := by
  simp only [writes, List.mem_filterMap, mem_exchangesOf, Option.map_eq_some_iff, Prod.mk.injEq]
  constructor
  · rintro ⟨⟨k, x⟩, hmem, t', hstored, rfl, rfl⟩
    exact ⟨x, hmem, hstored⟩
  · rintro ⟨x, hmem, hstored⟩
    exact ⟨(i, x), hmem, t, hstored, rfl, rfl⟩

theorem exchanges_run (i : Nat) :
    (c.turn e (.run i)).exchanges = c.exchanges ++
      ((c.pool.exchange? (World.handler e) c.world i).map (i, ·)).toList := rfl

section
variable {c' : ConcurrentRuns τ} {i : Nat} {x? : Option (Exchange Engine)}
  (h : c'.exchanges = c.exchanges ++ (x?.map (i, ·)).toList)
include h

theorem exchangesOf_eq (j : Nat) :
    c'.exchangesOf j = c.exchangesOf j ++ if j = i then x?.toList else [] := by
  have hentries : c'.exchangesOf j = entriesOf j (c.exchanges ++ (x?.map (i, ·)).toList) := by
    rw [← h]
    rfl
  rw [hentries, entriesOf_append, entriesOf_toList]
  rfl

theorem writes_eq : c'.writes = c.writes ++ ((x?.bind stored?).map (i, ·)).toList := by
  simp only [writes, h, List.filterMap_append]
  cases x? with
  | none => simp
  | some x => cases hx : stored? x <;> simp [hx]

theorem created_eq : c'.created = c.created ++ (x?.bind created?).toList := by
  simp only [created, h, List.filterMap_append]
  cases x? with
  | none => simp
  | some x => cases hx : created? x <;> simp [hx]

theorem forall_exchanges {p : Exchange Engine → Prop} (hp : ∀ x ∈ c.exchanges, p x.2)
    (hx : ∀ x, x? = some x → p x) : ∀ x ∈ c'.exchanges, p x.2 := by
  intro x hmem
  rw [h, List.mem_append] at hmem
  rcases hmem with hmem | hmem
  · exact hp x hmem
  · obtain ⟨y, hy, rfl⟩ := Option.map_eq_some_iff.mp (Option.mem_toList.mp hmem)
    exact hx y hy

end

end ConcurrentRuns

/-! ### What every turn keeps -/

/-- What an answer says that no later write belies: a ticket that was found is stored since, and no
update has come back with nothing. -/
def Lasting (table : Dict Ticket) : Exchange Engine → Prop
  | ⟨.findTicket _, .ok t⟩ => table.contains t.id = true
  | ⟨.updateTicket _, .error f⟩ => f.isNotFound = false
  | _ => True

/-- Every ticket of a table is one of another one, by its id. -/
def TicketsStay (table table' : Dict Ticket) : Prop :=
  ∀ id, table.contains id = true → table'.contains id = true

theorem TicketsStay.insert (table : Dict Ticket) (id : String) (t : Ticket) :
    TicketsStay table (table.insert id t) :=
  fun id' h => (Dict.contains_insert table id id' t).mpr (.inr h)

theorem Lasting.mono {table table' : Dict Ticket} {x : Exchange Engine} (h : Lasting table x)
    (hstays : TicketsStay table table') : Lasting table' x := by
  obtain ⟨q, a⟩ := x
  cases q with
  | findTicket q =>
    cases a with
    | ok t => exact hstays t.id h
    | error f => trivial
  | updateTicket t =>
    cases a with
    | ok r => trivial
    | error f => exact h
  | _ => trivial

/-- One more write of a table that follows the writes to another one. -/
theorem get?_insert_written {table initial : Dict Ticket} {past : List Ticket}
    (h : ∀ id, table.get? id = (lastOf past id).or (initial.get? id)) (t : Ticket) (id : String) :
    (table.insert t.id t).get? id = (lastOf (t :: past) id).or (initial.get? id) := by
  rw [Dict.get?_insert, lastOf_cons, h]
  split <;> rfl

/-- Questions and exchanges of pooled runs are those of runs. -/
theorem asks_of_came {τ : Type} {h : Handler Engine (World τ)} {runs : List (Job × Update)}
    {asked : Nat → List Question} {told : Nat → List (Exchange Engine)}
    {pool : Pool Engine (World τ) Ticket}
    (hcame : Pool.CameFrom h (runScripts runs) asked told pool) (i : Nat) : (∀ q ∈ asked i, OfRun q) ∧ ∀ x ∈ told i, OfRun x.question := by
  cases hscript : (runScripts runs)[i]? with
  | none =>
    obtain ⟨hasked, htold⟩ := hcame.silent i hscript
    simp [hasked, htold]
  | some script =>
    obtain ⟨r, -, rfl⟩ := List.mem_map.mp (List.mem_of_getElem? hscript)
    exact (hcame.came hscript).asks (runJob_ofRun r.1 r.2)

/-- A world whose surroundings give new tickets different ids, which are not empty and under which
no ticket is stored. -/
structure World.FreshTickets {τ : Type} (w : World τ) (e : Surroundings τ) : Prop where
  named : ∀ n, w.tickets < n → e.ticketId n ≠ ""
  unknown : ∀ n, w.tickets < n → ∀ t, w.store.getTicket (.id (e.ticketId n)) ≠ .ok t
  distinct : ∀ m n, w.tickets < m → w.tickets < n → e.ticketId m = e.ticketId n → m = n

namespace ConcurrentRuns

variable {τ : Type} {e : Surroundings τ} {runs : List (Job × Update)} {w : World τ}
  {initial table : Dict Ticket} {c : ConcurrentRuns τ}

/-- What every turn of runs keeps that began in a world with a table of tickets. -/
structure Sound (e : Surroundings τ) (runs : List (Job × Update)) (w : World τ)
    (initial table : Dict Ticket) (c : ConcurrentRuns τ) : Prop where
  came : ∃ asked, Pool.CameFrom (World.handler e) (runScripts runs) asked c.exchangesOf c.pool
  evaluates : ∀ x ∈ c.exchanges, Evaluates e.functions x.2
  tickets : c.world.store.HasTickets table
  content : ∀ id, table.get? id = (lastOf (c.writes.map (·.2)).reverse id).or (initial.get? id)
  lasting : ∀ x ∈ c.exchanges, Lasting table x.2
  ids : c.created = (List.range c.created.length).map fun n => e.ticketId (w.tickets + n + 1)
  count : c.world.tickets = w.tickets + c.created.length

theorem sound_start (hw : w.store.HasTickets initial) :
    Sound e runs w initial initial (start runs w) where
  came := ⟨fun _ => [], .start _ _ (fun _ => rfl) fun _ => rfl⟩
  evaluates := by simp [start]
  tickets := hw
  content _ := rfl
  lasting := by simp [start]
  ids := rfl
  count := rfl

theorem Sound.turn_beside (h : Sound e runs w initial table c) (x : Interlude τ) :
    Sound e runs w initial table (c.turn e (.beside x)) :=
  { h with
    tickets := (x.same c.world).store ▸ h.tickets
    count := (x.same c.world).tickets.trans h.count }

/-- The script of a run that has had an exchange, and its task. -/
theorem Sound.run_of_exchange (h : Sound e runs w initial table c) {i : Nat} {x : Exchange Engine}
    (hx : x ∈ c.exchangesOf i) :
    ∃ j u asked task, runs[i]? = some (j, u) ∧ c.pool[i]? = some task ∧
      Task.CameFrom (World.handler e) (runJob j u) asked (c.exchangesOf i) task := by
  obtain ⟨asked, hcame⟩ := h.came
  cases hscript : (runScripts runs)[i]? with
  | none =>
    rw [(hcame.silent i hscript).2] at hx
    cases hx
  | some script =>
    obtain ⟨task, htask, hfrom⟩ := hcame.task i script hscript
    rw [runScripts, List.getElem?_map] at hscript
    obtain ⟨⟨j, u⟩, hrun, rfl⟩ := Option.map_eq_some_iff.mp hscript
    exact ⟨j, u, asked i, task, hrun, htask, hfrom⟩

theorem Sound.evaluates_of (h : Sound e runs w initial table c) (i : Nat) :
    ∀ x ∈ c.exchangesOf i, Evaluates e.functions x :=
  fun _ hx => h.evaluates _ (mem_exchangesOf.mp hx)

/-- The ticket that a run updates is still stored. -/
theorem Sound.known_of_update (h : Sound e runs w initial table c) {i : Nat} {u : Update}
    {t : Ticket} {told : List (Exchange Engine)} (htold : ∀ x ∈ told, x ∈ c.exchangesOf i)
    (hdecides : Decides u told (.updateTicket t)) : table.contains t.id = true := by
  cases hdecides with
  | @update _ found more lookup named same =>
    have hmem : ⟨.findTicket (.locator u.receivedFrom), .ok found⟩ ∈ told := by simp [lookup]
    rw [same]
    exact h.lasting _ (mem_exchangesOf.mp (htold _ hmem))

/-- Every answer that comes in a turn lasts. -/
theorem Sound.lasting_of_answered (h : Sound e runs w initial table c) {i : Nat}
    {x : Exchange Engine} (hx : c.pool.exchange? (World.handler e) c.world i = some x)
    (hanswered : AnsweredBy table x) : Lasting table x := by
  obtain ⟨q, a⟩ := x
  cases q with
  | findTicket q =>
    cases a with
    | ok t => exact Option.isSome_iff_exists.mpr ⟨t, hanswered⟩
    | error f => trivial
  | updateTicket t =>
    cases a with
    | ok r => trivial
    | error f =>
      obtain ⟨asked, hcame⟩ := h.came
      obtain ⟨script, next, hscript, hleads⟩ := hcame.leads_of_exchange hx
      obtain ⟨⟨j, u⟩, -, rfl⟩ := List.mem_map.mp (List.mem_of_getElem? hscript)
      have hdecides := decides_of_leads hleads (h.evaluates_of i) rfl
      have hknown := h.known_of_update (fun _ hmem => hmem) hdecides
      cases hf : f.isNotFound with
      | false => exact hf
      | true => cases hknown.symm.trans (hanswered hf)
  | _ => trivial

/-- One more exchange is told of runs, with its effect on the table. -/
theorem Sound.record (h : Sound e runs w initial table c) {c' : ConcurrentRuns τ} {i : Nat}
    {x? : Option (Exchange Engine)}
    (hcame : ∃ asked,
      Pool.CameFrom (World.handler e) (runScripts runs) asked c'.exchangesOf c'.pool)
    (hexchanges : c'.exchanges = c.exchanges ++ (x?.map (i, ·)).toList)
    (hevaluates : ∀ x, x? = some x → Evaluates e.functions x)
    (hlasting : ∀ x, x? = some x → AnsweredBy table x → Lasting table x)
    (heffect : World.TicketEffect e c.world table c'.world x?) :
    ∃ table', Sound e runs w initial table' c' ∧ TicketsStay table table' := by
  have hcontent := get?_insert_written h.content
  have hwrites := writes_eq hexchanges
  have hcreated := created_eq hexchanges
  have hevaluates' := forall_exchanges hexchanges h.evaluates hevaluates
  cases heffect with
  | @created t id number tickets count =>
    have hstays := TicketsStay.insert table id { t with id }
    refine ⟨_, ⟨hcame, hevaluates', tickets, ?_, ?_, ?_, ?_⟩, hstays⟩
    · intro k
      simpa [hwrites, stored?] using hcontent { t with id } k
    · refine forall_exchanges hexchanges (fun x hx => (h.lasting x hx).mono hstays) ?_
      rintro x ⟨⟩
      trivial
    · have hids := h.ids
      have hnext : id = e.ticketId (w.tickets + c.created.length + 1) := by rw [number, h.count]
      simp only [hcreated, Option.bind_some, created?, Option.toList_some, List.length_append,
        List.length_singleton, List.range_succ, List.map_append, List.map_singleton, ← hids, hnext]
    · simp [count, h.count, hcreated, created?]
      omega
  | updated t known tickets count =>
    have hstays := TicketsStay.insert table t.id t
    refine ⟨_, ⟨hcame, hevaluates', tickets, ?_, ?_, ?_, ?_⟩, hstays⟩
    · intro k
      simpa [hwrites, stored?] using hcontent t k
    · refine forall_exchanges hexchanges (fun x hx => (h.lasting x hx).mono hstays) ?_
      rintro x ⟨⟩
      trivial
    · simpa [hcreated, created?] using h.ids
    · simpa [hcreated, created?, count] using h.count
  | kept tickets count quiet =>
    have hstored : x?.bind stored? = none := by
      simpa using fun x hx => (quiet x hx).1
    have hcreated' : x?.bind created? = none := by
      simpa using fun x hx => created?_of_stored? (quiet x hx).1
    refine ⟨table, ⟨hcame, hevaluates', tickets, ?_, ?_, ?_, ?_⟩, fun _ hid => hid⟩
    · simpa [hwrites, hstored] using h.content
    · exact forall_exchanges hexchanges h.lasting fun x hx => hlasting x hx (quiet x hx).2
    · simpa [hcreated, hcreated'] using h.ids
    · simpa [hcreated, hcreated', count] using h.count

/-- A turn of a run keeps all this, and every ticket stays. -/
theorem Sound.turn_run (hfresh : w.FreshTickets e) (h : Sound e runs w initial table c) (i : Nat) :
    ∃ table', Sound e runs w initial table' (c.turn e (.run i)) ∧ TicketsStay table table' := by
  obtain ⟨asked, hcame⟩ := h.came
  have hturn := hcame.turn c.world i
  have hexchanges := exchanges_run (e := e) (c := c) i
  have hcame' : Pool.CameFrom (World.handler e) (runScripts runs)
      (fun j => asked j ++ if j = i then (c.pool.question? i).toList else [])
      (c.turn e (.run i)).exchangesOf (c.turn e (.run i)).pool :=
    hcame.step c.world i (fun _ => rfl) (exchangesOf_eq hexchanges)
  obtain ⟨hasked, htold⟩ := asks_of_came hcame' i
  refine h.record ⟨_, hcame'⟩ hexchanges ?_ (fun x hx => h.lasting_of_answered hx) ?_
  · exact fun x hx => (World.handler_evaluates e).of_gives (hturn.gives x hx)
  · refine World.ticketEffect_of_turn hturn h.tickets (fun q hq => hasked q ?_)
      (fun x hx => htold x ?_) (hfresh.named _ ?_)
    · simp [hq]
    · simp [exchangesOf_eq hexchanges, hx]
    · have hcount := h.count
      omega

theorem Sound.after (hfresh : w.FreshTickets e) (h : Sound e runs w initial table c)
    (moves : List (Move τ)) :
    ∃ table', Sound e runs w initial table' (c.after e moves) ∧ TicketsStay table table' := by
  induction moves generalizing c table with
  | nil => exact ⟨table, h, fun _ hid => hid⟩
  | cons move moves ih =>
    cases move with
    | run i =>
      obtain ⟨table', h', hstays⟩ := h.turn_run hfresh i
      obtain ⟨table'', h'', hstays'⟩ := ih h'
      exact ⟨table'', h'', fun id hid => hstays' id (hstays id hid)⟩
    | beside x => exact ih (h.turn_beside x)

/-! ### The tickets that are left -/

/-- A write as the look-up of its run decides it: an update of the ticket that was found, which is
still there, or a new ticket when none was found. -/
inductive Chosen : Outcome Ticket → Exchange Engine → Prop
  | update {found t : Ticket} {a : Outcome Unit} (same : t.id = found.id)
      (known : ∀ f, a = .error f → f.isNotFound = false) : Chosen (.ok found) ⟨.updateTicket t, a⟩
  | create {f : Failure} {t : Ticket} {a : Outcome String} (unknown : f.isNotFound = true) :
      Chosen (.error f) ⟨.createTicket t, a⟩

/-- What runs have done to the tickets that were stored in the world that they began in. -/
structure LastWriteWins (runs : List (Job × Update)) (w : World τ) (c : ConcurrentRuns τ) :
    Prop where
  once : ∀ i before x after, c.exchangesOf i = before ++ x :: after → x.question.isWrite = true →
    after = [] ∧ ∀ y ∈ before, y.question.isWrite = false
  chosen : ∀ i, ∀ x ∈ c.exchangesOf i, x.question.isWrite = true →
    ∃ j u looked more, runs[i]? = some (j, u) ∧
      c.exchangesOf i = ⟨.findTicket (.locator u.receivedFrom), looked⟩ :: more ∧ Chosen looked x
  returned : ∀ i t, c.outcome? i = some (.ok t) ↔ (i, t) ∈ c.writes
  created : c.created.Nodup ∧
    ∀ id ∈ c.created, id ≠ "" ∧ ∀ t, w.store.getTicket (.id id) ≠ .ok t
  last : ∀ earlier i t later, c.writes = earlier ++ (i, t) :: later →
    (∀ y ∈ later, y.2.id ≠ t.id) →
    c.world.store.getTicket (.id t.id) = .ok t ∧ c.outcome? i = some (.ok t)
  unwritten : ∀ id, (∀ y ∈ c.writes, y.2.id ≠ id) →
    c.world.store.getTicket (.id id) = w.store.getTicket (.id id)

/-- The exchanges of a run are those of its script. -/
theorem Sound.leads (h : Sound e runs w initial table c) {i : Nat} {x : Exchange Engine}
    (hx : x ∈ c.exchangesOf i) :
    ∃ j u rest, runs[i]? = some (j, u) ∧ (runJob j u).Leads (c.exchangesOf i) rest := by
  obtain ⟨j, u, asked, task, hrun, -, hfrom⟩ := h.run_of_exchange hx
  obtain ⟨rest, hleads, -⟩ := hfrom.came
  exact ⟨j, u, rest, hrun, hleads⟩

theorem Sound.once (h : Sound e runs w initial table c) {i : Nat}
    {before after : List (Exchange Engine)} {x : Exchange Engine}
    (htold : c.exchangesOf i = before ++ x :: after) (hx : x.question.isWrite = true) :
    after = [] ∧ ∀ y ∈ before, y.question.isWrite = false := by
  obtain ⟨j, u, rest, -, hleads⟩ := h.leads (x := x) (i := i) (by simp [htold])
  obtain ⟨hafter, hbefore, -⟩ := write_of_leads hleads htold hx
  exact ⟨hafter, hbefore⟩

theorem Sound.chosen (h : Sound e runs w initial table c) {i : Nat} {x : Exchange Engine}
    (hmem : x ∈ c.exchangesOf i) (hx : x.question.isWrite = true) :
    ∃ j u looked more, runs[i]? = some (j, u) ∧
      c.exchangesOf i = ⟨.findTicket (.locator u.receivedFrom), looked⟩ :: more ∧
      Chosen looked x := by
  obtain ⟨j, u, rest, hrun, hleads⟩ := h.leads hmem
  obtain ⟨before, after, htold, hdecides⟩ := decides_of_write hleads (h.evaluates_of i) hmem hx
  have hlasting := h.lasting _ (mem_exchangesOf.mp hmem)
  obtain ⟨q, a⟩ := x
  cases hdecides with
  | @update t found more lookup named same =>
    refine ⟨j, u, .ok found, more ++ ⟨.updateTicket t, a⟩ :: after, hrun, ?_, .update same ?_⟩
    · rw [htold, lookup, List.cons_append]
    · rintro f rfl
      exact hlasting
  | @create t looked more lookup unknown =>
    refine ⟨j, u, looked, more ++ ⟨.createTicket t, a⟩ :: after, hrun, ?_, ?_⟩
    · rw [htold, lookup, List.cons_append]
    · rcases unknown with ⟨found, rfl, hempty⟩ | ⟨f, rfl, hf⟩
      · -- A stored ticket has an id that is not empty.
        have hlooked : ⟨.findTicket (.locator u.receivedFrom), .ok found⟩ ∈ c.exchangesOf i := by
          simp [htold, lookup]
        have hfound := h.lasting _ (mem_exchangesOf.mp hlooked)
        obtain ⟨t', ht'⟩ := Option.isSome_iff_exists.mp hfound
        exact absurd hempty (h.tickets.named found.id t' ht').2
      · exact .create hf

/-- A run ends with the ticket that it has stored. -/
theorem Sound.returned (h : Sound e runs w initial table c) (i : Nat) (t : Ticket) :
    c.outcome? i = some (.ok t) ↔ (i, t) ∈ c.writes := by
  rw [mem_writes]
  constructor
  · intro hend
    obtain ⟨task, htask, houtcome⟩ := Option.bind_eq_some_iff.mp hend
    obtain ⟨asked, hcame⟩ := h.came
    have hi : i < (runScripts runs).length := by
      rw [← hcame.length]
      exact (List.getElem?_eq_some_iff.mp htask).1
    obtain ⟨task', htask', hfrom⟩ := hcame.task i _ (List.getElem?_eq_getElem hi)
    obtain rfl := Option.some.inj (htask'.symm.trans htask)
    obtain ⟨⟨j, u⟩, -, hscript⟩ := List.mem_map.mp (List.getElem_mem hi)
    have hleads := (hfrom.leads_of_outcome houtcome).1
    rw [← hscript] at hleads
    exact stored_of_leads hleads
  · rintro ⟨x, hx, hstored⟩
    obtain ⟨j, u, asked, task, -, htask, hfrom⟩ := h.run_of_exchange hx
    obtain ⟨before, after, htold⟩ := List.append_of_mem hx
    have hdone : ∀ {rest : Script Engine Ticket}, (runJob j u).Leads (c.exchangesOf i) rest →
        rest = .done t := by
      intro rest hleads
      obtain ⟨-, -, hend⟩ := write_of_leads hleads htold (isWrite_of_stored hstored)
      rcases hend with ⟨t', hstored', hrest⟩ | ⟨hnone, -⟩
      · rw [hrest, Option.some.inj (hstored'.symm.trans hstored)]
      · cases hnone.symm.trans hstored
    rw [outcome?, htask, Option.bind_some]
    generalize c.exchangesOf i = told at hfrom hdone
    cases hfrom with
    | ready leads =>
      rw [hdone leads]
      rfl
    | waiting s leads slow => cases hdone leads

theorem Sound.created (hfresh : w.FreshTickets e) (h : Sound e runs w initial table c) :
    c.created.Nodup ∧ ∀ id ∈ c.created, id ≠ "" ∧ ∀ t, w.store.getTicket (.id id) ≠ .ok t := by
  rw [h.ids]
  constructor
  · refine List.Pairwise.map _ (fun m n hne hsame => hne ?_) List.nodup_range
    have hsame' := hfresh.distinct _ _ (by omega) (by omega) hsame
    omega
  · intro id hid
    obtain ⟨n, -, rfl⟩ := List.mem_map.mp hid
    exact ⟨hfresh.named _ (by omega), hfresh.unknown _ (by omega)⟩

theorem Sound.last (h : Sound e runs w initial table c) {earlier later : List (Nat × Ticket)}
    {i : Nat} {t : Ticket} (hwrites : c.writes = earlier ++ (i, t) :: later)
    (hlater : ∀ y ∈ later, y.2.id ≠ t.id) :
    c.world.store.getTicket (.id t.id) = .ok t ∧ c.outcome? i = some (.ok t) := by
  have hlast : lastOf (c.writes.map (·.2)).reverse t.id = some t := by
    refine (lastOf_eq_some_iff _ _ _).mpr ⟨rfl, earlier.map (·.2), later.map (·.2), ?_, ?_⟩
    · simp [hwrites]
    · intro u hu
      obtain ⟨y, hy, rfl⟩ := List.mem_map.mp hu
      exact hlater y hy
  constructor
  · rw [h.tickets.getTicket_id, h.content, hlast]
    rfl
  · rw [h.returned, hwrites]
    simp

theorem Sound.unwritten (hw : w.store.HasTickets initial) (h : Sound e runs w initial table c)
    {id : String} (hid : ∀ y ∈ c.writes, y.2.id ≠ id) :
    c.world.store.getTicket (.id id) = w.store.getTicket (.id id) := by
  have hnone : lastOf (c.writes.map (·.2)).reverse id = none := by
    rw [lastOf_eq_none_iff]
    intro t ht
    obtain ⟨y, hy, rfl⟩ := List.mem_map.mp (List.mem_reverse.mp ht)
    exact hid y hy
  rw [h.tickets.getTicket_id, hw.getTicket_id, h.content, hnone, Option.none_or]

/-- However runs take turns over one store that was reached from the start, where an operation of
the store belongs to one turn, and whatever happens meanwhile that leaves the store alone: each run
writes once at most, and last. It updates the ticket that it has found, which is never gone then,
or creates one if it found none, under an id that no other ticket has. No ticket ever goes. And
under each id stands the ticket that the last run to write it has ended with, or the one from before
the runs if none has written it. -/
theorem last_write_wins (e : Surroundings τ) (runs : List (Job × Update)) (w : World τ)
    (hstore : w.store.Reached) (hfresh : w.FreshTickets e) (moves : List (Move τ)) :
    let c := (start runs w).after e moves
    (∀ schedule : List Nat, moves = schedule.map .run →
      (c.pool, c.world) = Pool.run (World.handler e) ((runScripts runs).map .ready) w schedule) ∧
    LastWriteWins runs w c ∧
    ∀ more id t, c.world.store.getTicket (.id id) = .ok t →
      ∃ t', ((start runs w).after e (moves ++ more)).world.store.getTicket (.id id) = .ok t' := by
  intro c
  obtain ⟨initial, hw⟩ := hstore.exists_hasTickets
  have hstart : Sound e runs w initial initial (start runs w) := sound_start hw
  obtain ⟨table, h, -⟩ := hstart.after hfresh moves
  refine ⟨?_, ⟨?_, ?_, h.returned, h.created hfresh, ?_, ?_⟩, ?_⟩
  · rintro schedule rfl
    exact after_runs (start runs w) schedule
  · exact fun i before x after htold hx => h.once htold hx
  · exact fun i x hmem hx => h.chosen hmem hx
  · exact fun earlier i t later hwrites hlater => h.last hwrites hlater
  · exact fun id hid => h.unwritten hw hid
  · intro more id t ht
    obtain ⟨table', h', hstays⟩ := h.after hfresh more
    rw [after_append]
    have hknown : table.contains id = true := by
      rw [h.tickets.getTicket_id] at ht
      cases hget : table.get? id with
      | none => simp [hget, orFail] at ht
      | some t => simp [Dict.contains, hget]
    obtain ⟨t', ht'⟩ := Option.isSome_iff_exists.mp (hstays id hknown)
    exact ⟨t', by rw [h'.tickets.getTicket_id, ht']; rfl⟩

/-- The desk, where tickets are numbered by strokes. -/
def strokes : Surroundings Unit :=
  { Course.desk with ticketId := fun n => String.ofList (List.replicate n 't') }

/-- Two runs that each open a task for the same mail. -/
def rivals : List (Job × Update) :=
  List.replicate 2 (Course.openTask, { receivedFrom := ⟨"mail", "1"⟩ })

/-- The runs have their turns one after the other. -/
def byTurns : List (Move Unit) := (List.range 20).map fun n => .run (n % 2)

theorem strokes_fresh :
    ({ store := .memory {}, trackers := () } : World Unit).FreshTickets strokes where
  named n hn hempty := by
    have hnil := String.ofList_eq_empty_iff.mp hempty
    simp only [List.replicate_eq_nil_iff] at hnil
    omega
  unknown n _ t ht := by cases ht
  distinct m n _ _ hsame := by
    have hlength := congrArg List.length (String.ofList_injective hsame)
    simpa using hlength

/-- Both runs find nothing, and each creates a ticket of its own. -/
theorem rivals_leave_their_tickets :
    let w : World Unit := { store := .memory {}, trackers := () }
    let c := (start rivals w).after strokes byTurns
    w.store.Reached ∧ w.FreshTickets strokes ∧ c.created = ["t", "tt"] ∧
    c.writes.map (·.1) = [0, 1] ∧ LastWriteWins rivals w c := by
  intro w c
  have hstore : w.store.Reached := ⟨[], by simp, .inl rfl⟩
  have hlast := last_write_wins strokes rivals w hstore strokes_fresh byTurns
  exact ⟨hstore, strokes_fresh, by decide +kernel, by decide +kernel, hlast.2.1⟩

end ConcurrentRuns
end TicketSync.Engine
