import TicketSync.Plugin.Client

/-! # Replies on a shared connection reach the calls that they are for

Whatever order the events of a connection come in, a call that entered the table either waits there
unanswered, or was taken out of it by the first reply that carries its number, or was told that the
connection has ended. This is the invariant `Fate`; with it goes that the table is empty once the
connection has ended on either side. -/
namespace TicketSync.Plugin

/-- The stages of a call that entered the table and is not settled. Its caller may be gone. -/
def CallStage.IsOpen (s : CallStage) : Prop := s = .registered ∨ s = .sent ∨ s = .abandoned

/-- The stages of a call that never entered the table: it has its number, its caller is gone, or it
was told that the connection has ended. -/
def CallStage.IsRefused (s : CallStage) : Prop :=
  s = .numbered ∨ s = .abandoned ∨ s = .settled (.error .connectionLost)

namespace Client

/-! ### Calls and their numbers -/

theorem call?_update (c : Client) (id id' : Nat) (f : ClientCall → ClientCall) :
    (c.update id f).call? id' = if id' = id then (c.call? id').map f else c.call? id' := by
  by_cases hzero' : id' = 0
  · simp [call?, hzero']
  · by_cases hzero : id = 0
    · have hother : ¬ id' = id := by omega
      simp [update, hzero, hzero']
    · have hsame : id - 1 = id' - 1 ↔ id' = id := by omega
      simp only [update, call?, hzero, hzero', if_false, List.getElem?_modify, hsame]
      split <;> simp

theorem call?_begin (c : Client) (call : ClientCall) (id : Nat) :
    ({ c with calls := c.calls ++ [call] } : Client).call? id =
      if id = c.calls.length + 1 then some call else c.call? id := by
  by_cases hzero : id = 0
  · simp [call?, hzero]
  · by_cases hnew : id = c.calls.length + 1
    · simp [call?, hnew]
    · have hother : ¬ id - 1 = c.calls.length := by omega
      simp only [call?, hzero, hnew, if_false, List.getElem?_append, List.getElem?_singleton]
      grind

theorem call?_eq_none_of_length {c : Client} {id : Nat} (h : c.calls.length < id) :
    c.call? id = none := by
  have hend : c.calls.length ≤ id - 1 := by omega
  simp [call?, hend]

theorem update_congr {c : Client} {id : Nat} {f g : ClientCall → ClientCall}
    (h : ∀ call, c.call? id = some call → f call = g call) : c.update id f = c.update id g := by
  by_cases hzero : id = 0
  · simp [update, hzero]
  · have hcalls : c.calls.modify (id - 1) f = c.calls.modify (id - 1) g := by
      apply List.ext_getElem?
      intro k
      simp only [List.getElem?_modify]
      split
      · next hk =>
        subst hk
        cases hcall : c.calls[id - 1]? with
        | none => rfl
        | some call => simp [h call (by simp [call?, hzero, hcall])]
      · rfl
    simp [update, hzero, hcalls]

theorem update_self (c : Client) (id : Nat) : c.update id (fun call => call) = c := by
  by_cases hzero : id = 0
  · simp [update, hzero]
  · have hcalls : c.calls.modify (id - 1) (fun call => call) = c.calls := List.modify_id _ _
    simp [update, hzero, hcalls]

@[simp] theorem waiters_update (c : Client) (id : Nat) (f : ClientCall → ClientCall) :
    (c.update id f).waiters = c.waiters := by
  unfold update
  split <;> rfl

@[simp] theorem lines_update (c : Client) (id : Nat) (f : ClientCall → ClientCall) :
    (c.update id f).lines = c.lines := by
  unfold update
  split <;> rfl

@[simp] theorem readerEnded_update (c : Client) (id : Nat) (f : ClientCall → ClientCall) :
    (c.update id f).readerEnded = c.readerEnded := by
  unfold update
  split <;> rfl

@[simp] theorem closed_update (c : Client) (id : Nat) (f : ClientCall → ClientCall) :
    (c.update id f).closed = c.closed := by
  unfold update
  split <;> rfl

/-- What no delivery changes is the same after all that wait were told of the end. -/
theorem eq_shutDown {β : Type} {view : Client → β}
    (hdeliver : ∀ c id r, view (c.deliver id r) = view c)
    (htable : ∀ c : Client, view { c with waiters := [] } = view c) (c : Client) :
    view c.shutDown = view c := by
  have hall : ∀ (ids : List Nat) (c : Client),
      view (ids.foldl (fun c id => c.deliver id (.error .connectionLost)) c) = view c := by
    intro ids
    induction ids with
    | nil => exact fun _ => rfl
    | cons i ids ih => exact fun c => (ih _).trans (hdeliver c i _)
  exact (htable _).trans (hall c.waiters c)

@[simp] theorem lines_shutDown (c : Client) : c.shutDown.lines = c.lines :=
  eq_shutDown (fun c id _ => lines_update c id _) (fun _ => rfl) c

@[simp] theorem closed_shutDown (c : Client) : c.shutDown.closed = c.closed :=
  eq_shutDown (fun c id _ => closed_update c id _) (fun _ => rfl) c

/-- A call after its connection has ended: it is told so if it waited in the table. -/
theorem call?_shutDown (c : Client) (id : Nat) :
    c.shutDown.call? id = if id ∈ c.waiters then
      (c.call? id).map fun call => { call with delivered := some (.error .connectionLost) }
      else c.call? id := by
  have htold : ∀ (ids : List Nat) (c : Client),
      (ids.foldl (fun c id => c.deliver id (.error .connectionLost)) c).call? id =
        if id ∈ ids then
          (c.call? id).map fun call => { call with delivered := some (.error .connectionLost) }
        else c.call? id := by
    intro ids
    induction ids with
    | nil => simp
    | cons i ids ih =>
      intro c
      rw [List.foldl_cons, ih, deliver, call?_update]
      by_cases hi : id = i
      · subst hi
        by_cases hmem : id ∈ ids <;> simp [hmem, Function.comp_def]
      · simp [hi]
  exact htold c.waiters c

@[simp] theorem closed_forget (c : Client) (id : Nat) : (c.forget id).closed = c.closed := rfl

theorem run_concat (c : Client) (events : List ClientEvent) (e : ClientEvent) :
    c.run (events ++ [e]) = (c.run events).step e := by
  simp [run]

/-! ### One event -/

/-- A line that is a well-formed reply and carries a number. -/
def Carries (line : List Char) (id : Nat) (r : Response) : Prop :=
  readLine? Response.ofJson? line = some r ∧ r.id = id

/-- What an event does to a connection. -/
inductive Stepped (c : Client) : ClientEvent → Client → Prop
  | idle {e : ClientEvent} (passed : ∀ line r, e = .receive line → c.readerEnded = false →
      Carries line r.id r → r.id ∉ c.waiters) : Stepped c e c
  | begun (method : String) (params : Json) :
      Stepped c (.begin method params) { c with calls := c.calls ++ [{ method, params }] }
  | refused {i : Nat} {call : ClientCall} (call? : c.call? i = some call)
      (stage : call.stage = .numbered) (ended : c.closed = true) :
      Stepped c (.register i) (c.settle i (.error .connectionLost))
  | entered {i : Nat} {call : ClientCall} (call? : c.call? i = some call)
      (stage : call.stage = .numbered) (up : c.closed = false) :
      Stepped c (.register i) { c.update i fun call => { call with stage := .registered } with
        waiters := i :: c.waiters }
  | cut {i : Nat} {call : ClientCall} (call? : c.call? i = some call)
      (stage : call.stage = .registered) (ended : c.closed = true) :
      Stepped c (.send i) ((c.forget i).settle i (.error .connectionLost))
  | sent {i : Nat} {call : ClientCall} (call? : c.call? i = some call)
      (stage : call.stage = .registered) :
      Stepped c (.send i) { c.update i fun call => { call with stage := .sent } with
        lines := c.lines ++ [(request i call).line] }
  | answered {line : List Char} {r : Response} (up : c.readerEnded = false)
      (carries : Carries line r.id r) (waits : r.id ∈ c.waiters) :
      Stepped c (.receive line) ((c.forget r.id).deliver r.id r.outcome)
  | ended {e : ClientEvent} {c' : Client} (silent : ∀ line, e ≠ .receive line)
      (calls : c'.calls = c.calls) (waiters : c'.waiters = c.waiters) (lines : c'.lines = c.lines)
      (closed : c'.closed = true) : Stepped c e c'.shutDown
  | woken {i : Nat} {call : ClientCall} {o : Outcome Json} (call? : c.call? i = some call)
      (stage : call.stage = .sent) (came : call.delivered = some o) :
      Stepped c (.wake i) (c.settle i o)
  | left {i : Nat} {call : ClientCall} (call? : c.call? i = some call)
      (waits : call.isWaiting = true) :
      Stepped c (.abandon i) (c.update i fun call => { call with stage := .abandoned })

theorem stepped (c : Client) (e : ClientEvent) : Stepped c e (c.step e) := by
  cases e with
  | begin method params => exact .begun method params
  | register i =>
    simp only [step]
    split
    · next hi =>
      split
      · next hc => exact .refused hi rfl hc
      · next hc => exact .entered hi rfl (by simpa using hc)
    · exact .idle (by simp)
  | send i =>
    simp only [step]
    split
    · next hi =>
      split
      · next hw => exact .cut hi rfl (by simp [closed, hw])
      · exact .sent hi rfl
    · exact .idle (by simp)
  | receive line =>
    simp only [step]
    split
    · next hended =>
      refine .idle ?_
      intro line r _ hup
      cases hended.symm.trans hup
    · next hup =>
      split
      · next r hread =>
        simp only [route]
        split
        · next hmem => exact .answered (by simpa using hup) ⟨hread, rfl⟩ hmem
        · next hmem =>
          refine .idle ?_
          rintro _ r' ⟨rfl⟩ _ ⟨hread', -⟩
          obtain rfl := Option.some.inj (hread.symm.trans hread')
          exact hmem
      · next hread =>
        refine .idle ?_
        rintro _ r' ⟨rfl⟩ _ ⟨hread', -⟩
        cases hread.symm.trans hread'
  | endRead => exact .ended (by simp) rfl rfl rfl rfl
  | endWrite => exact .ended (by simp) rfl rfl rfl (by simp [closed])
  | wake i =>
    simp only [step]
    split
    · next hi => exact .woken hi rfl rfl
    · exact .idle (by simp)
  | abandon i =>
    simp only [step]
    cases hi : c.call? i with
    | none =>
      rw [update_congr (by simp [hi]), update_self]
      exact .idle (by simp)
    | some call =>
      cases hwaits : call.isWaiting with
      | true =>
        rw [@update_congr c i _ (fun call => { call with stage := .abandoned }) (by simp [hi, hwaits])]
        exact .left hi hwaits
      | false =>
        rw [@update_congr c i _ (fun call => call) (by simp [hi, hwaits]), update_self]
        exact .idle (by simp)

/-- Whether the call of a number enters the table when its turn to register comes. -/
def Enters (c : Client) (id : Nat) : Prop :=
  c.closed = false ∧ ∃ call, c.call? id = some call ∧ call.stage = .numbered

/-- A call entered the table, and no reply that carries its number has been received since. -/
def Unanswered (events : List ClientEvent) (id : Nat) : Prop :=
  ∃ before between, events = before ++ .register id :: between ∧ (run {} before).Enters id ∧
    ∀ line r, .receive line ∈ between → ¬ Carries line id r

/-- The first reply that carries the number of a call and is received after the call entered the
table. -/
def FirstReply (events : List ClientEvent) (id : Nat) (r : Response) : Prop :=
  ∃ before line after, events = before ++ .receive line :: after ∧ Unanswered before id ∧
    (run {} before).readerEnded = false ∧ Carries line id r

theorem Unanswered.concat {events : List ClientEvent} {id : Nat} (h : Unanswered events id)
    {e : ClientEvent} (he : ∀ line r, e = .receive line → ¬ Carries line id r) :
    Unanswered (events ++ [e]) id := by
  obtain ⟨before, between, rfl, henters, hnone⟩ := h
  refine ⟨before, between ++ [e], by simp, henters, ?_⟩
  intro line r hmem
  rcases List.mem_append.mp hmem with hmem | hmem
  · exact hnone line r hmem
  · exact he line r (List.mem_singleton.mp hmem).symm

theorem FirstReply.append {events : List ClientEvent} {id : Nat} {r : Response}
    (h : FirstReply events id r) (later : List ClientEvent) : FirstReply (events ++ later) id r := by
  obtain ⟨before, line, after, rfl, hrest⟩ := h
  exact ⟨before, line, after ++ later, by simp, hrest⟩

/-! ### What becomes of a call -/

/-- What has become of a call after events on its connection. -/
inductive Fate (events : List ClientEvent) (c : Client) (id : Nat) (call : ClientCall) : Prop
  | outside (mem : id ∉ c.waiters) (nothing : call.delivered = none)
      (stage : call.stage = .numbered ∨ call.stage = .abandoned ∨
        call.stage = .settled (.error .connectionLost) ∧ c.closed = true)
  | waiting (mem : id ∈ c.waiters) (nothing : call.delivered = none)
      (unanswered : Unanswered events id) (stage : call.stage.IsOpen)
  | answered (r : Response) (mem : id ∉ c.waiters) (first : FirstReply events id r)
      (came : call.delivered = some r.outcome)
      (stage : call.stage.IsOpen ∨ call.stage = .settled r.outcome ∨
        call.stage = .settled (.error .connectionLost) ∧ c.closed = true)
  | lost (mem : id ∉ c.waiters) (closed : c.closed = true)
      (came : call.delivered = some (.error .connectionLost))
      (stage : call.stage.IsOpen ∨ call.stage = .settled (.error .connectionLost))

/-- What every event keeps. -/
structure Sound (events : List ClientEvent) (c : Client) : Prop where
  shut : c.closed = true → c.waiters = []
  distinct : c.waiters.Nodup
  known : ∀ id ∈ c.waiters, ∃ call, c.call? id = some call
  fate : ∀ id call, c.call? id = some call → Fate events c id call

variable {events : List ClientEvent} {c c' : Client} {id : Nat} {call : ClientCall}

/-- An event that neither concerns a call nor brings a reply to it leaves its fate. -/
theorem Fate.keep (h : Fate events c id call) {e : ClientEvent}
    (hmem : id ∈ c'.waiters ↔ id ∈ c.waiters) (hclosed : c.closed = true → c'.closed = true)
    (hreply : id ∈ c.waiters → ∀ line r, e = .receive line → ¬ Carries line id r) :
    Fate (events ++ [e]) c' id call := by
  cases h with
  | outside mem nothing stage =>
    refine .outside (fun h => mem (hmem.mp h)) nothing ?_
    rcases stage with hstage | hstage | ⟨hstage, hc⟩
    · exact .inl hstage
    · exact .inr (.inl hstage)
    · exact .inr (.inr ⟨hstage, hclosed hc⟩)
  | waiting mem nothing unanswered stage =>
    exact .waiting (hmem.mpr mem) nothing (unanswered.concat (hreply mem)) stage
  | answered r mem first came stage =>
    refine .answered r (fun h => mem (hmem.mp h)) (first.append [e]) came ?_
    rcases stage with hstage | hstage | ⟨hstage, hc⟩
    · exact .inl hstage
    · exact .inr (.inl hstage)
    · exact .inr (.inr ⟨hstage, hclosed hc⟩)
  | lost mem hc came stage => exact .lost (fun h => mem (hmem.mp h)) (hclosed hc) came stage

theorem Fate.eq_of_numbered (h : Fate events c id call) (hstage : call.stage = .numbered) :
    id ∉ c.waiters ∧ call.delivered = none := by
  cases h with
  | outside mem nothing _ => exact ⟨mem, nothing⟩
  | waiting _ _ _ stage => simp [CallStage.IsOpen, hstage] at stage
  | answered r _ _ _ stage => simp [CallStage.IsOpen, hstage] at stage
  | lost _ _ _ stage => simp [CallStage.IsOpen, hstage] at stage

/-- An open call whose connection has ended is settled so, whatever came for it. -/
theorem Fate.settle_lost (h : Fate events c id call) {e : ClientEvent} (hwaits : id ∉ c.waiters)
    (hmem : id ∉ c'.waiters) (hclosed : c'.closed = true) :
    Fate (events ++ [e]) c' id { call with stage := .settled (.error .connectionLost) } := by
  cases h with
  | outside mem nothing stage => exact .outside hmem nothing (.inr (.inr ⟨rfl, hclosed⟩))
  | waiting mem nothing unanswered stage => exact absurd mem hwaits
  | answered r mem first came stage =>
    exact .answered r hmem (first.append [e]) came (.inr (.inr ⟨rfl, hclosed⟩))
  | lost mem hc came stage => exact .lost hmem hclosed came (.inr rfl)

/-- An open call may go on to another open stage. -/
theorem Fate.restage (h : Fate events c id call) {e : ClientEvent} (hopen : call.stage.IsOpen)
    {s : CallStage} (hs : s.IsOpen) (hdone : call.stage ≠ .abandoned)
    (hmem : id ∈ c'.waiters ↔ id ∈ c.waiters) (hclosed : c'.closed = c.closed)
    (hreply : ∀ line r, e = .receive line → ¬ Carries line id r) :
    Fate (events ++ [e]) c' id { call with stage := s } := by
  cases h with
  | outside mem nothing stage =>
    rcases stage with hstage | hstage | ⟨hstage, -⟩
    · simp [CallStage.IsOpen, hstage] at hopen
    · exact absurd hstage hdone
    · simp [CallStage.IsOpen, hstage] at hopen
  | waiting mem nothing unanswered stage =>
    exact .waiting (hmem.mpr mem) nothing (unanswered.concat hreply) hs
  | answered r mem first came stage =>
    exact .answered r (fun h => mem (hmem.mp h)) (first.append [e]) came (.inl hs)
  | lost mem hc came stage =>
    exact .lost (fun h => mem (hmem.mp h)) (hclosed.trans hc) came (.inl hs)

/-- An event that changes one call and perhaps its entry in the table. -/
theorem Sound.change (h : Sound events c) {e : ClientEvent} (i : Nat) (f : ClientCall → ClientCall)
    (hcalls : ∀ id, c'.call? id = if id = i then (c.call? id).map f else c.call? id)
    (hothers : ∀ id, id ≠ i → (id ∈ c'.waiters ↔ id ∈ c.waiters))
    (hshut : c'.closed = true → c'.waiters = []) (hdistinct : c'.waiters.Nodup)
    (hclosed : c.closed = true → c'.closed = true)
    (hreply : ∀ id, id ≠ i → ∀ line r, e = .receive line → ¬ Carries line id r)
    {call : ClientCall} (hcall : c.call? i = some call)
    (hfate : Fate (events ++ [e]) c' i (f call)) : Sound (events ++ [e]) c' := by
  refine ⟨hshut, hdistinct, ?_, ?_⟩
  · intro id hid
    by_cases hi : id = i
    · subst hi
      exact ⟨f call, by simp [hcalls, hcall]⟩
    · obtain ⟨old, hold⟩ := h.known id ((hothers id hi).mp hid)
      exact ⟨old, by simpa [hcalls, hi] using hold⟩
  · intro id new hnew
    by_cases hi : id = i
    · subst hi
      rw [hcalls, if_pos rfl, hcall] at hnew
      obtain rfl := Option.some.inj hnew
      exact hfate
    · rw [hcalls, if_neg hi] at hnew
      exact (h.fate id new hnew).keep (hothers id hi) hclosed fun _ => hreply id hi

/-- A change of one call that leaves the table and the wire as they are. -/
theorem Sound.update (h : Sound events c) {e : ClientEvent} (i : Nat) (f : ClientCall → ClientCall)
    (hreply : ∀ line, e ≠ .receive line) {call : ClientCall} (hcall : c.call? i = some call)
    (hfate : Fate (events ++ [e]) (c.update i f) i (f call)) :
    Sound (events ++ [e]) (c.update i f) :=
  h.change i f (call?_update c i · f) (by simp) (by simpa using h.shut) (by simpa using h.distinct)
    (by simp) (fun _ _ line _ he => absurd he (hreply line)) hcall hfate

theorem Sound.begun (h : Sound events c) (method : String) (params : Json) :
    Sound (events ++ [.begin method params])
      { c with calls := c.calls ++ [{ method, params }] } where
  shut := h.shut
  distinct := h.distinct
  known id hid := by
    obtain ⟨call, hcall⟩ := h.known id hid
    have hold : ¬ id = c.calls.length + 1 := by
      rintro rfl
      simp [call?_eq_none_of_length] at hcall
    exact ⟨call, by simpa [call?_begin, hold] using hcall⟩
  fate id call hcall := by
    rw [call?_begin] at hcall
    split at hcall
    · next hnew =>
      cases hcall
      refine .outside ?_ rfl (.inl rfl)
      intro hid
      obtain ⟨old, hold⟩ := h.known id hid
      simp [call?_eq_none_of_length, hnew] at hold
    · exact (h.fate id call hcall).keep .rfl (fun hc => hc) (by simp)

/-- A reply takes the call that waits under its number out of the table. -/
theorem Sound.answered (h : Sound events c) (hrun : run {} events = c) {line : List Char}
    {r : Response} (hup : c.readerEnded = false) (hcarries : Carries line r.id r)
    (hmem : r.id ∈ c.waiters) :
    Sound (events ++ [.receive line]) ((c.forget r.id).deliver r.id r.outcome) := by
  obtain ⟨call, hcall⟩ := h.known r.id hmem
  have honly : ∀ id, id ≠ r.id → ∀ line' r', ClientEvent.receive line = .receive line' →
      ¬ Carries line' id r' := by
    rintro id hid _ r' ⟨rfl⟩ ⟨hread, rfl⟩
    exact hid (congrArg Response.id (Option.some.inj (hread.symm.trans hcarries.1)))
  have hgone : r.id ∉ ((c.forget r.id).deliver r.id r.outcome).waiters := by
    simp [deliver, forget, h.distinct.mem_erase_iff]
  refine h.change r.id _ (call?_update (c.forget r.id) r.id · _) ?_ ?_ ?_ ?_ honly hcall ?_
  · intro id hid
    simp [deliver, forget, h.distinct.mem_erase_iff, hid]
  · intro hc
    have hempty := h.shut (by simpa [deliver] using hc)
    simp [deliver, forget, hempty]
  · simpa [deliver, forget] using h.distinct.erase r.id
  · simp [deliver]
  · cases h.fate r.id call hcall with
    | waiting mem nothing unanswered stage =>
      have hfirst : FirstReply (events ++ [.receive line]) r.id r :=
        ⟨events, line, [], rfl, unanswered, by rw [hrun, hup], hcarries⟩
      exact .answered r hgone hfirst rfl (.inl stage)
    | outside mem nothing stage => exact absurd hmem mem
    | answered r mem first came stage => exact absurd hmem mem
    | lost mem hc came stage => exact absurd hmem mem

/-- The end of the connection is told to all that wait. -/
theorem Sound.ended (h : Sound events c) {e : ClientEvent} (hsilent : ∀ line, e ≠ .receive line)
    (hcalls : c'.calls = c.calls) (hwaiters : c'.waiters = c.waiters) (hclosed : c'.closed = true) :
    Sound (events ++ [e]) c'.shutDown := by
  have hempty : c'.shutDown.waiters = [] := rfl
  have hc : c'.shutDown.closed = true := by rw [closed_shutDown, hclosed]
  have hsame : ∀ id, c'.call? id = c.call? id := by simp [call?, hcalls]
  refine ⟨fun _ => hempty, by simp [hempty], by simp [hempty], ?_⟩
  intro id call hcall
  rw [call?_shutDown, hwaiters, hsame] at hcall
  by_cases hmem : id ∈ c.waiters
  · rw [if_pos hmem] at hcall
    obtain ⟨old, hold, rfl⟩ := Option.map_eq_some_iff.mp hcall
    cases h.fate id old hold with
    | waiting mem nothing unanswered stage => exact .lost (by simp [hempty]) hc rfl (.inl stage)
    | outside mem nothing stage => exact absurd hmem mem
    | answered r mem first came stage => exact absurd hmem mem
    | lost mem hc came stage => exact absurd hmem mem
  · rw [if_neg hmem] at hcall
    exact (h.fate id call hcall).keep (by simp [hempty, hmem]) (fun _ => hc)
      fun _ line _ he => absurd he (hsilent line)

/-- What has come for a call is what it is settled with. -/
theorem Fate.settle (h : Fate events c id call) {o : Outcome Json} (hcame : call.delivered = some o)
    {e : ClientEvent} (hmem : id ∈ c'.waiters ↔ id ∈ c.waiters)
    (hclosed : c.closed = true → c'.closed = true) :
    Fate (events ++ [e]) c' id { call with stage := .settled o } := by
  cases h with
  | outside mem nothing stage => cases nothing.symm.trans hcame
  | waiting mem nothing unanswered stage => cases nothing.symm.trans hcame
  | answered r mem first came stage =>
    obtain rfl := Option.some.inj (came.symm.trans hcame)
    exact .answered r (fun h => mem (hmem.mp h)) (first.append [e]) came (.inr (.inl rfl))
  | lost mem hc came stage =>
    obtain rfl := Option.some.inj (came.symm.trans hcame)
    exact .lost (fun h => mem (hmem.mp h)) (hclosed hc) came (.inr rfl)

theorem Sound.step (h : Sound events c) (hrun : run {} events = c) {e : ClientEvent}
    (hstep : Stepped c e c') : Sound (events ++ [e]) c' := by
  cases hstep with
  | idle passed =>
    refine ⟨h.shut, h.distinct, h.known, fun id call hcall => ?_⟩
    refine (h.fate id call hcall).keep .rfl (fun hc => hc) ?_
    rintro hid line r rfl ⟨hread, rfl⟩
    have hup : c.readerEnded = false := by
      rw [Bool.eq_false_iff]
      intro hended
      simp [h.shut (by simp [closed, hended])] at hid
    exact passed line r rfl hup ⟨hread, rfl⟩ hid
  | begun method params => exact h.begun method params
  | @refused i call hcall stage ended =>
    obtain ⟨hout, hnothing⟩ := (h.fate i call hcall).eq_of_numbered stage
    refine h.update i _ (by simp) hcall (.outside (by simpa using hout) hnothing ?_)
    exact .inr (.inr ⟨rfl, by simpa using ended⟩)
  | @entered i call hcall stage up =>
    obtain ⟨hout, hnothing⟩ := (h.fate i call hcall).eq_of_numbered stage
    have hentered : Unanswered (events ++ [.register i]) i :=
      ⟨events, [], rfl, by rw [hrun]; exact ⟨up, call, hcall, stage⟩, by simp⟩
    have hsame := closed_update c i fun call => { call with stage := .registered }
    refine h.change i _ (call?_update c i · _) (by simp +contextual) ?_ ?_ (fun hc => hsame.trans hc)
      (by simp) hcall ?_
    · intro hc
      cases up.symm.trans (hsame.symm.trans hc)
    · exact List.nodup_cons.mpr ⟨hout, h.distinct⟩
    · exact .waiting List.mem_cons_self hnothing hentered (.inl rfl)
  | @cut i call hcall stage ended =>
    have hempty := h.shut ended
    have hclosed : ((c.forget i).settle i (.error .connectionLost)).closed = true := by
      simpa [Client.settle] using ended
    refine h.change i _ (call?_update (c.forget i) i · _) ?_ ?_ ?_ (fun _ => hclosed) (by simp)
      hcall ?_
    · simp [Client.settle, forget, hempty]
    · simp [Client.settle, forget, hempty]
    · simp [Client.settle, forget, hempty]
    · exact (h.fate i call hcall).settle_lost (by simp [hempty])
        (by simp [Client.settle, forget, hempty]) hclosed
  | @sent i call hcall stage =>
    have hsame := closed_update c i fun call => { call with stage := .sent }
    refine h.change i _ (call?_update c i · _) (by simp) ?_ (by simpa using h.distinct)
      (fun hc => hsame.trans hc) (by simp) hcall ?_
    · intro hc
      simpa using h.shut (hsame.symm.trans hc)
    · exact (h.fate i call hcall).restage (.inl stage) (.inr (.inl rfl)) (by simp [stage]) (by simp)
        hsame (by simp)
  | answered up carries waits => exact h.answered hrun up carries waits
  | ended silent calls waiters lines closed => exact h.ended silent calls waiters closed
  | @woken i call o hcall stage came =>
    exact h.update i _ (by simp) hcall
      ((h.fate i call hcall).settle came (by simp) (by simp))
  | @left i call hcall waits =>
    refine h.update i _ (by simp) hcall ?_
    have hfate := h.fate i call hcall
    cases hstage : call.stage with
    | numbered =>
      obtain ⟨hout, hnothing⟩ := hfate.eq_of_numbered hstage
      exact .outside (by simpa using hout) hnothing (.inr (.inl rfl))
    | registered =>
      exact hfate.restage (.inl hstage) (.inr (.inr rfl)) (by simp [hstage]) (by simp) (by simp)
        (by simp)
    | sent =>
      exact hfate.restage (.inr (.inl hstage)) (.inr (.inr rfl)) (by simp [hstage]) (by simp)
        (by simp) (by simp)
    | settled o => simp [ClientCall.isWaiting, hstage] at waits
    | abandoned => simp [ClientCall.isWaiting, hstage] at waits

/-- Every order of events keeps calls, table and replies in step. -/
theorem sound_run (events : List ClientEvent) : Sound events (run {} events) := by
  have hstart : Sound [] {} := by
    refine ⟨fun _ => rfl, List.nodup_nil, by simp, ?_⟩
    intro id call hcall
    simp [call?] at hcall
  have hrest : ∀ (rest past : List ClientEvent), Sound past (run {} past) →
      Sound (past ++ rest) (run {} (past ++ rest)) := by
    intro rest
    induction rest with
    | nil => exact fun past h => by simpa using h
    | cons e rest ih =>
      intro past h
      have hnext : Sound (past ++ [e]) (run {} (past ++ [e])) := by
        rw [run_concat]
        exact h.step rfl (stepped _ e)
      simpa using ih (past ++ [e]) hnext
  exact hrest events [] hstart

/-! ### Settled calls and ended connections -/

/-- How one event can move a call from stage to stage. -/
inductive Moves (c : Client) : CallStage → CallStage → Prop
  | stay (s : CallStage) : Moves c s s
  | refused (ended : c.closed = true) : Moves c .numbered (.settled (.error .connectionLost))
  | entered (up : c.closed = false) : Moves c .numbered .registered
  | cut (ended : c.closed = true) : Moves c .registered (.settled (.error .connectionLost))
  | sent : Moves c .registered .sent
  | woken (o : Outcome Json) : Moves c .sent (.settled o)
  | left (s : CallStage) (unsettled : ∀ o, s ≠ .settled o) : Moves c s .abandoned

/-- What one event can make of the call of a number: nothing, a new call, or one that has moved. -/
inductive Moved (c : Client) (id : Nat) : Option ClientCall → Option ClientCall → Prop
  | missing : Moved c id none none
  | begun (new : ClientCall) (stage : new.stage = .numbered) : Moved c id none (some new)
  | moved (call new : ClientCall) (same : request id new = request id call)
      (moves : Moves c call.stage new.stage) : Moved c id (some call) (some new)

theorem Moved.refl (c : Client) (id : Nat) (call : Option ClientCall) : Moved c id call call := by
  cases call with
  | none => exact .missing
  | some call => exact .moved call call rfl (.stay _)

theorem moved_update (c c' : Client) (hcalls : c'.calls = c.calls) {i id : Nat}
    {f : ClientCall → ClientCall} {call : ClientCall} (hcall : c.call? i = some call)
    (hf : request i (f call) = request i call ∧ Moves c call.stage (f call).stage) :
    Moved c id (c.call? id) ((c'.update i f).call? id) := by
  have hsame : c'.call? id = c.call? id := by simp [call?, hcalls]
  rw [call?_update, hsame]
  by_cases hi : id = i
  · subst hi
    simpa [hcall] using Moved.moved call (f call) hf.1 hf.2
  · simpa [hi] using Moved.refl c id (c.call? id)

/-- What one event can do to a call. -/
theorem moved_step {e : ClientEvent} (hstep : Stepped c e c') (id : Nat) :
    Moved c id (c.call? id) (c'.call? id) := by
  cases hstep with
  | idle => exact .refl c id _
  | begun method params =>
    rw [call?_begin]
    split
    · next hnew =>
      rw [call?_eq_none_of_length (by omega)]
      exact .begun _ rfl
    · exact .refl c id _
  | @refused i call hcall stage ended =>
    refine moved_update c c rfl hcall ⟨rfl, ?_⟩
    rw [stage]
    exact .refused ended
  | @entered i call hcall stage up =>
    refine moved_update c c rfl hcall ⟨rfl, ?_⟩
    rw [stage]
    exact .entered up
  | @cut i call hcall stage ended =>
    refine moved_update c (c.forget i) rfl hcall ⟨rfl, ?_⟩
    rw [stage]
    exact .cut ended
  | @sent i call hcall stage =>
    refine moved_update c c rfl hcall ⟨rfl, ?_⟩
    rw [stage]
    exact .sent
  | @answered line r up carries waits =>
    cases hcall : c.call? r.id with
    | none =>
      have hsame : (c.forget r.id).call? r.id = none := hcall
      rw [deliver, update_congr (g := fun call => call) (by simp [hsame]), update_self]
      exact .refl c id _
    | some call => exact moved_update c (c.forget r.id) rfl hcall ⟨rfl, .stay _⟩
  | @ended _ c' silent calls waiters lines closed =>
    have hsame : c'.call? id = c.call? id := by simp [call?, calls]
    rw [call?_shutDown, hsame]
    split
    · cases c.call? id with
      | none => exact .missing
      | some call => exact .moved call _ rfl (.stay _)
    · exact .refl c id _
  | @woken i call o hcall stage came =>
    refine moved_update c c rfl hcall ⟨rfl, ?_⟩
    rw [stage]
    exact .woken o
  | @left i call hcall waits =>
    refine moved_update c c rfl hcall ⟨rfl, .left _ ?_⟩
    intro o ho
    simp [ClientCall.isWaiting, ho] at waits

/-- A call that is settled stays so, whatever happens. -/
theorem settled_run {o : Outcome Json} (hcall : c.call? id = some call)
    (hstage : call.stage = .settled o) (later : List ClientEvent) :
    ∃ new, (c.run later).call? id = some new ∧ new.stage = .settled o := by
  induction later generalizing c call with
  | nil => exact ⟨call, hcall, hstage⟩
  | cons e later ih =>
    have hmoved := moved_step (stepped c e) id
    rw [hcall] at hmoved
    generalize hnew : (c.step e).call? id = new at hmoved
    cases hmoved with
    | moved _ new same moves =>
      refine ih hnew ?_
      rw [hstage] at moves
      generalize new.stage = s at moves
      cases moves with
      | stay => rfl
      | left _ unsettled => exact absurd rfl (unsettled o)

/-- What one event can do to the wire: an end stays, and only a call that is in the table sends its
request. -/
theorem wire_step {e : ClientEvent} (hstep : Stepped c e c') :
    (c.closed = true → c'.closed = true) ∧
    (c'.lines = c.lines ∨ ∃ id call, c.call? id = some call ∧ call.stage = .registered ∧
      c'.lines = c.lines ++ [(request id call).line]) := by
  cases hstep with
  | idle => exact ⟨fun h => h, .inl rfl⟩
  | begun method params => exact ⟨fun h => h, .inl rfl⟩
  | @refused i => exact ⟨(closed_update c i _).trans, .inl (lines_update c i _)⟩
  | @entered i => exact ⟨(closed_update c i _).trans, .inl (lines_update c i _)⟩
  | @cut i => exact ⟨(closed_update (c.forget i) i _).trans, .inl (lines_update (c.forget i) i _)⟩
  | @sent i call hcall stage =>
    exact ⟨(closed_update c i _).trans, .inr ⟨i, call, hcall, stage, rfl⟩⟩
  | @answered line r =>
    exact ⟨(closed_update (c.forget r.id) r.id _).trans, .inl (lines_update (c.forget r.id) r.id _)⟩
  | ended silent calls waiters lines closed =>
    exact ⟨fun _ => (closed_shutDown _).trans closed, .inl ((lines_shutDown _).trans lines)⟩
  | @woken i => exact ⟨(closed_update c i _).trans, .inl (lines_update c i _)⟩
  | @left i => exact ⟨(closed_update c i _).trans, .inl (lines_update c i _)⟩

/-- What stays so once a connection has ended: nobody waits in the table, calls that had not entered
it are refused, and only those that had still send. -/
structure StaysEnded (c : Client) (later : List ClientEvent) : Prop where
  closed : (c.run later).closed = true
  empty : (c.run later).waiters = []
  refused : ∀ id new, (∀ call, c.call? id = some call → call.stage = .numbered) →
    (c.run later).call? id = some new → new.stage.IsRefused
  refuses : ∀ id call, (c.run later).call? id = some call → call.stage = .numbered →
    ∃ new, ((c.run later).step (.register id)).call? id = some new ∧
      new.stage = .settled (.error .connectionLost)
  silent : ∃ lines, (c.run later).lines = c.lines ++ lines ∧ ∀ line ∈ lines, ∃ id call,
    c.call? id = some call ∧ call.stage = .registered ∧ line = (request id call).line

/-- After the end nothing moves into the table, and what is refused stays so. -/
theorem Moves.after_end {s s' : CallStage} (h : Moves c s s') (hc : c.closed = true) :
    (s' = .registered → s = .registered) ∧ (s.IsRefused → s'.IsRefused) := by
  cases h with
  | stay => exact ⟨fun h => h, fun h => h⟩
  | refused => exact ⟨by simp, fun _ => .inr (.inr rfl)⟩
  | entered up => cases hc.symm.trans up
  | cut => exact ⟨by simp, fun _ => .inr (.inr rfl)⟩
  | sent => exact ⟨by simp, by simp [CallStage.IsRefused]⟩
  | woken o => exact ⟨by simp, by simp [CallStage.IsRefused]⟩
  | left => exact ⟨by simp, fun _ => .inr (.inl rfl)⟩

/-- A call after one more event on a connection that has ended. -/
theorem after_end_step (hc : c.closed = true) {new : ClientCall} (e : ClientEvent)
    (hnew : (c.step e).call? id = some new) :
    (new.stage = .registered → ∃ call, c.call? id = some call ∧ call.stage = .registered ∧
      request id new = request id call) ∧
    ((∀ call, c.call? id = some call → call.stage.IsRefused) → new.stage.IsRefused) := by
  have hmoved := moved_step (stepped c e) id
  rw [hnew] at hmoved
  generalize c.call? id = old at hmoved
  cases hmoved with
  | begun _ stage =>
    refine ⟨?_, fun _ => .inl stage⟩
    intro h
    cases stage.symm.trans h
  | moved call _ same moves =>
    obtain ⟨hregistered, hrefused⟩ := moves.after_end hc
    exact ⟨fun h => ⟨call, rfl, hregistered h, same⟩, fun h => hrefused (h call rfl)⟩

/-- What later events leave of a connection that has ended. -/
theorem after_end_run (hc : c.closed = true) (later : List ClientEvent) :
    (c.run later).closed = true ∧
    (∀ id new, (c.run later).call? id = some new →
      (new.stage = .registered → ∃ call, c.call? id = some call ∧ call.stage = .registered ∧
        request id new = request id call) ∧
      ((∀ call, c.call? id = some call → call.stage.IsRefused) → new.stage.IsRefused)) ∧
    ∃ lines, (c.run later).lines = c.lines ++ lines ∧ ∀ line ∈ lines, ∃ id call,
      c.call? id = some call ∧ call.stage = .registered ∧ line = (request id call).line := by
  induction later generalizing c with
  | nil =>
    refine ⟨hc, ?_, [], by simp [run], by simp⟩
    intro id new hnew
    exact ⟨fun h => ⟨new, hnew, h, rfl⟩, fun h => h new hnew⟩
  | cons e later ih =>
    obtain ⟨hstays, hwire⟩ := wire_step (stepped c e)
    obtain ⟨hclosed, hcalls, lines, hlines, hsent⟩ := ih (hstays hc)
    have hback : ∀ id call, (c.step e).call? id = some call → call.stage = .registered →
        ∃ old, c.call? id = some old ∧ old.stage = .registered ∧ request id call = request id old :=
      fun id call hcall => (after_end_step hc e hcall).1
    refine ⟨hclosed, ?_, ?_⟩
    · intro id new hnew
      obtain ⟨hregistered, hrefused⟩ := hcalls id new hnew
      refine ⟨?_, ?_⟩
      · intro h
        obtain ⟨call, hcall, hstage, hsame⟩ := hregistered h
        obtain ⟨old, hold, hstage', hsame'⟩ := hback id call hcall hstage
        exact ⟨old, hold, hstage', hsame.trans hsame'⟩
      · exact fun h => hrefused fun call hcall => (after_end_step hc e hcall).2 h
    · have hlater : ∀ line ∈ lines, ∃ id call, c.call? id = some call ∧
          call.stage = .registered ∧ line = (request id call).line := by
        intro line hline
        obtain ⟨id, call, hcall, hstage, rfl⟩ := hsent line hline
        obtain ⟨old, hold, hstage', hsame⟩ := hback id call hcall hstage
        exact ⟨id, old, hold, hstage', by rw [hsame]⟩
      rcases hwire with hquiet | ⟨id, call, hcall, hstage, hsends⟩
      · exact ⟨lines, by rw [← hquiet]; exact hlines, hlater⟩
      · refine ⟨(request id call).line :: lines, ?_, ?_⟩
        · exact hlines.trans (by rw [hsends, List.append_assoc, List.singleton_append])
        · intro line hline
          rcases List.mem_cons.mp hline with rfl | hline
          · exact ⟨id, call, hcall, hstage, rfl⟩
          · exact hlater line hline

theorem staysEnded (events later : List ClientEvent) (hc : (run {} events).closed = true) :
    StaysEnded (run {} events) later := by
  obtain ⟨hclosed, hcalls, hlines⟩ := after_end_run hc later
  refine ⟨hclosed, ?_, ?_, ?_, hlines⟩
  · have hsound := sound_run (events ++ later)
    rw [run, List.foldl_append] at hsound
    exact hsound.shut hclosed
  · intro id new hout hnew
    exact (hcalls id new hnew).2 fun call hcall => .inl (hout call hcall)
  · intro id call hcall hstage
    obtain ⟨method, params, stage, delivered⟩ := call
    obtain rfl : stage = .numbered := hstage
    refine ⟨⟨method, params, .settled (.error .connectionLost), delivered⟩, ?_, rfl⟩
    simp [step, hcall, hclosed, settle, call?_update]

/-- What holds of the call of a number after events: it is settled once; if it is, then with what the
first reply that carries its number says, or because the connection has ended; and once its request
is sent it has an outcome unless neither has happened. -/
structure Routed (events : List ClientEvent) (id : Nat) (call : ClientCall) : Prop where
  once : ∀ o, call.stage = .settled o → ∀ later, ∃ new,
    (run {} (events ++ later)).call? id = some new ∧ new.stage = .settled o
  outcome : ∀ o, call.stage = .settled o → (∃ r, FirstReply events id r ∧ o = r.outcome) ∨
    o = .error .connectionLost ∧ (run {} events).closed = true
  unsettled : call.stage = .sent → (run {} events).outcome? id = none →
    Unanswered events id ∧ (run {} events).closed = false

theorem outcome?_of_delivered {o : Outcome Json} (hcall : c.call? id = some call)
    (hstage : call.stage = .sent) (hcame : call.delivered = some o) : c.outcome? id = some o := by
  obtain ⟨method, params, stage, delivered⟩ := call
  obtain rfl : stage = .sent := hstage
  obtain rfl : delivered = some o := hcame
  simp [outcome?, step, hcall, settle, call?_update, ClientCall.outcome?]

theorem Sound.routed (h : Sound events (run {} events))
    (hcall : (run {} events).call? id = some call) : Routed events id call := by
  refine ⟨?_, ?_, ?_⟩
  · intro o ho later
    obtain ⟨new, hnew⟩ := settled_run hcall ho later
    exact ⟨new, by rwa [run, List.foldl_append]⟩
  · intro o ho
    cases h.fate id call hcall with
    | outside mem nothing stage =>
      simp only [ho, CallStage.settled.injEq, reduceCtorEq, false_or] at stage
      exact .inr stage
    | waiting mem nothing unanswered stage => simp [CallStage.IsOpen, ho] at stage
    | answered r mem first came stage =>
      simp only [CallStage.IsOpen, ho, CallStage.settled.injEq, reduceCtorEq, false_or] at stage
      rcases stage with rfl | hlost
      · exact .inl ⟨r, first, rfl⟩
      · exact .inr hlost
    | lost mem hc came stage =>
      simp only [CallStage.IsOpen, ho, CallStage.settled.injEq, reduceCtorEq, false_or] at stage
      exact .inr ⟨stage, hc⟩
  · intro hstage hnone
    cases h.fate id call hcall with
    | outside mem nothing stage => simp [hstage] at stage
    | waiting mem nothing unanswered stage =>
      refine ⟨unanswered, Bool.eq_false_iff.mpr fun hc => ?_⟩
      simp [h.shut hc] at mem
    | answered r mem first came stage =>
      cases hnone.symm.trans (outcome?_of_delivered hcall hstage came)
    | lost mem hc came stage =>
      cases hnone.symm.trans (outcome?_of_delivered hcall hstage came)

/-- For every order of calls, lines and ends: each call is settled at most once, with the outcome in
the first well-formed reply that carries its number and came after it had entered the table, or
with the loss of the connection after its end. From the end on the table is empty, later calls are
refused, and nothing is sent for them. -/
theorem replies_are_routed_by_number (events : List ClientEvent) :
    (∀ id call, (run {} events).call? id = some call → Routed events id call) ∧
    ((run {} events).closed = true → ∀ later, StaysEnded (run {} events) later) :=
  ⟨fun _ _ hcall => (sound_run events).routed hcall, fun hc later => staysEnded events later hc⟩

/-- Two calls of which the second is answered first, and then the connection ends. -/
def crossed : List ClientEvent :=
  [.begin "desk.Call" .null, .begin "desk.Call" .null, .register 1, .register 2, .send 2, .send 1,
    .receive (Response.success 2 (.str "b")).line, .receive (Response.success 1 (.str "a")).line,
    .wake 1, .wake 2, .endRead]

theorem crossed_routed :
    (∃ r, FirstReply crossed 1 r ∧ r.outcome = .ok (.str "a")) ∧
    (∃ r, FirstReply crossed 2 r ∧ r.outcome = .ok (.str "b")) ∧
    StaysEnded (run {} crossed) [.begin "desk.Call" .null, .register 3, .send 3] := by
  have hrouted := replies_are_routed_by_number crossed
  refine ⟨?_, ?_, hrouted.2 rfl _⟩
  · rcases (hrouted.1 1 _ rfl).outcome (.ok (.str "a")) rfl with ⟨r, hr, ho⟩ | ⟨hlost, -⟩
    · exact ⟨r, hr, ho.symm⟩
    · cases hlost
  · rcases (hrouted.1 2 _ rfl).outcome (.ok (.str "b")) rfl with ⟨r, hr, ho⟩ | ⟨hlost, -⟩
    · exact ⟨r, hr, ho.symm⟩
    · cases hlost

end Client
end TicketSync.Plugin
