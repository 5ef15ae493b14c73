import TicketSync.Proofs.ReplyRouting

/-! # What the table of a connection holds

An entry of the table belongs to a call that nothing has come for. Its caller waits, or is gone: an
entry leaves the table with the first reply that carries its number or with the connection, and in
no other way. So the entries of callers that are gone stay for as long as the plugin does not answer,
and as many of them can gather as calls are given up. -/
namespace TicketSync.Plugin.Client

variable {c c' : Client} {e : ClientEvent} {id : Nat}

/-! ### Callers that are gone -/

/-- Whether the caller of a number is gone. -/
def Gone (c : Client) (id : Nat) : Prop :=
  ∃ call, c.call? id = some call ∧ call.stage = .abandoned

theorem gone_update {i : Nat} {f : ClientCall → ClientCall}
    (hf : ∀ call, (f call).stage = .abandoned → call.stage = .abandoned)
    (h : (c.update i f).Gone id) : c.Gone id := by
  obtain ⟨new, hnew, hstage⟩ := h
  rw [call?_update] at hnew
  split at hnew
  · obtain ⟨call, hcall, rfl⟩ := Option.map_eq_some_iff.mp hnew
    exact ⟨call, hcall, hf call hstage⟩
  · exact ⟨new, hnew, hstage⟩

/-- A caller is gone only once it has left. -/
theorem gone_step (hstep : Stepped c e c') (h : c'.Gone id) :
    e = .abandon id ∨ c.Gone id := by
  cases hstep with
  | idle => exact .inr h
  | begun method params =>
    obtain ⟨new, hnew, hstage⟩ := h
    rw [call?_begin] at hnew
    split at hnew
    · cases hnew
      cases hstage
    · exact .inr ⟨new, hnew, hstage⟩
  | refused => exact .inr (gone_update (fun _ hstage => by cases hstage) h)
  | @entered i => exact .inr (gone_update (i := i) (fun _ hstage => by cases hstage) h)
  | cut => exact .inr (gone_update (c := c.forget _) (fun _ hstage => by cases hstage) h)
  | @sent i => exact .inr (gone_update (i := i) (fun _ hstage => by cases hstage) h)
  | answered => exact .inr (gone_update (c := c.forget _) (fun _ hstage => by exact hstage) h)
  | @ended _ c' silent calls =>
    obtain ⟨new, hnew, hstage⟩ := h
    have hsame : c'.call? id = c.call? id := by simp [call?, calls]
    rw [call?_shutDown, hsame] at hnew
    split at hnew
    · obtain ⟨call, hcall, rfl⟩ := Option.map_eq_some_iff.mp hnew
      exact .inr ⟨call, hcall, hstage⟩
    · exact .inr ⟨new, hnew, hstage⟩
  | woken => exact .inr (gone_update (fun _ hstage => by cases hstage) h)
  | @left i =>
    by_cases hi : i = id
    · exact .inl (hi ▸ rfl)
    · obtain ⟨new, hnew, hstage⟩ := h
      rw [call?_update, if_neg (Ne.symm hi)] at hnew
      exact .inr ⟨new, hnew, hstage⟩

theorem gone_run (events : List ClientEvent) (h : (c.run events).Gone id) :
    .abandon id ∈ events ∨ c.Gone id := by
  induction events generalizing c with
  | nil => exact .inr h
  | cons e events ih =>
    rcases ih (c := c.step e) h with hlater | hgone
    · exact .inl (List.mem_cons_of_mem e hlater)
    · rcases gone_step (stepped c e) hgone with rfl | hgone
      · exact .inl List.mem_cons_self
      · exact .inr hgone

/-! ### Entries of the table -/

/-- While the connection is up an entry leaves the table only with a reply that carries its number. -/
theorem waits_step (hstep : Stepped c e c') (hmem : id ∈ c.waiters)
    (hshut : c.closed = true → c.waiters = []) (hup : c'.closed = false)
    (hquiet : ∀ line r, e = .receive line → ¬ Carries line id r) : id ∈ c'.waiters := by
  cases hstep with
  | idle => exact hmem
  | begun => exact hmem
  | refused => rwa [settle, waiters_update]
  | entered => exact List.mem_cons_of_mem _ hmem
  | cut hcall hstage ended => simp [hshut ended] at hmem
  | sent => rwa [waiters_update]
  | @answered line r up carries waits =>
    have hother : id ≠ r.id := by
      rintro rfl
      exact hquiet line r rfl carries
    rw [deliver, waiters_update]
    exact (List.mem_erase_of_ne hother).mpr hmem
  | @ended _ c' silent calls waiters lines closed =>
    rw [closed_shutDown, closed] at hup
    cases hup
  | woken => rwa [settle, waiters_update]
  | left => rwa [waiters_update]

theorem closed_step (hc : c.closed = true) (hstep : Stepped c e c') : c'.closed = true := by
  cases hstep with
  | idle => exact hc
  | begun => exact hc
  | refused => rwa [settle, closed_update]
  | entered call? stage up => cases hc.symm.trans up
  | cut => rwa [settle, closed_update]
  | @sent i => exact (closed_update c i _).trans hc
  | answered => rwa [deliver, closed_update]
  | ended silent calls waiters lines closed => rwa [closed_shutDown]
  | woken => rwa [settle, closed_update]
  | left => rwa [closed_update]

/-- A connection that is up was up before. -/
theorem up_of_run (events : List ClientEvent) (hup : (c.run events).closed = false) :
    c.closed = false := by
  induction events generalizing c with
  | nil => exact hup
  | cons e events ih =>
    have hnext := ih (c := c.step e) hup
    cases hc : c.closed with
    | false => rfl
    | true => cases hnext.symm.trans (closed_step hc (stepped c e))

/-- An entry is in the table for as long as the connection is up and no reply carries its number,
whether its caller waits or is gone. -/
theorem entry_stays (events later : List ClientEvent) (hmem : id ∈ (run {} events).waiters)
    (hup : (run {} (events ++ later)).closed = false)
    (hquiet : ∀ line r, .receive line ∈ later → ¬ Carries line id r) :
    id ∈ (run {} (events ++ later)).waiters := by
  induction later generalizing events with
  | nil => rwa [List.append_nil]
  | cons e later ih =>
    have hsplit : events ++ e :: later = events ++ [e] ++ later := by simp
    rw [hsplit] at hup ⊢
    refine ih (events ++ [e]) ?_ hup fun line r hlater => hquiet line r (List.mem_cons_of_mem e hlater)
    have hnext : (run {} (events ++ [e])).closed = false := by
      rw [run, List.foldl_append] at hup
      exact up_of_run later hup
    rw [run_concat] at hnext ⊢
    refine waits_step (stepped _ e) hmem (sound_run events).shut hnext fun line r he => ?_
    exact hquiet line r (he ▸ List.mem_cons_self)

/-- The table holds each number once, and none after the end of the connection. Of a call that it
holds nothing has come, and its caller waits unless it has left. -/
theorem table_of_run (events : List ClientEvent) :
    (run {} events).waiters.Nodup ∧
    ((run {} events).closed = true → (run {} events).waiters = []) ∧
    ∀ id ∈ (run {} events).waiters, ∃ call, (run {} events).call? id = some call ∧
      call.delivered = none ∧ Unanswered events id ∧
        (call.isWaiting = true ∨ .abandon id ∈ events) := by
  have hsound := sound_run events
  refine ⟨hsound.distinct, hsound.shut, fun id hmem => ?_⟩
  obtain ⟨call, hcall⟩ := hsound.known id hmem
  refine ⟨call, hcall, ?_⟩
  cases hsound.fate id call hcall with
  | outside mem => exact absurd hmem mem
  | answered r mem => exact absurd hmem mem
  | lost mem => exact absurd hmem mem
  | waiting mem nothing unanswered stage =>
    refine ⟨nothing, unanswered, ?_⟩
    rcases stage with hstage | hstage | hstage
    · exact .inl (by simp [ClientCall.isWaiting, hstage])
    · exact .inl (by simp [ClientCall.isWaiting, hstage])
    · refine .inr ((gone_run events ⟨call, hcall, hstage⟩).resolve_right ?_)
      rintro ⟨new, hnew, -⟩
      simp [call?] at hnew

/-! ### Calls that are given up -/

/-- So many calls, each given up while it waits for its reply. -/
def givenUp : Nat → List ClientEvent
  | 0 => []
  | n + 1 => givenUp n ++ callEvents (n + 1) "desk.Call" .null ++ [.abandon (n + 1)]

/-- A caller that is gone does not come back. -/
theorem gone_stays (events : List ClientEvent) (h : c.Gone id) : (c.run events).Gone id := by
  induction events generalizing c with
  | nil => exact h
  | cons e events ih =>
    refine ih (c := c.step e) ?_
    obtain ⟨call, hcall, hstage⟩ := h
    have hmoved := moved_step (stepped c e) id
    rw [hcall] at hmoved
    generalize hnew : (c.step e).call? id = new? at hmoved
    cases hmoved with
    | moved _ new same moves =>
      rw [hstage] at moves
      generalize hstage' : new.stage = stage at moves
      cases moves with
      | stay => exact ⟨new, hnew, hstage'⟩
      | left => exact ⟨new, hnew, hstage'⟩

theorem length_update (c : Client) (id : Nat) (f : ClientCall → ClientCall) :
    (c.update id f).calls.length = c.calls.length := by
  unfold update
  split <;> simp

/-- The number of calls, the entries and the call of a number on a connection that is up. -/
structure Up (c : Client) (calls : Nat) (waiters : List Nat) (id : Nat) (call : ClientCall) :
    Prop where
  up : c.closed = false
  length : c.calls.length = calls
  waiters : c.waiters = waiters
  call? : c.call? id = some call

section Up

variable {n : Nat} {waiters : List Nat} {method : String} {params : Json}
  {delivered : Option (Outcome Json)}

theorem Up.register (h : c.Up n waiters id ⟨method, params, .numbered, delivered⟩) :
    (c.step (.register id)).Up n (id :: waiters) id ⟨method, params, .registered, delivered⟩ := by
  have hstep : c.step (.register id) =
      { c.update id fun call => { call with stage := .registered } with
        waiters := id :: c.waiters } := by
    simp [step, h.call?, h.up]
  rw [hstep]
  refine ⟨(closed_update c id _).trans h.up, (length_update c id _).trans h.length,
    congrArg _ h.waiters, ?_⟩
  exact (call?_update c id id _).trans (by simp [h.call?])

theorem Up.send (h : c.Up n waiters id ⟨method, params, .registered, delivered⟩) :
    (c.step (.send id)).Up n waiters id ⟨method, params, .sent, delivered⟩ := by
  have hwriter : c.writerEnded = false := (Bool.or_eq_false_iff.mp h.up).2
  have hstep : c.step (.send id) =
      { c.update id fun call => { call with stage := .sent } with
        lines := c.lines ++ [(request id ⟨method, params, .registered, delivered⟩).line] } := by
    simp [step, h.call?, hwriter]
  rw [hstep]
  refine ⟨(closed_update c id _).trans h.up, (length_update c id _).trans h.length,
    (waiters_update c id _).trans h.waiters, ?_⟩
  exact (call?_update c id id _).trans (by simp [h.call?])

theorem Up.abandon (h : c.Up n waiters id ⟨method, params, .sent, delivered⟩) :
    (c.step (.abandon id)).Up n waiters id ⟨method, params, .abandoned, delivered⟩ where
  up := (closed_update c id _).trans h.up
  length := (length_update c id _).trans h.length
  waiters := (waiters_update c id _).trans h.waiters
  call? := (call?_update c id id _).trans (by simp [h.call?, ClientCall.isWaiting])

end Up

/-- A call that is given up leaves its entry. -/
theorem up_of_givenUp (hup : c.closed = false) (method : String) (params : Json) :
    let id := c.calls.length + 1
    (c.run (callEvents id method params ++ [.abandon id])).Up id (id :: c.waiters) id
      ⟨method, params, .abandoned, none⟩ := by
  intro id
  have hbegun : (c.step (.begin method params)).Up id c.waiters id
      ⟨method, params, .numbered, none⟩ :=
    ⟨hup, by simp [step, id], rfl, (call?_begin c _ id).trans (by simp [id])⟩
  exact hbegun.register.send.abandon

/-- Calls that are given up gather in the table: it holds as many entries of callers that are gone. -/
theorem givenUp_gather (n : Nat) :
    (run {} (givenUp n)).closed = false ∧ (run {} (givenUp n)).calls.length = n ∧
      (run {} (givenUp n)).waiters.length = n ∧
      ∀ id ∈ (run {} (givenUp n)).waiters, (run {} (givenUp n)).Gone id := by
  induction n with
  | zero => exact ⟨rfl, rfl, rfl, by simp [givenUp, run]⟩
  | succ n ih =>
    obtain ⟨hup, hlength, hcount, hgone⟩ := ih
    have hrun : run {} (givenUp (n + 1)) = (run {} (givenUp n)).run
        (callEvents (n + 1) "desk.Call" .null ++ [.abandon (n + 1)]) := by
      rw [givenUp, List.append_assoc, run, List.foldl_append]
      rfl
    have hlast := up_of_givenUp hup "desk.Call" .null
    simp only [hlength] at hlast
    rw [hrun]
    refine ⟨hlast.up, hlast.length, by rw [hlast.waiters, List.length_cons, hcount],
      fun id hmem => ?_⟩
    rw [hlast.waiters] at hmem
    rcases List.mem_cons.mp hmem with rfl | hmem
    · exact ⟨_, hlast.call?, rfl⟩
    · exact gone_stays _ (hgone id hmem)

end TicketSync.Plugin.Client
