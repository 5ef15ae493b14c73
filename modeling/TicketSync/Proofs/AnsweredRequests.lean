import TicketSync.Plugin.Service
import TicketSync.Proofs.ScriptQuestions
import Mathlib.Data.List.Perm.Basic

/-! # Requests on a connection are answered once

A ledger is a connection together with the requests that were read on it and with all that the
tracker was asked and has answered, each time for one of them. A request that was read is worked on
until it hands its response to the writer, and what was said for it leads its own dispatch to that
response. So at any time the requests that were read are those with a response and those that are
worked on, and the connection does not end before the latter are none. -/
namespace TicketSync.Plugin.Service

variable {σ : Type} {name : String} {h : Handler Service σ}

/-- A line that is no request. -/
def Event.isMalformed : Event σ → Bool
  | line text => (request? text).isNone
  | _ => false

/-- A turn of a request or of the writer. -/
def Event.isTurn : Event σ → Bool
  | turn _ | write => true
  | _ => false

/-- The requests that are read: those on the lines before reading ends. -/
def received : List (Event σ) → List Request
  | [] => []
  | .line text :: rest => (request? text).toList ++ received rest
  | .stop :: _ => []
  | .turn _ :: rest | .write :: rest | .meanwhile _ :: rest => received rest

@[simp] theorem respond_id (id : Nat) (o : Outcome Json) : (respond id o).id = id := by
  cases o <;> rfl

namespace Connection

variable {c : Connection σ}

@[simp] theorem reading_turn (s : σ) (i : Nat) : (c.turn h s i).1.reading = c.reading := by
  unfold turn
  split
  · rfl
  · split
    · split <;> rfl
    · rfl

@[simp] theorem reading_write : c.write.reading = c.reading := by
  unfold write
  split
  · rfl
  · split <;> rfl

end Connection

/-! ### The ledger of a connection -/

/-- A connection and the state of its tracker, with what has happened: the requests in the order in
which they were read, the places in that order of those that are worked on and of those that have
handed over their responses, and all questions to the tracker and exchanges with it, each with the
place of the request that it was for. -/
structure Ledger (σ : Type) where
  connection : Connection σ := {}
  state : σ
  requests : List Request := []
  working : List Nat := []
  answered : List Nat := []
  asked : List (Nat × Question) := []
  told : List (Nat × Exchange Service) := []

namespace Ledger

/-- The ledger after one more thing happened on the connection. -/
def step (name : String) (h : Handler Service σ) (b : Ledger σ) (e : Event σ) : Ledger σ :=
  let after := Connection.step name h (b.connection, b.state) e
  let b' : Ledger σ := { b with connection := after.1, state := after.2 }
  match e with
  | .line text =>
    match request? text with
    | some r =>
      if b.connection.reading then
        { b' with requests := b.requests ++ [r], working := b.working ++ [b.requests.length] }
      else b'
    | none => b'
  | .turn i =>
    match b.working[i]?, b.connection.working[i]? with
    | some n, some (_, task) =>
      -- A response is handed over in this turn when there is one more for the writer.
      let hands := decide (b.connection.queue.length < after.1.queue.length)
      { b' with
        working := if hands then b.working.eraseIdx i else b.working
        answered := if hands then b.answered ++ [n] else b.answered
        asked := b.asked ++ (task.question?.map (n, ·)).toList
        told := b.told ++ ((task.exchange? h b.state).map (n, ·)).toList }
    | _, _ => b'
  | _ => b'

/-- The ledger after events in order. -/
def run (name : String) (h : Handler Service σ) (b : Ledger σ) (events : List (Event σ)) :
    Ledger σ :=
  events.foldl (step name h) b

/-- What the tracker was asked for the request at a place. -/
def askedFor (b : Ledger σ) (n : Nat) : List Question := entriesOf n b.asked

/-- The exchanges with the tracker for the request at a place. -/
def toldFor (b : Ledger σ) (n : Nat) : List (Exchange Service) := entriesOf n b.told

/-- A response answers the request at a place: it carries its number, and the outcome to which the
exchanges for this very request led its dispatch. -/
def Answers (name : String) (b : Ledger σ) (n : Nat) (x : Response) : Prop :=
  ∃ r o, b.requests[n]? = some r ∧ x = respond r.id o ∧
    (dispatch name r.method r.params).Leads (b.toldFor n) (.ofOutcome o) ∧
    b.askedFor n = (b.toldFor n).map (·.question)

/-- A task works on the request at a place: it has come from its dispatch through what was said for
this very request. -/
def Works (name : String) (h : Handler Service σ) (b : Ledger σ) (n : Nat)
    (e : Request × Task Service σ Json) : Prop :=
  b.requests[n]? = some e.1 ∧
    Task.CameFrom h (dispatch name e.1.method e.1.params) (b.askedFor n) (b.toldFor n) e.2

variable {b b' : Ledger σ} {n : Nat}

/-- Ledgers with the same entries for a request. -/
structure SameAt (n : Nat) (b b' : Ledger σ) : Prop where
  request : ∀ r, b.requests[n]? = some r → b'.requests[n]? = some r
  asked : b'.askedFor n = b.askedFor n
  told : b'.toldFor n = b.toldFor n

theorem Answers.of_same {x : Response} (hx : b.Answers name n x) (hsame : SameAt n b b') :
    b'.Answers name n x := by
  obtain ⟨r, o, hr, hrespond, hleads, hasked⟩ := hx
  refine ⟨r, o, hsame.request r hr, hrespond, ?_, ?_⟩
  · rwa [hsame.told]
  · rwa [hsame.asked, hsame.told]

theorem Works.of_same {e : Request × Task Service σ Json} (he : b.Works name h n e)
    (hsame : SameAt n b b') : b'.Works name h n e := by
  obtain ⟨hr, hcame⟩ := he
  refine ⟨hsame.request e.1 hr, ?_⟩
  rwa [hsame.asked, hsame.told]

/-- A task that has ended has led its request to the response that it gives. -/
theorem Works.answers {r : Request} {task : Task Service σ Json} {o : Outcome Json}
    (hw : b.Works name h n (r, task)) (ho : task.outcome? = some o) :
    b.Answers name n (respond r.id o) := by
  obtain ⟨hleads, hasked⟩ := hw.2.leads_of_outcome ho
  exact ⟨r, o, hw.1, rfl, hleads, hasked⟩

theorem Answers.ids_eq {places : List Nat} {xs : List Response}
    (hxs : List.Forall₂ (b.Answers name) places xs) :
    (xs.map fun x => some x.id) = places.map fun n => b.requests[n]?.map (·.id) := by
  induction hxs with
  | nil => rfl
  | cons hx _ ih =>
    obtain ⟨r, o, hr, rfl, -⟩ := hx
    rw [List.map_cons, List.map_cons, ih, hr, respond_id]
    rfl

/-! ### What a step does -/

theorem connection_step (b : Ledger σ) (e : Event σ) :
    ((b.step name h e).connection, (b.step name h e).state) =
      Connection.step name h (b.connection, b.state) e := by
  unfold step
  split
  · split
    · split <;> rfl
    · rfl
  · split <;> rfl
  · rfl

theorem connection_run (b : Ledger σ) (events : List (Event σ)) :
    ((b.run name h events).connection, (b.run name h events).state) =
      Connection.run name h (b.connection, b.state) events := by
  induction events generalizing b with
  | nil => rfl
  | cons e events ih =>
    rw [Connection.run, List.foldl_cons, ← connection_step b e]
    exact ih (b.step name h e)

theorem step_of_request (hreading : b.connection.reading = true) {text : List Char} {r : Request}
    (hr : request? text = some r) :
    b.step name h (.line text) =
      { b with
        connection :=
          { b.connection with
            working := b.connection.working ++ [(r, .ready (dispatch name r.method r.params))] }
        requests := b.requests ++ [r]
        working := b.working ++ [b.requests.length] } := by
  simp [step, Connection.step, Connection.accept, hr, hreading]

section Turn

variable {i : Nat} {r : Request} {task : Task Service σ Json}

/-- A task that has ended hands its response over if there is room. -/
theorem step_of_ended {o : Outcome Json} (hn : b.working[i]? = some n)
    (hi : b.connection.working[i]? = some (r, task)) (ho : task.outcome? = some o)
    (hroom : b.connection.queue.length < capacity) :
    b.step name h (.turn i) =
      { b with
        connection :=
          { b.connection with
            working := b.connection.working.eraseIdx i
            queue := b.connection.queue ++ [respond r.id o] }
        working := b.working.eraseIdx i
        answered := b.answered ++ [n] } := by
  simp [step, Connection.step, Connection.turn, hn, hi, ho, hroom, Task.silent_of_ended ho]

/-- A task that has ended waits for room. -/
theorem step_of_full {o : Outcome Json} (hn : b.working[i]? = some n)
    (hi : b.connection.working[i]? = some (r, task)) (ho : task.outcome? = some o)
    (hfull : ¬ b.connection.queue.length < capacity) : b.step name h (.turn i) = b := by
  simp [step, Connection.step, Connection.turn, hn, hi, ho, hfull, Task.silent_of_ended ho]

/-- A task that has not ended goes on. -/
theorem step_of_open (hn : b.working[i]? = some n)
    (hi : b.connection.working[i]? = some (r, task)) (ho : task.outcome? = none) :
    b.step name h (.turn i) =
      { b with
        connection :=
          { b.connection with
            working := b.connection.working.set i (r, (task.step h b.state).1) }
        state := (task.step h b.state).2
        asked := b.asked ++ (task.question?.map (n, ·)).toList
        told := b.told ++ ((task.exchange? h b.state).map (n, ·)).toList } := by
  simp [step, Connection.step, Connection.turn, hn, hi, ho]

end Turn

/-! ### What a step keeps -/

/-- The requests that were read are those with a response, written or not, and those that are worked
on. A connection that has ended has neither anything to work on nor anything to write. -/
structure Accounts (name : String) (h : Handler Service σ) (b : Ledger σ) : Prop where
  places : (b.answered ++ b.working).Perm (List.range b.requests.length)
  aligned : b.working.length = b.connection.working.length
  works : ∀ (i n : Nat) (e : Request × Task Service σ Json), b.working[i]? = some n →
    b.connection.working[i]? = some e → b.Works name h n e
  answers : List.Forall₂ (b.Answers name) b.answered (b.connection.written ++ b.connection.queue)
  unread : ∀ n, b.requests.length ≤ n → b.askedFor n = [] ∧ b.toldFor n = []
  given : ∀ x ∈ b.told, h.Gives x.2
  ended : b.connection.ended = true →
    b.connection.reading = false ∧ b.connection.working = [] ∧ b.connection.queue = []

theorem accounts_initial (name : String) (h : Handler Service σ) (s : σ) :
    Accounts name h ({ state := s } : Ledger σ) where
  places := .refl _
  aligned := rfl
  works := by simp
  answers := .nil
  unread _ _ := ⟨rfl, rfl⟩
  given := by simp
  ended := by simp

namespace Accounts

/-- The places of requests that are worked on. -/
theorem lt_of_working (hb : b.Accounts name h) {i : Nat} (hn : b.working[i]? = some n) :
    n < b.requests.length :=
  List.mem_range.mp (hb.places.mem_iff.mp (List.mem_append_right _ (List.mem_of_getElem? hn)))

/-- No two requests have one place. -/
theorem nodup (hb : b.Accounts name h) : (b.answered ++ b.working).Nodup :=
  hb.places.nodup_iff.mpr List.nodup_range

theorem ne_of_answered (hb : b.Accounts name h) {i : Nat} (hn : b.working[i]? = some n) :
    ∀ m ∈ b.answered, m ≠ n := by
  rintro m hm rfl
  exact (List.nodup_append.mp hb.nodup).2.2 m hm m (List.mem_of_getElem? hn) rfl

theorem ne_of_working (hb : b.Accounts name h) {i j m : Nat} (hn : b.working[i]? = some n)
    (hm : b.working[j]? = some m) (hj : j ≠ i) : m ≠ n := by
  rintro rfl
  have hlt := (List.getElem?_eq_some_iff.mp hm).1
  exact hj ((List.getElem?_inj hlt (List.nodup_append.mp hb.nodup).2.1).mp (hm.trans hn.symm))

theorem accept (hb : b.Accounts name h) (hreading : b.connection.reading = true)
    {text : List Char} {r : Request} (hr : request? text = some r) :
    (b.step name h (.line text)).Accounts name h := by
  have hsame : ∀ n, SameAt n b (b.step name h (.line text)) := by
    rw [step_of_request hreading hr]
    refine fun n => ⟨fun r' hr' => ?_, rfl, rfl⟩
    rwa [List.getElem?_append_left (List.getElem?_eq_some_iff.mp hr').1]
  have hanswers := hb.answers.imp fun n x hx => hx.of_same (hsame n)
  have hworks : ∀ (i n : Nat) (e : Request × Task Service σ Json), b.working[i]? = some n →
      b.connection.working[i]? = some e → (b.step name h (.line text)).Works name h n e :=
    fun i n e hn he => (hb.works i n e hn he).of_same (hsame n)
  rw [step_of_request hreading hr] at hanswers hworks ⊢
  refine ⟨?_, by simp [hb.aligned], ?_, hanswers, ?_, hb.given, ?_⟩
  · rw [List.length_append, List.length_singleton, List.range_succ, ← List.append_assoc]
    exact hb.places.append_right _
  · intro i n e hn he
    by_cases hi : i < b.working.length
    · rw [List.getElem?_append_left hi] at hn
      rw [List.getElem?_append_left (hb.aligned ▸ hi)] at he
      exact hworks i n e hn he
    · have hlast : i = b.working.length := by
        have hlt := (List.getElem?_eq_some_iff.mp hn).1
        rw [List.length_append, List.length_singleton] at hlt
        omega
      subst hlast
      rw [List.getElem?_concat_length] at hn
      rw [hb.aligned, List.getElem?_concat_length] at he
      cases hn
      cases he
      -- Nothing was said for this request before it was read, so its task is at its beginning.
      obtain ⟨hasked, htold⟩ := hb.unread b.requests.length (Nat.le_refl _)
      refine ⟨by simp, ?_⟩
      have hstart := Task.CameFrom.start h (dispatch name r.method r.params)
      rwa [← hasked, ← htold] at hstart
  · intro n hn
    exact hb.unread n (Nat.le_of_succ_le (by simpa using hn))
  · intro hended
    cases (hb.ended hended).1.symm.trans hreading

/-- A turn of a task that has not ended is said for its request alone. -/
theorem goOn (hb : b.Accounts name h) {i : Nat} {r : Request} {task : Task Service σ Json}
    (hn : b.working[i]? = some n) (hi : b.connection.working[i]? = some (r, task))
    (ho : task.outcome? = none) : (b.step name h (.turn i)).Accounts name h := by
  have hasked : ∀ m, (b.step name h (.turn i)).askedFor m =
      b.askedFor m ++ if m = n then task.question?.toList else [] := by
    intro m
    rw [step_of_open hn hi ho, askedFor, entriesOf_append, entriesOf_toList]
    rfl
  have htold : ∀ m, (b.step name h (.turn i)).toldFor m =
      b.toldFor m ++ if m = n then (task.exchange? h b.state).toList else [] := by
    intro m
    rw [step_of_open hn hi ho, toldFor, entriesOf_append, entriesOf_toList]
    rfl
  have hother : ∀ m, m ≠ n → SameAt m b (b.step name h (.turn i)) := by
    intro m hm
    refine ⟨fun r' hr' => ?_, by simp [hasked, hm], by simp [htold, hm]⟩
    rwa [step_of_open hn hi ho]
  have hanswers : List.Forall₂ ((b.step name h (.turn i)).Answers name) b.answered
      (b.connection.written ++ b.connection.queue) :=
    ((List.forall₂_and_left _ _).mpr ⟨hb.ne_of_answered hn, hb.answers⟩).imp
      fun m x hx => hx.2.of_same (hother m hx.1)
  obtain ⟨hr, hcame⟩ := hb.works i n _ hn hi
  have hown : (b.step name h (.turn i)).Works name h n (r, (task.step h b.state).1) := by
    refine ⟨by rwa [step_of_open hn hi ho], ?_⟩
    rw [hasked, htold, if_pos rfl, if_pos rfl]
    exact hcame.step b.state
  have hothers : ∀ (j m : Nat) (e : Request × Task Service σ Json), j ≠ i → b.working[j]? = some m →
      b.connection.working[j]? = some e → (b.step name h (.turn i)).Works name h m e :=
    fun j m e hj hm he => (hb.works j m e hm he).of_same (hother m (hb.ne_of_working hn hm hj))
  have hunread : ∀ m, b.requests.length ≤ m → (b.step name h (.turn i)).askedFor m = [] ∧
      (b.step name h (.turn i)).toldFor m = [] := by
    intro m hm
    have hne : m ≠ n := Nat.ne_of_gt (Nat.lt_of_lt_of_le (hb.lt_of_working hn) hm)
    rw [(hother m hne).asked, (hother m hne).told]
    exact hb.unread m hm
  rw [step_of_open hn hi ho] at hanswers hown hothers hunread ⊢
  refine ⟨hb.places, by simp [hb.aligned], ?_, hanswers, hunread, ?_, ?_⟩
  · intro j m e hm he
    rcases getElem?_set_cases he with ⟨rfl, rfl⟩ | ⟨hj, he⟩
    · cases hm.symm.trans hn
      exact hown
    · exact hothers j m e hj hm he
  · intro x hx
    rcases List.mem_append.mp hx with hx | hx
    · exact hb.given x hx
    · obtain ⟨y, hy, rfl⟩ := Option.map_eq_some_iff.mp (Option.mem_toList.mp hx)
      exact (hcame.turn b.state).gives y hy
  · intro hended
    rw [(hb.ended hended).2.1] at hi
    cases hi

/-- A request whose task has ended has its response. -/
theorem handOver (hb : b.Accounts name h) {i : Nat} {r : Request} {task : Task Service σ Json}
    {o : Outcome Json} (hn : b.working[i]? = some n)
    (hi : b.connection.working[i]? = some (r, task)) (ho : task.outcome? = some o)
    (hroom : b.connection.queue.length < capacity) : (b.step name h (.turn i)).Accounts name h := by
  rw [step_of_ended hn hi ho hroom]
  refine ⟨?_, ?_, ?_, ?_, hb.unread, hb.given, ?_⟩
  · obtain ⟨hlt, hget⟩ := List.getElem?_eq_some_iff.mp hn
    have htaken : (n :: b.working.eraseIdx i).Perm b.working :=
      hget ▸ List.getElem_cons_eraseIdx_perm hlt
    rw [List.append_assoc]
    exact (htaken.append_left b.answered).trans hb.places
  · rw [List.length_eraseIdx, List.length_eraseIdx, hb.aligned]
  · intro j m e hm he
    rw [List.getElem?_eraseIdx] at hm he
    split at hm
    · next hj =>
      rw [if_pos hj] at he
      exact hb.works j m e hm he
    · next hj =>
      rw [if_neg hj] at he
      exact hb.works (j + 1) m e hm he
  · rw [← List.append_assoc]
    exact List.rel_append hb.answers (.cons ((hb.works i n _ hn hi).answers ho) .nil)
  · intro hended
    rw [(hb.ended hended).2.1] at hi
    cases hi

theorem turn (hb : b.Accounts name h) (i : Nat) : (b.step name h (.turn i)).Accounts name h := by
  cases hi : b.connection.working[i]? with
  | none =>
    have hrests : b.step name h (.turn i) = b := by
      simp [step, Connection.step, Connection.turn, hi]
    rwa [hrests]
  | some e =>
    obtain ⟨r, task⟩ := e
    obtain ⟨n, hn⟩ : ∃ n, b.working[i]? = some n := by
      have hlt := hb.aligned ▸ (List.getElem?_eq_some_iff.mp hi).1
      exact ⟨_, List.getElem?_eq_getElem hlt⟩
    cases ho : task.outcome? with
    | none => exact hb.goOn hn hi ho
    | some o =>
      by_cases hroom : b.connection.queue.length < capacity
      · exact hb.handOver hn hi ho hroom
      · rwa [step_of_full hn hi ho hroom]

theorem write (hb : b.Accounts name h) : (b.step name h .write).Accounts name h := by
  have hstep : b.step name h .write = { b with connection := b.connection.write } := rfl
  rw [hstep]
  unfold Connection.write
  split
  · next x rest hqueue =>
    refine ⟨hb.places, hb.aligned, hb.works, ?_, hb.unread, hb.given, fun hended => ?_⟩
    · have hanswers := hb.answers
      rw [hqueue] at hanswers
      rw [List.append_assoc]
      exact hanswers
    · have hnone := (hb.ended hended).2.2
      rw [hqueue] at hnone
      cases hnone
  · next hqueue =>
    split
    · exact hb
    · next hgone =>
      have hrests : b.connection.reading = false ∧ b.connection.working = [] := by
        simpa using hgone
      exact ⟨hb.places, hb.aligned, hb.works, hb.answers, hb.unread, hb.given,
        fun _ => ⟨hrests.1, hrests.2, hqueue⟩⟩

theorem step (hb : b.Accounts name h) (e : Event σ) : (b.step name h e).Accounts name h := by
  cases e with
  | line text =>
    cases hr : request? text with
    | none =>
      have hrests : b.step name h (.line text) = b := by
        simp [Ledger.step, Connection.step, Connection.accept, hr]
      rwa [hrests]
    | some r =>
      by_cases hreading : b.connection.reading = true
      · exact hb.accept hreading hr
      · have hrests : b.step name h (.line text) = b := by
          simp [Ledger.step, Connection.step, hr, hreading]
        rwa [hrests]
  | stop =>
    exact ⟨hb.places, hb.aligned, hb.works, hb.answers, hb.unread, hb.given,
      fun hended => ⟨rfl, (hb.ended hended).2⟩⟩
  | turn i => exact hb.turn i
  | write => exact hb.write
  | meanwhile s =>
    exact ⟨hb.places, hb.aligned, hb.works, hb.answers, hb.unread, hb.given, hb.ended⟩

theorem run (hb : b.Accounts name h) (events : List (Event σ)) :
    (b.run name h events).Accounts name h := by
  induction events generalizing b with
  | nil => exact hb
  | cons e events ih => exact ih (hb.step e)

end Accounts

/-- Where every request has its response, the responses carry the numbers of the requests. -/
theorem ids_perm {xs : List Response} (hplaces : b.answered.Perm (List.range b.requests.length))
    (hanswers : List.Forall₂ (b.Answers name) b.answered xs) :
    (xs.map (·.id)).Perm (b.requests.map (·.id)) := by
  have hread : (List.range b.requests.length).map (fun n => b.requests[n]?.map (·.id)) =
      b.requests.map fun r => some r.id := by
    refine List.ext_getElem (by simp) fun n hn _ => ?_
    rw [List.length_map, List.length_range] at hn
    simp [hn]
  have hids : (xs.map fun x => some x.id).Perm (b.requests.map fun r => some r.id) := by
    rw [Answers.ids_eq hanswers, ← hread]
    exact hplaces.map _
  simpa using hids.filterMap id

/-! ### What was read -/

/-- The requests of a ledger are those that were read. -/
theorem requests_step (b : Ledger σ) (e : Event σ) (events : List (Event σ)) :
    (b.step name h e).requests ++
        (if (b.step name h e).connection.reading then received events else []) =
      b.requests ++ if b.connection.reading then received (e :: events) else [] := by
  have hreads : (b.step name h e).connection.reading =
      (Connection.step name h (b.connection, b.state) e).1.reading :=
    congrArg (fun x => x.1.reading) (connection_step b e)
  rw [hreads]
  cases e with
  | line text =>
    cases hr : request? text <;> cases hreading : b.connection.reading <;>
      simp [step, Connection.step, Connection.accept, received, hr, hreading]
  | stop => simp [step, Connection.step, received]
  | turn i =>
    have hsame : (b.step name h (.turn i)).requests = b.requests := by
      simp only [step]
      split <;> rfl
    simp [hsame, Connection.step, received]
  | write => simp [step, Connection.step, received]
  | meanwhile s => rfl

theorem requests_run (b : Ledger σ) (events : List (Event σ)) :
    (b.run name h events).requests =
      b.requests ++ if b.connection.reading then received events else [] := by
  induction events generalizing b with
  | nil => simp [run, received]
  | cons e events ih =>
    rw [← requests_step b e events]
    exact ih (b.step name h e)

end Ledger

namespace Connection

/-! ### Lines that are no requests -/

/-- A line that is no request is passed over. -/
theorem step_malformed {e : Event σ} (he : e.isMalformed = true) (x : Connection σ × σ) :
    step name h x e = x := by
  cases e with
  | line text =>
    have hnone : request? text = none := by simpa [Event.isMalformed] using he
    simp [step, accept, hnone]
  | _ => cases he

theorem run_filter (x : Connection σ × σ) (events : List (Event σ)) :
    run name h x (events.filter fun e => !e.isMalformed) = run name h x events := by
  induction events generalizing x with
  | nil => rfl
  | cons e events ih =>
    by_cases he : e.isMalformed = true
    · have hrest := ih (step name h x e)
      rw [step_malformed he] at hrest
      simpa [he, run, step_malformed he] using hrest
    · simpa [he, run] using ih (step name h x e)

/-! ### A connection that is not read any more can end -/

theorem run_append (x : Connection σ × σ) (events more : List (Event σ)) :
    run name h x (events ++ more) = run name h (run name h x events) more :=
  List.foldl_append

/-- The writer sends what waits for it. -/
theorem run_flush (c : Connection σ) (s : σ) :
    run name h (c, s) (List.replicate c.queue.length .write) =
      ({ c with queue := [], written := c.written ++ c.queue }, s) := by
  induction hqueue : c.queue generalizing c with
  | nil =>
    obtain ⟨reading, working, queue, written, ended⟩ := c
    subst hqueue
    simp [run]
  | cons x rest ih =>
    have hwrite : c.write = { c with queue := rest, written := c.written ++ [x] } := by
      simp [write, hqueue]
    have hrest := ih c.write (by rw [hwrite])
    simpa [run, step, List.replicate_succ, hwrite] using hrest

section Turns

variable {r : Request} {rest : List (Request × Task Service σ Json)}

/-- Turns of its own bring the first request that is worked on to a response. -/
def Responds (name : String) (h : Handler Service σ) (c : Connection σ) (r : Request)
    (rest : List (Request × Task Service σ Json)) (t : Task Service σ Json) (s : σ) : Prop :=
  ∃ turns x s', (∀ e ∈ turns, e = Event.turn 0) ∧
    run name h ({ c with working := (r, t) :: rest, queue := [] }, s) turns =
      ({ c with working := rest, queue := [x] }, s')

theorem Responds.of_ended {t : Task Service σ Json} {o : Outcome Json} (ho : t.outcome? = some o)
    (s : σ) : Responds name h c r rest t s :=
  ⟨[.turn 0], respond r.id o, s, by simp, by simp [run, step, turn, ho, capacity]⟩

theorem Responds.of_step {t : Task Service σ Json} {s : σ} (ht : t.outcome? = none)
    (hstep : Responds name h c r rest (t.step h s).1 (t.step h s).2) :
    Responds name h c r rest t s := by
  obtain ⟨turns, x, s', hturns, hrun⟩ := hstep
  refine ⟨.turn 0 :: turns, x, s', by simpa using hturns, ?_⟩
  simpa [run, step, turn, ht] using hrun

theorem Responds.of_script (script : Script Service Json) (s : σ) :
    Responds name h c r rest (.ready script) s := by
  induction script generalizing s with
  | done v => exact .of_ended rfl s
  | fail f => exact .of_ended rfl s
  | ask q next ih =>
    refine .of_step rfl ?_
    simp only [Task.step]
    split
    · exact ih _ _
    · exact .of_step rfl (ih _ _)

theorem Responds.of_task (t : Task Service σ Json) (s : σ) : Responds name h c r rest t s := by
  cases t with
  | ready script => exact .of_script script s
  | waiting q answer next => exact .of_step rfl (.of_script _ _)

end Turns

/-- Turns of the requests and of the writer bring a connection that is not read any more to its
end. -/
theorem exists_ended (c : Connection σ) (s : σ) (hstopped : c.reading = false) :
    ∃ turns, (∀ e ∈ turns, e.isTurn = true) ∧ (run name h (c, s) turns).1.ended = true := by
  induction hworking : c.working generalizing c s with
  | nil =>
    refine ⟨List.replicate c.queue.length .write ++ [.write], ?_, ?_⟩
    · simp [Event.isTurn, or_imp, forall_and]
    · rw [run_append, run_flush]
      simp [run, step, write, hstopped, hworking]
  | cons e rest ih =>
    obtain ⟨r, t⟩ := e
    obtain ⟨turns, x, s', hturns, hrun⟩ : Responds name h
        { c with written := c.written ++ c.queue } r rest t s := .of_task t s
    obtain ⟨more, hmore, hended⟩ := ih
      { c with working := rest, queue := [x], written := c.written ++ c.queue } s' hstopped rfl
    refine ⟨List.replicate c.queue.length .write ++ turns ++ more, ?_, ?_⟩
    · intro e he
      rcases List.mem_append.mp he with he | he
      · rcases List.mem_append.mp he with he | he
        · rw [List.eq_of_mem_replicate he]
          rfl
        · rw [hturns e he]
          rfl
      · exact hmore e he
    · rw [run_append, run_append, run_flush]
      have hsame : ({ c with queue := [], written := c.written ++ c.queue } : Connection σ) =
          { c with working := (r, t) :: rest, queue := [], written := c.written ++ c.queue } := by
        rw [← hworking]
      rw [hsame, hrun]
      exact hended

end Connection

/-- Each request is answered once and for itself. A ledger of the connection tells which requests
were read, what was said to the tracker for each of them, and which of them each response answers:
those with a response and those that are worked on are all that were read, each once, and a response
carries the outcome of the dispatch of its own request. A connection that has ended was not read any
more and has answered all of them; lines that are no requests change nothing; and a connection that
is not read any more ends if the requests that it still works on and the writer get turns. -/
theorem requests_are_answered_once (name : String) (h : Handler Service σ) (s : σ)
    (events : List (Event σ)) :
    let b := Ledger.run name h { state := s } events
    (b.connection, b.state) = Connection.run name h ({}, s) events ∧
    b.requests = received events ∧ (∀ x ∈ b.told, h.Gives x.2) ∧
    (b.answered ++ b.working).Perm (List.range b.requests.length) ∧
    List.Forall₂ (b.Answers name) b.answered (b.connection.written ++ b.connection.queue) ∧
    (b.connection.ended = true → b.connection.reading = false ∧
      b.answered.Perm (List.range b.requests.length) ∧
      List.Forall₂ (b.Answers name) b.answered b.connection.written ∧
      (b.connection.written.map (·.id)).Perm (b.requests.map (·.id))) ∧
    Connection.run name h ({}, s) (events.filter fun e => !e.isMalformed) =
      Connection.run name h ({}, s) events ∧
    (b.connection.reading = false → ∃ turns, (∀ e ∈ turns, e.isTurn = true) ∧
      (Connection.run name h ({}, s) (events ++ turns)).1.ended = true) := by
  intro b
  have hb : b.Accounts name h := (Ledger.accounts_initial name h s).run events
  have hrun : (b.connection, b.state) = Connection.run name h ({}, s) events :=
    Ledger.connection_run _ events
  refine ⟨hrun, Ledger.requests_run _ events, hb.given, hb.places, hb.answers, ?_,
    Connection.run_filter _ events, ?_⟩
  · intro hended
    obtain ⟨hreading, hworking, hqueue⟩ := hb.ended hended
    have hnone : b.working = [] := by
      rw [← List.length_eq_zero_iff, hb.aligned, hworking, List.length_nil]
    have hplaces := hb.places
    have hanswers := hb.answers
    rw [hnone, List.append_nil] at hplaces
    rw [hqueue, List.append_nil] at hanswers
    exact ⟨hreading, hplaces, hanswers, Ledger.ids_perm hplaces hanswers⟩
  · intro hstopped
    simp only [Connection.run_append, ← hrun]
    exact Connection.exists_ended b.connection b.state hstopped

/-- A tracker that numbers the tasks that it creates. -/
def numbering : Handler Service Nat
  | .call _, n => ({ delay := none, finish := fun n => (.ok (toString n), n + 1) }, n)
  | .subscribe _, n => (.now (.ok "w1"), n)
  | .unsubscribe _, n => (.now (.ok ()), n)
  | .handleWebhook .., n => (.now (.ok none), n)

/-- A request to create a task. -/
def creation : Request :=
  ⟨7, "github.Call", CallRequest.toJson { method := "create", vars := {} }⟩

/-- The same request twice, with a line in between that is no request. The second one is answered
first, and reading ends before the first one is answered. -/
def crossedLines : List (Event Nat) :=
  [.line creation.line, .turn 0, .line "7".toList, .line creation.line, .turn 1, .turn 1, .turn 1,
    .stop, .write, .turn 0, .turn 0, .write, .write]

theorem crossedLines_answered :
    let b := Ledger.run "github" numbering { state := 1 } crossedLines
    b.connection.ended = true ∧ b.requests.map (·.id) = [7, 7] ∧ b.answered = [1, 0] ∧
      b.connection.written.map (fun x => x.result.map Json.toText) =
        [some "\"1\"", some "\"2\""] ∧
      (b.toldFor 0).length = 1 ∧ (b.toldFor 1).length = 1 ∧
      List.Forall₂ (b.Answers "github") [1, 0] b.connection.written := by
  intro b
  have hended : b.connection.ended = true := by decide +kernel
  have hanswered : b.answered = [1, 0] := by decide +kernel
  obtain ⟨-, -, -, -, -, hends, -, -⟩ :=
    requests_are_answered_once "github" numbering 1 crossedLines
  refine ⟨hended, by decide +kernel, hanswered, by decide +kernel, by decide +kernel,
    by decide +kernel, ?_⟩
  exact hanswered ▸ (hends hended).2.2.1

end TicketSync.Plugin.Service
