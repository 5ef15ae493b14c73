import TicketSync.Proofs.ScriptQuestions
import TicketSync.Proofs.TaskThreading

/-! # The write of a run

A run asks for one write at most, and as its last question. What it writes is decided by the look-up
that it began with: a ticket that was found is put in place of what is stored under its id, and a
ticket is created only when none was found. -/
namespace TicketSync.Engine

/-- The ticket that an exchange has stored. -/
def stored? : Exchange Engine → Option Ticket
  | ⟨.createTicket t, .ok id⟩ => some { t with id }
  | ⟨.updateTicket t, .ok ()⟩ => some t
  | _ => none

theorem isWrite_of_stored {x : Exchange Engine} {t : Ticket} (h : stored? x = some t) :
    x.question.isWrite = true := by
  obtain ⟨q, a⟩ := x
  cases q <;> first | rfl | cases h

theorem stored?_of_reads {x : Exchange Engine} (hx : x.question.isWrite = false) :
    stored? x = none := by
  cases h : stored? x with
  | none => rfl
  | some t => cases hx.symm.trans (isWrite_of_stored h)

/-- The ticket id that an exchange has given. -/
def created? : Exchange Engine → Option String
  | ⟨.createTicket _, .ok id⟩ => some id
  | _ => none

theorem created?_of_stored? {x : Exchange Engine} (h : stored? x = none) : created? x = none := by
  cases hx : created? x with
  | none => rfl
  | some id =>
    obtain ⟨q, a⟩ := x
    cases q with
    | createTicket t =>
      cases a with
      | ok id => cases h
      | error f => cases hx
    | _ => cases hx

/-- How a script ends with its last exchange: with the ticket that it stored, or with a failure and
nothing stored. -/
def EndsWith (x : Exchange Engine) (rest : Script Engine Ticket) : Prop :=
  (∃ t, stored? x = some t ∧ rest = .done t) ∨ (stored? x = none ∧ ∃ f, rest = .fail f)

/-- What is left of an orderly script after exchanges: it only read so far, or its last exchange was
its one write. -/
theorem Orderly.leads {script rest : Script Engine Ticket} {told : List (Exchange Engine)}
    (h : Orderly script) (hleads : script.Leads told rest) :
    ((∀ x ∈ told, x.question.isWrite = false) ∧ (Orderly rest ∨ ∃ f, rest = .fail f)) ∨
    ∃ before x, told = before ++ [x] ∧ (∀ y ∈ before, y.question.isWrite = false) ∧
      x.question.isWrite = true ∧ EndsWith x rest := by
  induction hleads with
  | refl s => exact .inl ⟨by simp, .inl h⟩
  | @ask q next a xs s hrest ih =>
    cases h with
    | look reads goes fails =>
      cases hf : failure? ⟨q, a⟩ with
      | none =>
        rcases ih (goes a hf) with ⟨hxs, hleft⟩ | ⟨before, x, rfl, hbefore, hx, hend⟩
        · exact .inl ⟨List.forall_mem_cons.mpr ⟨reads, hxs⟩, hleft⟩
        · exact .inr ⟨⟨q, a⟩ :: before, x, rfl, List.forall_mem_cons.mpr ⟨reads, hbefore⟩, hx, hend⟩
      | some f =>
        rw [fails a f hf] at hrest
        obtain ⟨rfl, rfl⟩ := Script.leads_fail_iff.mp hrest
        exact .inl ⟨by simpa using reads, .inr ⟨f, rfl⟩⟩
    | create t new =>
      refine .inr ⟨[], ⟨.createTicket t, a⟩, ?_⟩
      cases a with
      | ok id =>
        obtain ⟨rfl, rfl⟩ := Script.leads_done_iff.mp hrest
        exact ⟨rfl, by simp, rfl, .inl ⟨_, rfl, rfl⟩⟩
      | error f =>
        obtain ⟨rfl, rfl⟩ := Script.leads_fail_iff.mp hrest
        exact ⟨rfl, by simp, rfl, .inr ⟨rfl, f, rfl⟩⟩
    | update t known =>
      refine .inr ⟨[], ⟨.updateTicket t, a⟩, ?_⟩
      cases a with
      | ok id =>
        obtain ⟨rfl, rfl⟩ := Script.leads_done_iff.mp hrest
        exact ⟨rfl, by simp, rfl, .inl ⟨_, rfl, rfl⟩⟩
      | error f =>
        obtain ⟨rfl, rfl⟩ := Script.leads_fail_iff.mp hrest
        exact ⟨rfl, by simp, rfl, .inr ⟨rfl, f, rfl⟩⟩

variable {fs : Template.Functions} {j : Job} {u : Update} {told : List (Exchange Engine)}
  {rest : Script Engine Ticket}

/-- A write is the last exchange of a run, and the only write. -/
theorem write_of_leads (h : (runJob j u).Leads told rest) {before after : List (Exchange Engine)}
    {x : Exchange Engine} (htold : told = before ++ x :: after) (hx : x.question.isWrite = true) :
    after = [] ∧ (∀ y ∈ before, y.question.isWrite = false) ∧ EndsWith x rest := by
  rcases (orderly_runJob j u).leads h with ⟨hreads, -⟩ | ⟨before', x', htold', hbefore, hx', hend⟩
  · have hread := hreads x (by simp [htold])
    rw [hx] at hread
    cases hread
  · rcases List.eq_nil_or_concat after with rfl | ⟨after', y, rfl⟩
    · obtain ⟨rfl, hsame⟩ := List.append_inj' (htold.symm.trans htold') rfl
      obtain rfl := (List.cons.inj hsame).1
      exact ⟨rfl, hbefore, hend⟩
    · have hsplit : (before ++ x :: after') ++ [y] = before' ++ [x'] := by
        simpa using htold.symm.trans htold'
      obtain ⟨rfl, -⟩ := List.append_inj' hsplit rfl
      have hread := hbefore x (by simp)
      rw [hx] at hread
      cases hread

/-- A run that has ended with a ticket has stored this ticket. -/
theorem stored_of_leads {t : Ticket} (h : (runJob j u).Leads told (.done t)) :
    ∃ x ∈ told, stored? x = some t := by
  rcases (orderly_runJob j u).leads h with ⟨-, hleft | ⟨f, hf⟩⟩ | ⟨before, x, rfl, -, -, hend⟩
  · cases hleft
  · cases hf
  · rcases hend with ⟨t', hstored, hdone⟩ | ⟨-, f, hf⟩
    · cases hdone
      exact ⟨x, by simp, hstored⟩
    · cases hf

/-- How a run that is about to write has begun: it has found the ticket that it puts back under its
id, or none when it creates one. -/
inductive Decides (u : Update) (told : List (Exchange Engine)) : Question → Prop
  | update {t found : Ticket} {more : List (Exchange Engine)}
      (lookup : told = ⟨.findTicket (.locator u.receivedFrom), .ok found⟩ :: more)
      (named : found.id ≠ "") (same : t.id = found.id) : Decides u told (.updateTicket t)
  | create {t : Ticket} {looked : Outcome Ticket} {more : List (Exchange Engine)}
      (lookup : told = ⟨.findTicket (.locator u.receivedFrom), looked⟩ :: more)
      (unknown : (∃ found, looked = .ok found ∧ found.id = "") ∨
        ∃ f : Failure, looked = .error f ∧ f.isNotFound = true) : Decides u told (.createTicket t)

/-- A write that would be answered with a ticket belongs to a whole run, whose deeds can be told. -/
theorem threads_of_asked {q : Dialogue.Question Engine}
    {next : Dialogue.Answer Engine q → Script Engine Ticket} {a : Dialogue.Answer Engine q}
    {t : Ticket} (h : (runJob j u).Leads told (.ask q next)) (hx : ∀ x ∈ told, Evaluates fs x)
    (ha : Evaluates fs ⟨q, a⟩) (hdone : next a = .done t) :
    ∃ looked found deeds more, Threads fs j u (told ++ [⟨q, a⟩]) t looked found deeds ⟨q, a⟩ ∧
      told = ⟨.findTicket (.locator u.receivedFrom), looked⟩ :: more := by
  have hend : (runJob j u).Leads (told ++ [⟨q, a⟩]) (.done t) :=
    h.trans (.ask a (hdone ▸ .refl _))
  have hall : ∀ x ∈ told ++ [⟨q, a⟩], Evaluates fs x := by
    intro x hmem
    rcases List.mem_append.mp hmem with hmem | hmem
    · exact hx x hmem
    · exact List.mem_singleton.mp hmem ▸ ha
  obtain ⟨looked, found, deeds, saved, hthreads⟩ := threads_of_leads hend hall
  have hlast : told ++ [⟨q, a⟩] = ((⟨.findTicket (.locator u.receivedFrom), looked⟩ ::
      deeds.flatMap (·.exchanges u)) ++ [⟨.isCancelled, false⟩]) ++ [saved] := by
    simpa using hthreads.exchanges
  obtain ⟨htold, hsaved⟩ := List.append_inj' hlast rfl
  obtain rfl := (List.cons.inj hsaved).1
  exact ⟨looked, found, deeds, _, hthreads, htold⟩

/-- The look-up decides on the write. -/
theorem decides_of_leads {q : Dialogue.Question Engine}
    {next : Dialogue.Answer Engine q → Script Engine Ticket}
    (h : (runJob j u).Leads told (.ask q next)) (hx : ∀ x ∈ told, Evaluates fs x)
    (hq : q.isWrite = true) : Decides u told q := by
  rcases (orderly_runJob j u).leads h with ⟨-, hleft | ⟨f, hf⟩⟩ | ⟨before, x, -, -, -, hend⟩
  · cases hleft with
    | look reads goes fails => cases reads.symm.trans hq
    | create t new =>
      obtain ⟨looked, found, deeds, more, hthreads, hlookup⟩ :=
        @threads_of_asked fs j u told _ _ (Except.ok "") _ h hx trivial rfl
      have hunknown : found.id = "" := by
        cases hthreads.saves with
        | created new after => exact new
      refine .create hlookup (hthreads.lookup.imp (fun hfound => ⟨found, hfound, hunknown⟩) ?_)
      exact fun hnone => hnone.2
    | update t known =>
      obtain ⟨looked, found, deeds, more, hthreads, hlookup⟩ :=
        @threads_of_asked fs j u told _ _ (Except.ok ()) _ h hx trivial rfl
      cases hthreads.saves with
      | updated known after =>
        rcases hthreads.lookup with rfl | ⟨rfl, -⟩
        · exact .update hlookup known after.id
        · exact absurd rfl known
  · cases hf
  · rcases hend with ⟨t, -, ht⟩ | ⟨-, f, hf⟩
    · cases ht
    · cases hf

/-- A run that has written had begun with the look-up that decided on it. -/
theorem decides_of_write (h : (runJob j u).Leads told rest) (hx : ∀ x ∈ told, Evaluates fs x)
    {x : Exchange Engine} (hmem : x ∈ told) (hwrite : x.question.isWrite = true) :
    ∃ before after, told = before ++ x :: after ∧ Decides u before x.question := by
  obtain ⟨before, after, rfl⟩ := List.append_of_mem hmem
  obtain ⟨next, hasked, -⟩ := h.split
  have hbefore : ∀ y ∈ before, Evaluates fs y := fun y hy => hx y (List.mem_append_left _ hy)
  exact ⟨before, after, rfl, decides_of_leads hasked hbefore hwrite⟩

end TicketSync.Engine
