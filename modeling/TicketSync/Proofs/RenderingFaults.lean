import TicketSync.Proofs.EvaluationRules
import TicketSync.Proofs.PipelineGrammar
import TicketSync.Proofs.RenderedVars

/-! # What can go wrong with a parsed template

A template that was parsed over one registry is parsed alike over any other one with the same names.
Its pipelines only call functions that are there, so evaluating it never meets an unknown one, and
the message of what goes wrong then is not the message of any fault of the parser. -/
namespace TicketSync

namespace Template

variable {fs fs' : Functions}

/-! ### The registry -/

mutual
theorem Term.WellFormed.mono (h : ∀ f, fs.contains f = true → fs'.contains f = true) (t : Term)
    (ht : t.WellFormed fs) : t.WellFormed fs' := by
  cases t with
  | field path => trivial
  | literal l => trivial
  | sub p => exact Pipeline.WellFormed.mono h p ht

theorem Term.AllWellFormed.mono (h : ∀ f, fs.contains f = true → fs'.contains f = true)
    (args : List Term) (hargs : Term.AllWellFormed fs args) : Term.AllWellFormed fs' args := by
  cases args with
  | nil => trivial
  | cons t args => exact ⟨Term.WellFormed.mono h t hargs.1, Term.AllWellFormed.mono h args hargs.2⟩

theorem Command.WellFormed.mono (h : ∀ f, fs.contains f = true → fs'.contains f = true)
    (c : Command) (hc : c.WellFormed fs) : c.WellFormed fs' := by
  cases c with
  | call f args => exact ⟨⟨h f hc.1.1, hc.1.2⟩, Term.AllWellFormed.mono h args hc.2⟩
  | term t => exact Term.WellFormed.mono h t hc

theorem Pipeline.WellFormed.mono (h : ∀ f, fs.contains f = true → fs'.contains f = true)
    (p : List Command) (hp : Pipeline.WellFormed fs p) : Pipeline.WellFormed fs' p := by
  cases p with
  | nil => exact hp.elim
  | cons c cs => exact ⟨Command.WellFormed.mono h c hp.1, Pipeline.StagesWellFormed.mono h cs hp.2⟩

theorem Pipeline.StagesWellFormed.mono (h : ∀ f, fs.contains f = true → fs'.contains f = true)
    (cs : List Command) (hcs : Pipeline.StagesWellFormed fs cs) :
    Pipeline.StagesWellFormed fs' cs := by
  cases cs with
  | nil => trivial
  | cons c cs =>
    cases c with
    | term t => exact hcs.elim
    | call f args =>
      exact ⟨⟨h f hcs.1.1, hcs.1.2⟩, Term.AllWellFormed.mono h args hcs.2.1,
        Pipeline.StagesWellFormed.mono h cs hcs.2.2⟩
end

/-- What the text of an action is read as is well formed, and read alike over more functions. -/
theorem Pipeline.read?_mono (h : ∀ f, fs.contains f = true → fs'.contains f = true)
    {cs : List Char} {p : Pipeline} (hp : Pipeline.read? fs cs = .ok p) :
    Pipeline.read? fs' cs = .ok p ∧ Pipeline.WellFormed fs' p := by
  simp only [Pipeline.read?] at hp ⊢
  cases hscan : scan cs with
  | error fault => simp [hscan] at hp
  | ok ts =>
    simp only [hscan] at hp ⊢
    obtain ⟨⟨p', rest⟩, hread, hend⟩ := ok_of_bind hp
    obtain ⟨rfl, hwell⟩ := (spellsBack fs _).pipeline hread
    cases rest with
    | cons t rest => cases hend
    | nil =>
      cases hend
      have hwell' := Pipeline.WellFormed.mono h p hwell
      rw [List.append_nil]
      exact ⟨Pipeline.parse_flat hwell', hwell'⟩

/-- A part whose pipeline, if it has one, is well formed. -/
def Part.WellFormed (fs : Functions) : Part → Prop
  | .text _ => True
  | .action p => Pipeline.WellFormed fs p

theorem wellFormed_textPart {t : List Char} {part : Part} (h : part ∈ textPart t) :
    part.WellFormed fs := by
  unfold textPart at h
  split at h
  · cases h
  · rw [List.mem_singleton.mp h]
    trivial

theorem readParts_mono (h : ∀ f, fs.contains f = true → fs'.contains f = true) {fuel : Nat}
    {cs : List Char} {parts : List Part} (hread : readParts fs fuel cs = .ok parts) :
    readParts fs' fuel cs = .ok parts ∧ ∀ part ∈ parts, part.WellFormed fs' := by
  induction fuel generalizing cs parts with
  | zero =>
    obtain rfl := Except.ok.inj hread
    exact ⟨rfl, fun part => wellFormed_textPart⟩
  | succ fuel ih =>
    unfold readParts at hread ⊢
    cases hbefore : beforeAction cs with
    | mk t after =>
      cases after with
      | none =>
        simp only [hbefore] at hread ⊢
        obtain rfl := Except.ok.inj hread
        exact ⟨rfl, fun part => wellFormed_textPart⟩
      | some after =>
        simp only [hbefore] at hread ⊢
        cases hsplit : splitAction none after with
        | none => simp [hsplit] at hread
        | some pieces =>
          simp only [hsplit] at hread ⊢
          obtain ⟨p, hp, hread⟩ := ok_of_bind hread
          obtain ⟨later, hlater, hread⟩ := ok_of_bind hread
          obtain rfl := Except.ok.inj hread
          obtain ⟨hp', hwell⟩ := Pipeline.read?_mono h hp
          obtain ⟨hlater', hall⟩ := ih hlater
          refine ⟨by simp [hp', hlater', bind, Except.bind, pure, Except.pure], ?_⟩
          intro part hpart
          rcases List.mem_append.mp hpart with hpart | hpart
          · exact wellFormed_textPart hpart
          · rcases List.mem_cons.mp hpart with rfl | hpart
            · exact hwell
            · exact hall part hpart

theorem parse?_mono (h : ∀ f, fs.contains f = true → fs'.contains f = true) {src : String}
    {t : Template} (ht : parse? fs src = .ok t) :
    parse? fs' src = .ok t ∧ ∀ part ∈ t.parts, part.WellFormed fs' := by
  obtain ⟨parts, hread, ht⟩ := ok_of_bind ht
  obtain rfl := Except.ok.inj ht
  obtain ⟨hread', hall⟩ := readParts_mono h hread
  exact ⟨by simp [parse?, hread', bind, Except.bind, pure, Except.pure], hall⟩

/-- Whatever the environment, the standard functions have the same names. -/
theorem standard_contains {env : Dict String} {f : String}
    (h : (Functions.standard env).contains f = true) (env' : Dict String) :
    (Functions.standard env').contains f = true := by
  rw [Functions.contains, Functions.standard, Dict.contains_ofList] at h ⊢
  exact h

/-! ### Evaluation -/

/-- A template breaks off where one of its actions does. -/
theorem breaks_of_renderParts {ctx : Json} {parts : List Part} {fault : EvalFault}
    (hparts : ∀ part ∈ parts, part.WellFormed fs) (h : renderParts fs ctx parts = .error fault) :
    ∃ p, .action p ∈ parts ∧ Breaks fs ctx (Pipeline.flat p) fault := by
  induction parts with
  | nil => cases h
  | cons part parts ih =>
    obtain ⟨hpart, hothers⟩ := List.forall_mem_cons.mp hparts
    have hlater (h : renderParts fs ctx parts = .error fault) :
        ∃ p, .action p ∈ part :: parts ∧ Breaks fs ctx (Pipeline.flat p) fault := by
      obtain ⟨p, hp, hbreaks⟩ := ih hothers h
      exact ⟨p, List.mem_cons_of_mem _ hp, hbreaks⟩
    cases part with
    | text s =>
      rcases error_of_bind h with hrest | ⟨r, -, hdone⟩
      · exact hlater hrest
      · cases hdone
    | action p =>
      rcases error_of_bind h with heval | ⟨v, -, hrest⟩
      · exact ⟨p, List.mem_cons_self, breaks_of_eval hpart heval⟩
      · rcases error_of_bind hrest with hrest | ⟨r, -, hdone⟩
        · exact hlater hrest
        · cases hdone

/-! ### Messages -/

/-- The first characters of a text. -/
def opening (s : String) : List Char := s.toList.take 7

theorem opening_append {s : String} (hs : 7 ≤ s.length) (rest : String) :
    opening (s ++ rest) = opening s := by
  have hs' : 7 ≤ s.toList.length := by rwa [String.length_toList]
  simp only [opening, String.toList_append, List.take_append_of_le_length hs']

/-- How the messages of faults begin that come up while a template is rendered. -/
def renderingOpenings : List (List Char) := ["can't e".toList, "error c".toList]

theorem opening_not_mem_of_start {message s rest : String} (hmessage : message = s ++ rest)
    (hs : 7 ≤ s.length ∧ opening s ∉ renderingOpenings) : opening message ∉ renderingOpenings := by
  rw [hmessage, opening_append hs.1]
  exact hs.2

theorem EvalFault.opening_message {fault : EvalFault} (h : ∀ f, fault ≠ .undefined f) :
    opening fault.message ∈ renderingOpenings := by
  cases fault with
  | undefined f => exact (h f rfl).elim
  | fieldOf name kind =>
    show opening ("can't evaluate field " ++ name ++ " in type " ++ kind) ∈ _
    rw [String.append_assoc, String.append_assoc, opening_append (by decide +kernel)]
    decide +kernel
  | call f fault =>
    show opening ("error calling " ++ f ++ ": " ++ fault.message) ∈ _
    rw [String.append_assoc, String.append_assoc, opening_append (by decide +kernel)]
    decide +kernel

theorem ScanFault.opening_message (fault : ScanFault) :
    opening fault.message ∉ renderingOpenings := by
  cases fault with
  | unterminatedText => decide +kernel
  | unterminatedRawText => decide +kernel
  | unknownEscape c => exact opening_not_mem_of_start rfl (by decide +kernel)
  | numberTooLarge ds => exact opening_not_mem_of_start String.append_assoc (by decide +kernel)
  | numberTooSmall ds => exact opening_not_mem_of_start String.append_assoc (by decide +kernel)
  | unexpected c => exact opening_not_mem_of_start String.append_assoc (by decide +kernel)

theorem ParseFault.opening_message (fault : ParseFault) :
    opening fault.message ∉ renderingOpenings := by
  cases fault with
  | scan fault => exact fault.opening_message
  | unexpected t => exact opening_not_mem_of_start String.append_assoc (by decide +kernel)
  | notAFunctionStage => decide +kernel
  | undefined f => exact opening_not_mem_of_start String.append_assoc (by decide +kernel)
  | missingValue => decide +kernel
  | argumentToValue t => exact opening_not_mem_of_start String.append_assoc (by decide +kernel)
  | bareFunction f => exact opening_not_mem_of_start String.append_assoc (by decide +kernel)
  | unclosedParen => decide +kernel
  | unclosedAction => decide +kernel
end Template

/-- A failure that no check of names and templates foresees: not an unknown tracker and not a
malformed action name, and when a template failed then while it was rendered, with a message that no
fault of the parser has. -/
structure Failure.BeyondCheck (f : Failure) : Prop where
  tracker : ∀ name, f ≠ .trackerNotRegistered name
  actionName : ∀ text, f ≠ .malformedActionName text
  template : ∀ key message, f = .template key message →
    (∃ fault : Template.EvalFault, (∀ g, fault ≠ .undefined g) ∧ message = fault.message) ∧
      ∀ fault : Template.ParseFault, message ≠ fault.message

open Template

theorem Failure.beyondCheck_template (key : String) {fault : EvalFault}
    (h : ∀ g, fault ≠ .undefined g) : (Failure.template key fault.message).BeyondCheck where
  tracker := by simp
  actionName := by simp
  template key' message heq := by
    obtain ⟨-, rfl⟩ := Failure.template.inj heq
    refine ⟨⟨fault, h, rfl⟩, ?_⟩
    intro fault' hsame
    exact fault'.opening_message (hsame ▸ EvalFault.opening_message h)

section
variable {fs fs' : Functions} {u : Update} {t : Ticket} {f : Failure}

/-- A template that is parsed over a registry fails beyond any check over one with its names. -/
theorem Vars.beyondCheck_of_renderOne
    (hnames : ∀ g, fs.contains g = true → fs'.contains g = true) {ctx : Json} {key src : String}
    (hparse : templateFault fs src = none) (h : renderOne fs' ctx key src = .error f) :
    f.BeyondCheck := by
  simp only [templateFault] at hparse
  cases hread : parse? fs src with
  | error fault => simp [hread] at hparse
  | ok parsed =>
    obtain ⟨hread', hall⟩ := parse?_mono hnames hread
    simp only [renderOne, renderSource, hread', renderIn] at h
    cases hparts : renderParts fs' ctx parsed.parts with
    | ok text =>
      rw [hparts] at h
      cases h
    | error fault =>
      rw [hparts] at h
      obtain rfl := Except.error.inj h
      obtain ⟨p, -, hbreaks⟩ := breaks_of_renderParts hall hparts
      exact Failure.beyondCheck_template _ hbreaks.ne_undefined

/-- Variables whose templates are parsed over a registry fail beyond any check over one with its
names. -/
theorem Vars.beyondCheck_of_evaluate (hnames : ∀ g, fs.contains g = true → fs'.contains g = true)
    {vars : Vars} (hparse : ∀ e ∈ vars.toList, templateFault fs e.2 = none)
    (h : vars.evaluate fs' u t = .error f) : f.BeyondCheck := by
  unfold Vars.evaluate at h
  split at h
  · cases h
  · cases hm : vars.toList.mapM fun e => renderOne fs' (context u t) e.1 e.2 with
    | ok values => simp [hm, bind, Except.bind, pure, Except.pure] at h
    | error f' =>
      obtain ⟨before, e, after, hsplit, hfailed, -⟩ := mapM_eq_error_iff.mp hm
      have he : e ∈ vars.toList := hsplit ▸ List.mem_append_right _ List.mem_cons_self
      simp only [hm, bind, Except.bind, Except.error.injEq] at h
      exact beyondCheck_of_renderOne hnames (hparse e he) (h ▸ hfailed)

/-- A condition that is parsed over a registry fails beyond any check over one with its names. -/
theorem beyondCheck_of_evalCondition (hnames : ∀ g, fs.contains g = true → fs'.contains g = true)
    {condition : String} (hparse : conditionFault fs condition = none)
    (h : evalCondition fs' condition u t = .error f) : f.BeyondCheck := by
  simp only [conditionFault] at hparse
  cases hread : readExpression? fs condition with
  | error fault => simp [hread] at hparse
  | ok p =>
    obtain ⟨hread', hwell⟩ := Pipeline.read?_mono hnames hread
    have heval : evalSource fs' (context u t) condition =
        (p.eval fs' (context u t)).mapError .eval := by
      simp [evalSource, readExpression?, hread']
    simp only [evalCondition, heval, Pipeline.eval] at h
    cases hvalue : evalStages fs' (context u t) p with
    | error fault =>
      rw [hvalue] at h
      obtain rfl := Except.error.inj h
      exact Failure.beyondCheck_template _ (breaks_of_eval hwell hvalue).ne_undefined
    | ok v =>
      rw [hvalue] at h
      cases v with
      | bool b => cases h
      | _ =>
        obtain rfl := Except.error.inj h
        exact ⟨by simp, by simp, by simp⟩
end

end TicketSync
