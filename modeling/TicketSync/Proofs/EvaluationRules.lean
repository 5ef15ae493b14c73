import TicketSync.Proofs.RecordCodec
import TicketSync.Template.Evaluation

/-! # The rules of evaluation

Evaluation as a relation that has rules for well-formed pipelines only: none for a function that is
not in the registry, none for a pipeline without commands, and none by which a term is handed a
value. What the evaluator computes for a well-formed pipeline follows from these rules, and a
failure that follows from them comes from the context or from a function. -/
namespace TicketSync.Template

variable {fs : Functions} {ctx : Json}

mutual
/-- What a term comes to. -/
inductive TermYields (fs : Functions) (ctx : Json) : Term → Except EvalFault Json → Prop
  | field (path : List String) : TermYields fs ctx (.field path) (lookUp path ctx)
  | literal (l : Literal) : TermYields fs ctx (.literal l) (.ok l.value)
  | sub {p : List Command} {r : Except EvalFault Json} (h : StagesYield fs ctx none p r) :
      TermYields fs ctx (.sub p) r

/-- What arguments come to, one after the other. -/
inductive TermsYield (fs : Functions) (ctx : Json) :
    List Term → Except EvalFault (List Json) → Prop
  | nil : TermsYield fs ctx [] (.ok [])
  | cons {t : Term} {ts : List Term} {v : Json} {vs : List Json}
      (ht : TermYields fs ctx t (.ok v)) (hts : TermsYield fs ctx ts (.ok vs)) :
      TermsYield fs ctx (t :: ts) (.ok (v :: vs))
  | first {t : Term} {ts : List Term} {fault : EvalFault}
      (ht : TermYields fs ctx t (.error fault)) : TermsYield fs ctx (t :: ts) (.error fault)
  | later {t : Term} {ts : List Term} {v : Json} {fault : EvalFault}
      (ht : TermYields fs ctx t (.ok v)) (hts : TermsYield fs ctx ts (.error fault)) :
      TermsYield fs ctx (t :: ts) (.error fault)

/-- What a command comes to that is handed the value of the stage before it, if there is one. The
function of a call gets that value as its last argument. -/
inductive CommandYields (fs : Functions) (ctx : Json) :
    (piped : Option Json) → Command → Except EvalFault Json → Prop
  | term {t : Term} {r : Except EvalFault Json} (h : TermYields fs ctx t r) :
      CommandYields fs ctx none (.term t) r
  | call {piped : Option Json} {f : String} {g : Function} {args : List Term} {vs : List Json}
      {v : Json} (hf : fs.get? f = some g) (hargs : TermsYield fs ctx args (.ok vs))
      (hcall : g (vs ++ piped.toList) = .ok v) : CommandYields fs ctx piped (.call f args) (.ok v)
  | fails {piped : Option Json} {f : String} {g : Function} {args : List Term} {vs : List Json}
      {fault : FunctionFault} (hf : fs.get? f = some g) (hargs : TermsYield fs ctx args (.ok vs))
      (hcall : g (vs ++ piped.toList) = .error fault) :
      CommandYields fs ctx piped (.call f args) (.error (.call f fault))
  | argument {piped : Option Json} {f : String} {g : Function} {args : List Term}
      {fault : EvalFault} (hf : fs.get? f = some g)
      (hargs : TermsYield fs ctx args (.error fault)) :
      CommandYields fs ctx piped (.call f args) (.error fault)

/-- What stages come to, the first of which is handed `piped`. -/
inductive StagesYield (fs : Functions) (ctx : Json) :
    (piped : Option Json) → List Command → Except EvalFault Json → Prop
  | last {piped : Option Json} {c : Command} {r : Except EvalFault Json}
      (hc : CommandYields fs ctx piped c r) : StagesYield fs ctx piped [c] r
  | next {piped : Option Json} {c : Command} {cs : List Command} {v : Json}
      {r : Except EvalFault Json} (hc : CommandYields fs ctx piped c (.ok v))
      (hcs : StagesYield fs ctx (some v) cs r) : StagesYield fs ctx piped (c :: cs) r
  | stop {piped : Option Json} {c : Command} {cs : List Command} {fault : EvalFault}
      (hc : CommandYields fs ctx piped c (.error fault)) :
      StagesYield fs ctx piped (c :: cs) (.error fault)
end

/-! ### Well-formed pipelines are evaluated by the rules -/

theorem Callable.exists_get? {f : String} (hf : Callable fs f) : ∃ g, fs.get? f = some g := by
  rw [← Option.isSome_iff_exists]
  exact hf.1

theorem evalCommand_call {f : String} {g : Function} (hf : fs.get? f = some g) (args : List Term)
    (piped : List Json) :
    evalCommand fs ctx (.call f args) piped =
      evalTerms fs ctx args >>= fun vs => (g (vs ++ piped)).mapError (.call f) := by
  rw [evalCommand, hf]
  refine bind_congr fun vs => ?_
  cases g (vs ++ piped) <;> rfl

theorem TermsYield.of_cons {t : Term} {ts : List Term}
    (ht : TermYields fs ctx t (evalTerm fs ctx t))
    (hts : TermsYield fs ctx ts (evalTerms fs ctx ts)) :
    TermsYield fs ctx (t :: ts) (evalTerms fs ctx (t :: ts)) := by
  rw [evalTerms]
  cases hv : evalTerm fs ctx t with
  | error fault => exact .first (hv ▸ ht)
  | ok v =>
    cases hvs : evalTerms fs ctx ts with
    | error fault => exact .later (hv ▸ ht) (hvs ▸ hts)
    | ok vs => exact .cons (hv ▸ ht) (hvs ▸ hts)

theorem CommandYields.of_call {f : String} {args : List Term} (hf : Callable fs f)
    (hargs : TermsYield fs ctx args (evalTerms fs ctx args)) (piped : Option Json) :
    CommandYields fs ctx piped (.call f args) (evalCommand fs ctx (.call f args) piped.toList) := by
  obtain ⟨g, hg⟩ := hf.exists_get?
  rw [evalCommand_call hg]
  cases hvs : evalTerms fs ctx args with
  | error fault => exact .argument hg (hvs ▸ hargs)
  | ok vs =>
    show CommandYields fs ctx piped (.call f args) ((g (vs ++ piped.toList)).mapError (.call f))
    cases hcall : g (vs ++ piped.toList) with
    | ok v => exact .call hg (hvs ▸ hargs) hcall
    | error fault => exact .fails hg (hvs ▸ hargs) hcall

/-- A stage hands its value on to the stages behind it, if there are any. -/
theorem StagesYield.of_cons {piped : Option Json} {c : Command} {cs : List Command}
    {r : Except EvalFault Json} (hc : CommandYields fs ctx piped c r)
    (hcs : ∀ v, cs ≠ [] → StagesYield fs ctx (some v) cs (evalPiped fs ctx cs v)) :
    StagesYield fs ctx piped (c :: cs) (r >>= evalPiped fs ctx cs) := by
  cases r with
  | error fault => exact .stop hc
  | ok v =>
    cases cs with
    | nil => exact .last hc
    | cons d cs => exact .next hc (hcs v (by simp))

section
variable (ctx)

mutual
theorem termYields_eval (t : Term) (ht : t.WellFormed fs) :
    TermYields fs ctx t (evalTerm fs ctx t) := by
  cases t with
  | field path => exact .field path
  | literal l => exact .literal l
  | sub p => exact .sub (stagesYield_eval p ht)

theorem termsYield_eval (args : List Term) (h : Term.AllWellFormed fs args) :
    TermsYield fs ctx args (evalTerms fs ctx args) := by
  cases args with
  | nil => exact .nil
  | cons t args => exact .of_cons (termYields_eval t h.1) (termsYield_eval args h.2)

theorem commandYields_eval (c : Command) (hc : c.WellFormed fs) :
    CommandYields fs ctx none c (evalCommand fs ctx c []) := by
  cases c with
  | term t => exact .term (termYields_eval t hc)
  | call f args => exact .of_call hc.1 (termsYield_eval args hc.2) none

theorem stagesYield_eval (p : List Command) (hp : Pipeline.WellFormed fs p) :
    StagesYield fs ctx none p (evalStages fs ctx p) := by
  cases p with
  | nil => exact hp.elim
  | cons c cs =>
    exact .of_cons (commandYields_eval c hp.1) fun v => stagesYield_evalPiped cs hp.2 v

theorem stagesYield_evalPiped (cs : List Command) (hcs : Pipeline.StagesWellFormed fs cs) (v : Json)
    (hne : cs ≠ []) : StagesYield fs ctx (some v) cs (evalPiped fs ctx cs v) := by
  cases cs with
  | nil => exact (hne rfl).elim
  | cons c cs =>
    cases c with
    | term t => exact hcs.elim
    | call f args =>
      exact .of_cons (.of_call hcs.1 (termsYield_eval args hcs.2.1) (some v))
        fun w => stagesYield_evalPiped cs hcs.2.2 w
end
end

/-! ### The rules give what is evaluated -/

/-- What is computed for stages the first of which is handed `piped`. -/
def evalFrom (fs : Functions) (ctx : Json) (piped : Option Json) (cs : List Command) :
    Except EvalFault Json :=
  piped.elim (evalStages fs ctx cs) (evalPiped fs ctx cs)

theorem evalFrom_cons (piped : Option Json) (c : Command) (cs : List Command) :
    evalFrom fs ctx piped (c :: cs) =
      evalCommand fs ctx c piped.toList >>= evalPiped fs ctx cs := by
  cases piped <;> rfl

mutual
theorem evalTerm_of_yields (t : Term) {r : Except EvalFault Json} (h : TermYields fs ctx t r) :
    evalTerm fs ctx t = r := by
  cases h with
  | field path => rfl
  | literal l => rfl
  | sub h => exact evalFrom_of_yields _ h

theorem evalTerms_of_yields (args : List Term) {r : Except EvalFault (List Json)}
    (h : TermsYield fs ctx args r) : evalTerms fs ctx args = r := by
  cases h with
  | nil => rfl
  | cons ht hts => rw [evalTerms, evalTerm_of_yields _ ht, evalTerms_of_yields _ hts]; rfl
  | first ht => rw [evalTerms, evalTerm_of_yields _ ht]; rfl
  | later ht hts => rw [evalTerms, evalTerm_of_yields _ ht, evalTerms_of_yields _ hts]; rfl

theorem evalCommand_of_yields (c : Command) {piped : Option Json} {r : Except EvalFault Json}
    (h : CommandYields fs ctx piped c r) : evalCommand fs ctx c piped.toList = r := by
  cases h with
  | term h => exact evalTerm_of_yields _ h
  | call hf hargs hcall =>
    rw [evalCommand_call hf, evalTerms_of_yields _ hargs]
    exact congrArg (Except.mapError _) hcall
  | fails hf hargs hcall =>
    rw [evalCommand_call hf, evalTerms_of_yields _ hargs]
    exact congrArg (Except.mapError _) hcall
  | argument hf hargs => rw [evalCommand_call hf, evalTerms_of_yields _ hargs]; rfl

theorem evalFrom_of_yields (cs : List Command) {piped : Option Json} {r : Except EvalFault Json}
    (h : StagesYield fs ctx piped cs r) : evalFrom fs ctx piped cs = r := by
  cases h with
  | last hc =>
    rw [evalFrom_cons, evalCommand_of_yields _ hc]
    cases r <;> rfl
  | next hc hcs =>
    rw [evalFrom_cons, evalCommand_of_yields _ hc]
    exact evalFrom_of_yields _ hcs
  | stop hc =>
    rw [evalFrom_cons, evalCommand_of_yields _ hc]
    rfl
end

/-- The rules describe how a well-formed pipeline is evaluated, all of it. -/
theorem eval_eq_iff_yields {p : Pipeline} (hp : Pipeline.WellFormed fs p)
    (r : Except EvalFault Json) : p.eval fs ctx = r ↔ StagesYield fs ctx none p r := by
  constructor
  · rintro rfl
    exact stagesYield_eval ctx p hp
  · exact evalFrom_of_yields p

/-! ### Where faults come from -/

/-- How the evaluation of a pipeline with these tokens breaks off: one of its paths leads on from a
value that is neither a map nor null, or a function that it calls returns a fault. -/
inductive Breaks (fs : Functions) (ctx : Json) (ts : List Token) : EvalFault → Prop
  | field {before after : List String} {name : String} {v : Json}
      (hpath : .field (before ++ name :: after) ∈ ts) (hv : lookUp before ctx = .ok v)
      (hmap : ∀ fields, v ≠ .obj fields) (hnull : v ≠ .null) :
      Breaks fs ctx ts (.fieldOf name v.kind)
  | call {f : String} {g : Function} {args : List Json} {fault : FunctionFault}
      (hname : .name f ∈ ts) (hf : fs.get? f = some g) (hcall : g args = .error fault) :
      Breaks fs ctx ts (.call f fault)

theorem Breaks.mono {ts ts' : List Token} {fault : EvalFault} (h : Breaks fs ctx ts fault)
    (hts : ts ⊆ ts') : Breaks fs ctx ts' fault := by
  cases h with
  | field hpath hv hmap hnull => exact .field (hts hpath) hv hmap hnull
  | call hname hf hcall => exact .call (hts hname) hf hcall

theorem Breaks.ne_undefined {ts : List Token} {fault : EvalFault} (h : Breaks fs ctx ts fault)
    (f : String) : fault ≠ .undefined f := by
  cases h <;> simp

/-- A path fails at the first name behind a value that has no fields. -/
theorem lookUp_eq_error {path : List String} {v : Json} {fault : EvalFault}
    (h : lookUp path v = .error fault) :
    ∃ before name after w, path = before ++ name :: after ∧ lookUp before v = .ok w ∧
      (∀ fields, w ≠ .obj fields) ∧ w ≠ .null ∧ fault = .fieldOf name w.kind := by
  fun_induction lookUp path v with
  | case1 v => cases h
  | case2 name path fields v hfind ih =>
    obtain ⟨before, name', after, w, rfl, hw, hrest⟩ := ih h
    exact ⟨name :: before, name', after, w, rfl, by rw [lookUp, hfind]; exact hw, hrest⟩
  | case3 name path fields hfind => cases h
  | case4 => cases h
  | case5 name path v hmap hnull =>
    cases h
    exact ⟨[], name, path, v, rfl, rfl, hmap, hnull, rfl⟩

theorem Pipeline.flat_subset_flatStages (cs : List Command) :
    Pipeline.flat cs ⊆ Pipeline.flatStages cs := by
  cases cs with
  | nil => exact List.Subset.refl _
  | cons c cs => exact List.subset_cons_self _ _

mutual
theorem breaks_of_termYields (t : Term) {r : Except EvalFault Json} {fault : EvalFault}
    (h : TermYields fs ctx t r) (hr : r = .error fault) : Breaks fs ctx t.flat fault := by
  cases h with
  | field path =>
    obtain ⟨before, name, after, v, rfl, hv, hmap, hnull, rfl⟩ := lookUp_eq_error hr
    exact .field List.mem_cons_self hv hmap hnull
  | literal l => cases hr
  | sub h =>
    refine (breaks_of_stagesYield _ h hr).mono ?_
    rw [Term.flat]
    exact List.subset_cons_of_subset _ (List.subset_append_left _ _)

theorem breaks_of_termsYield (args : List Term) {fault : EvalFault}
    (h : TermsYield fs ctx args (.error fault)) : Breaks fs ctx (Term.flatAll args) fault := by
  cases h with
  | first ht => exact (breaks_of_termYields _ ht rfl).mono (List.subset_append_left _ _)
  | later ht hts => exact (breaks_of_termsYield _ hts).mono (List.subset_append_right _ _)

theorem breaks_of_commandYields (c : Command) {piped : Option Json} {r : Except EvalFault Json}
    {fault : EvalFault} (h : CommandYields fs ctx piped c r) (hr : r = .error fault) :
    Breaks fs ctx c.flat fault := by
  cases h with
  | term h => exact breaks_of_termYields _ h hr
  | call hf hargs hcall => cases hr
  | fails hf hargs hcall =>
    cases hr
    exact .call List.mem_cons_self hf hcall
  | argument hf hargs =>
    cases hr
    exact (breaks_of_termsYield _ hargs).mono (List.subset_cons_self _ _)

theorem breaks_of_stagesYield (p : List Command) {piped : Option Json}
    {r : Except EvalFault Json} {fault : EvalFault} (h : StagesYield fs ctx piped p r)
    (hr : r = .error fault) : Breaks fs ctx (Pipeline.flat p) fault := by
  cases h with
  | last hc => exact (breaks_of_commandYields _ hc hr).mono (List.subset_append_left _ _)
  | stop hc => exact (breaks_of_commandYields _ hc hr).mono (List.subset_append_left _ _)
  | next hc hcs =>
    refine (breaks_of_stagesYield _ hcs hr).mono ?_
    exact List.Subset.trans (Pipeline.flat_subset_flatStages _) (List.subset_append_right _ _)
end

theorem breaks_of_eval {p : Pipeline} {fault : EvalFault} (hp : Pipeline.WellFormed fs p)
    (h : p.eval fs ctx = .error fault) : Breaks fs ctx (Pipeline.flat p) fault :=
  breaks_of_stagesYield p (stagesYield_eval ctx p hp) h

end TicketSync.Template
