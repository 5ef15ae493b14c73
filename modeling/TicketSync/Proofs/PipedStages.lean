import TicketSync.Proofs.RenderingFaults
import TicketSync.Proofs.TokenSpelling

/-! # What a stage hands on

A pipeline may be cut between any two of its stages: the value of the front part goes to the back
part, whose first function gets it as its last argument. In a pipeline that was parsed there is such
a function behind every cut, also in the pipelines in its parentheses. And a value can be handed on
just as well in parentheses: a pipeline with a call at its end is that call of the pipeline before
it, so long pipelines are nested calls. -/
namespace TicketSync.Template

variable {fs : Functions} {p q : Pipeline} {f : String} {args : List Term}

/-! ### Stages behind others -/

section
variable (fs : Functions) (ctx : Json)

theorem evalPiped_append (cs ds : List Command) (v : Json) :
    evalPiped fs ctx (cs ++ ds) v = evalPiped fs ctx cs v >>= evalPiped fs ctx ds := by
  induction cs generalizing v with
  | nil => rfl
  | cons c cs ih =>
    rw [List.cons_append, evalPiped, evalPiped, bind_assoc]
    exact bind_congr ih

theorem evalStages_append (hp : p ≠ []) (cs : List Command) :
    evalStages fs ctx (p ++ cs) = evalStages fs ctx p >>= evalPiped fs ctx cs := by
  cases p with
  | nil => exact (hp rfl).elim
  | cons c p =>
    rw [List.cons_append, evalStages, evalStages, bind_assoc]
    exact bind_congr (evalPiped_append fs ctx p cs)

theorem evalPiped_single (c : Command) (v : Json) :
    evalPiped fs ctx [c] v = evalCommand fs ctx c [v] :=
  bind_pure _

theorem evalStages_single (c : Command) : evalStages fs ctx [c] = evalCommand fs ctx c [] :=
  bind_pure _

theorem evalTerms_append (xs ys : List Term) :
    evalTerms fs ctx (xs ++ ys) =
      evalTerms fs ctx xs >>= fun vs => (vs ++ ·) <$> evalTerms fs ctx ys := by
  induction xs with
  | nil => exact (id_map _).symm
  | cons x xs ih => simp [evalTerms, ih]

/-- The function of the last stage gets the value of the stages before it behind its arguments. -/
theorem evalStages_append_call {g : Function} (hp : p ≠ []) (hf : fs.get? f = some g) :
    evalStages fs ctx (p ++ [.call f args]) =
      evalStages fs ctx p >>= fun v =>
      evalTerms fs ctx args >>= fun vs => (g (vs ++ [v])).mapError (.call f) := by
  rw [evalStages_append fs ctx hp]
  refine bind_congr fun v => ?_
  rw [evalPiped_single, evalCommand_call hf]

end

/-! ### Pipelines in parentheses -/

/-- The pipelines in a pipeline: itself, and those in parentheses in its commands. -/
inductive Nested : Pipeline → Pipeline → Prop
  | self (p : Pipeline) : Nested p p
  | term {p p' q : Pipeline} (hterm : .term (.sub p') ∈ p) (hq : Nested q p') : Nested q p
  | arg {p p' q : Pipeline} {f : String} {args : List Term} (hcall : .call f args ∈ p)
      (harg : .sub p' ∈ args) (hq : Nested q p') : Nested q p

theorem Term.AllWellFormed.forall {t : Term} (h : Term.AllWellFormed fs args) (ht : t ∈ args) :
    t.WellFormed fs := by
  induction args with
  | nil => cases ht
  | cons x args ih =>
    rcases List.mem_cons.mp ht with rfl | ht
    · exact h.1
    · exact ih h.2 ht

/-- Stages behind the first are calls. -/
theorem Pipeline.StagesWellFormed.call {cs : List Command} {c : Command}
    (h : Pipeline.StagesWellFormed fs cs) (hc : c ∈ cs) :
    ∃ f args, c = .call f args ∧ c.WellFormed fs := by
  induction cs with
  | nil => cases hc
  | cons d cs ih =>
    cases d with
    | term t => exact h.elim
    | call f args =>
      rcases List.mem_cons.mp hc with rfl | hc
      · exact ⟨f, args, rfl, h.1, h.2.1⟩
      · exact ih h.2.2 hc

theorem Pipeline.WellFormed.command {c : Command} (h : Pipeline.WellFormed fs p) (hc : c ∈ p) :
    c.WellFormed fs := by
  cases p with
  | nil => cases hc
  | cons d p =>
    rcases List.mem_cons.mp hc with rfl | hc
    · exact h.1
    · obtain ⟨-, -, -, hwell⟩ := h.2.call hc
      exact hwell

theorem Pipeline.WellFormed.nested (h : Pipeline.WellFormed fs p) (hq : Nested q p) :
    Pipeline.WellFormed fs q := by
  induction hq with
  | self p => exact h
  | term hterm hq ih => exact ih (h.command hterm)
  | arg hcall harg hq ih => exact ih ((h.command hcall).2.forall harg)

/-! ### Parsed pipelines -/

/-- A pipeline with a stage in which every call is of a function, and in which each stage behind the
first calls its function with the value of the stages before it as the last argument. -/
structure HandsOn (fs : Functions) (q : Pipeline) : Prop where
  ne_nil : q ≠ []
  called : ∀ f args, .call f args ∈ q → ∃ g, fs.get? f = some g
  handed : ∀ before c after, q = before ++ c :: after → before ≠ [] →
    ∃ f args g, c = .call f args ∧ fs.get? f = some g ∧
      ∀ ctx, evalStages fs ctx (before ++ [c]) =
        evalStages fs ctx before >>= fun v =>
        evalTerms fs ctx args >>= fun vs => (g (vs ++ [v])).mapError (.call f)

theorem Pipeline.WellFormed.handsOn (h : Pipeline.WellFormed fs q) : HandsOn fs q where
  ne_nil := by
    rintro rfl
    exact h
  called f args hcall := (h.command hcall).1.exists_get?
  handed before c after hq hne := by
    subst hq
    obtain ⟨d, before, rfl⟩ := List.exists_cons_of_ne_nil hne
    obtain ⟨f, args, rfl, hcall⟩ := h.2.call (List.mem_append_right _ List.mem_cons_self)
    obtain ⟨g, hg⟩ := hcall.1.exists_get?
    exact ⟨f, args, g, rfl, hg, fun ctx => evalStages_append_call fs ctx hne hg⟩

/-- A pipeline that is evaluated by the rules, whatever the context, hands values on at every depth,
and fails only where the context or a function does. -/
structure Pipeline.Sound (fs : Functions) (p : Pipeline) : Prop where
  handsOn : ∀ q, Nested q p → HandsOn fs q
  yields : ∀ ctx r, p.eval fs ctx = r ↔ StagesYield fs ctx none p r
  breaks : ∀ ctx fault, p.eval fs ctx = .error fault → Breaks fs ctx (Pipeline.flat p) fault

theorem Pipeline.WellFormed.sound (h : Pipeline.WellFormed fs p) : Pipeline.Sound fs p where
  handsOn _ hq := (h.nested hq).handsOn
  yields _ := eval_eq_iff_yields h
  breaks _ _ := breaks_of_eval h

/-- A fault whose message names the field that a value was asked for which is no map, or a function
of the registry and what it said when it failed. -/
def EvalFault.HasCause (fs : Functions) (fault : EvalFault) : Prop :=
  (∃ name v, (∀ fields, v ≠ Json.obj fields) ∧
    fault.message = "can't evaluate field " ++ name ++ " in type " ++ v.kind) ∨
  ∃ f g vs e, fs.get? f = some g ∧ g vs = .error e ∧
    fault.message = "error calling " ++ f ++ ": " ++ e.message

theorem Breaks.hasCause {ctx : Json} {ts : List Token} {fault : EvalFault}
    (h : Breaks fs ctx ts fault) : fault.HasCause fs := by
  cases h with
  | field hpath hv hmap hnull => exact .inl ⟨_, _, hmap, rfl⟩
  | call hname hf hcall => exact .inr ⟨_, _, _, _, hf, hcall, rfl⟩

theorem error_of_eval {α : Type} {x : Except EvalFault α} {fault : EvalFault}
    (h : x.mapError Fault.eval = .error (.eval fault)) : x = .error fault := by
  cases x with
  | ok v => cases h
  | error fault' =>
    cases h
    rfl

/-- The pipelines of a source that is parsed, as a template or as an expression, are sound: they are
evaluated without a function that is not there, without a pipeline of no commands and without a
value that no function takes. So a source fails with a fault of evaluation only where one of its
paths leads on from a value that is no map, or with the fault of a function that it calls. -/
theorem parsed_sources_are_sound (fs : Functions) (src : String) :
    (∀ t, parse? fs src = .ok t →
      (∀ p, .action p ∈ t.parts → Pipeline.Sound fs p) ∧
      ∀ ctx fault, t.renderIn fs ctx = .error fault →
        ∃ p, .action p ∈ t.parts ∧ Breaks fs ctx (Pipeline.flat p) fault) ∧
    (∀ p, readExpression? fs src = .ok p → Pipeline.Sound fs p) ∧
    ∀ ctx fault, renderSource fs ctx src = .error (.eval fault) ∨
        evalSource fs ctx src = .error (.eval fault) → fault.HasCause fs := by
  have htemplate (t : Template) (ht : parse? fs src = .ok t) :
      ∀ part ∈ t.parts, part.WellFormed fs :=
    (parse?_mono (fun _ => id) ht).2
  have hexpression (p : Pipeline) (hp : readExpression? fs src = .ok p) :
      Pipeline.WellFormed fs p :=
    (Pipeline.read?_mono (fun _ => id) hp).2
  refine ⟨?_, fun p hp => (hexpression p hp).sound, ?_⟩
  · intro t ht
    refine ⟨fun p hp => ?_, fun ctx fault => breaks_of_renderParts (htemplate t ht)⟩
    exact Pipeline.WellFormed.sound (htemplate t ht _ hp)
  · rintro ctx fault (hrender | heval)
    · unfold renderSource at hrender
      split at hrender
      · cases hrender
      · next t ht =>
        obtain ⟨p, -, hbreaks⟩ := breaks_of_renderParts (htemplate t ht) (error_of_eval hrender)
        exact hbreaks.hasCause
    · unfold evalSource at heval
      split at heval
      · cases heval
      · next p hp => exact (breaks_of_eval (hexpression p hp) (error_of_eval heval)).hasCause

/-- A pipeline in parentheses with two calls: what it hands on, and the fault of its first function
in a context where it is handed a number. -/
theorem parsed_sources_are_sound_nested :
    let fs := Functions.standard .empty
    let src := braced "eq (.a | keys | seq) \"x,y\""
    let inner : Pipeline := [.term (.field ["a"]), .call "keys" [], .call "seq" []]
    let p : Pipeline := [.call "eq" [.sub inner, .literal (.text "x,y")]]
    parse? fs src = .ok ⟨[.action p]⟩ ∧ HandsOn fs inner ∧
      StagesYield fs (.obj [("a", .obj [("x", .null), ("y", .null)])]) none p
        (.ok (.bool true)) ∧
      Breaks fs (.obj [("a", .int 3)]) (Pipeline.flat p)
        (.call "keys" (.notMap "keys" "number")) := by
  intro fs src inner p
  have hkeys : Callable fs "keys" := ⟨by decide +kernel, by decide⟩
  have hseq : Callable fs "seq" := ⟨by decide +kernel, by decide⟩
  have heq : Callable fs "eq" := ⟨by decide +kernel, by decide⟩
  have hinner : Pipeline.WellFormed fs inner := ⟨trivial, hkeys, trivial, hseq, trivial, trivial⟩
  have hwell : Pipeline.WellFormed fs p := ⟨⟨heq, hinner, trivial, trivial⟩, trivial⟩
  have hscan : scan "eq (.a | keys | seq) \"x,y\"".toList = .ok (Pipeline.flat p) := rfl
  have hread : Pipeline.read? fs "eq (.a | keys | seq) \"x,y\"".toList = .ok p := by
    rw [Pipeline.read?, hscan]
    exact Pipeline.parse_flat hwell
  obtain ⟨htemplate, -, -⟩ := parsed_sources_are_sound fs src
  obtain ⟨hsound, -⟩ := htemplate _ (parse?_braced hread)
  have hp := hsound p List.mem_cons_self
  refine ⟨parse?_braced hread, ?_, ?_, ?_⟩
  · exact hp.handsOn _ (.arg List.mem_cons_self List.mem_cons_self (.self _))
  · exact (hp.yields _ _).mp rfl
  · exact hp.breaks _ _ rfl

/-! ### Piping and nesting -/

theorem toOption_bind {ε α β : Type} (x : Except ε α) (k : α → Except ε β) :
    (x >>= k).toOption = x.toOption.bind fun a => (k a).toOption := by
  cases x <;> rfl

/-- The values come about in another order, so when both an argument and the piped pipeline fail the
faults may differ. -/
theorem toOption_evalStages_pipe (fs : Functions) (ctx : Json) (hp : p ≠ []) (f : String)
    (xs : List Term) :
    (evalStages fs ctx (p ++ [.call f xs])).toOption =
      (evalStages fs ctx [.call f (xs ++ [.sub p])]).toOption := by
  cases hf : fs.get? f with
  | none =>
    rw [evalStages_append fs ctx hp, evalStages_single, toOption_bind]
    simp only [evalPiped_single, evalCommand, hf]
    cases evalStages fs ctx p <;> rfl
  | some g =>
    have hlast : evalTerms fs ctx [.sub p] = evalStages fs ctx p >>= fun v => .ok [v] := rfl
    rw [evalStages_append_call fs ctx hp hf, evalStages_single, evalCommand_call hf,
      evalTerms_append, hlast]
    simp only [List.append_nil]
    cases evalStages fs ctx p with
    | error fault => cases evalTerms fs ctx xs <;> rfl
    | ok v =>
      cases evalTerms fs ctx xs with
      | error fault => rfl
      | ok vs => rfl

/-- A stage with the function and its arguments. -/
def stage (s : String × List Term) : Command := .call s.1 s.2

/-- A command with calls behind it as one command, with everything before a call in parentheses. -/
def nest (c : Command) (stages : List (String × List Term)) : Command :=
  stages.foldl (fun c s => .call s.1 (s.2 ++ [.sub [c]])) c

theorem toOption_evalStages_nest (fs : Functions) (ctx : Json) (c : Command)
    (stages : List (String × List Term)) :
    (evalStages fs ctx (c :: stages.map stage)).toOption =
      (evalStages fs ctx [nest c stages]).toOption := by
  -- the first call takes up the command before it; the stages behind both see their value only
  induction stages generalizing c with
  | nil => rfl
  | cons s stages ih =>
    have hfirst : (evalStages fs ctx [c, stage s]).toOption =
        (evalStages fs ctx [.call s.1 (s.2 ++ [.sub [c]])]).toOption :=
      toOption_evalStages_pipe fs ctx (List.cons_ne_nil c []) s.1 s.2
    have hpiped : c :: (s :: stages).map stage = [c, stage s] ++ stages.map stage := rfl
    have hnest : nest c (s :: stages) = nest (.call s.1 (s.2 ++ [.sub [c]])) stages := rfl
    rw [hpiped, evalStages_append fs ctx (List.cons_ne_nil _ _), toOption_bind, hfirst,
      ← toOption_bind, ← evalStages_append fs ctx (List.cons_ne_nil _ _), hnest]
    exact ih _

/-! ### The spelling of both forms -/

theorem Term.flatAll_append (xs ys : List Term) :
    Term.flatAll (xs ++ ys) = Term.flatAll xs ++ Term.flatAll ys := by
  induction xs with
  | nil => rfl
  | cons x xs ih => rw [List.cons_append, Term.flatAll, Term.flatAll, ih, List.append_assoc]

theorem Pipeline.flatStages_append (cs ds : List Command) :
    Pipeline.flatStages (cs ++ ds) = Pipeline.flatStages cs ++ Pipeline.flatStages ds := by
  induction cs with
  | nil => rfl
  | cons c cs ih =>
    rw [List.cons_append, Pipeline.flatStages, Pipeline.flatStages, ih, List.append_assoc]

theorem Pipeline.flat_append (hp : p ≠ []) (cs : List Command) :
    Pipeline.flat (p ++ cs) = Pipeline.flat p ++ Pipeline.flatStages cs := by
  cases p with
  | nil => exact (hp rfl).elim
  | cons c p =>
    rw [List.cons_append, Pipeline.flat, Pipeline.flat, Pipeline.flatStages_append,
      List.append_assoc]

theorem Term.AllWellFormed.append {xs ys : List Term} (hxs : Term.AllWellFormed fs xs)
    (hys : Term.AllWellFormed fs ys) : Term.AllWellFormed fs (xs ++ ys) := by
  induction xs with
  | nil => exact hys
  | cons x xs ih => exact ⟨hxs.1, ih hxs.2⟩

theorem Pipeline.StagesWellFormed.append {cs ds : List Command}
    (hcs : Pipeline.StagesWellFormed fs cs) (hds : Pipeline.StagesWellFormed fs ds) :
    Pipeline.StagesWellFormed fs (cs ++ ds) := by
  induction cs with
  | nil => exact hds
  | cons c cs ih =>
    cases c with
    | term t => exact hcs.elim
    | call f args => exact ⟨hcs.1, hcs.2.1, ih hcs.2.2⟩

theorem Pipeline.WellFormed.append {cs : List Command} (hp : Pipeline.WellFormed fs p)
    (hcs : Pipeline.StagesWellFormed fs cs) : Pipeline.WellFormed fs (p ++ cs) := by
  cases p with
  | nil => exact hp.elim
  | cons c p => exact ⟨hp.1, hp.2.append hcs⟩

/-- The tokens with a bar are those of the pipeline with a stage more, and the tokens with
parentheses are those of the one call. -/
theorem Pipeline.parse?_piped_nested {xs : List Term} (hp : Pipeline.WellFormed fs p)
    (hf : Callable fs f) (hxs : Term.AllWellFormed fs xs) :
    Pipeline.parse? fs (Pipeline.flat p ++ .pipe :: .name f :: Term.flatAll xs) =
      .ok (p ++ [.call f xs]) ∧
    Pipeline.parse? fs
        (.name f :: Term.flatAll xs ++ .openParen :: Pipeline.flat p ++ [.closeParen]) =
      .ok [.call f (xs ++ [.sub p])] := by
  have hne : p ≠ [] := by
    rintro rfl
    exact hp
  constructor
  · rw [Pipeline.parse_eq_ok_iff]
    refine ⟨?_, hp.append ⟨hf, hxs, trivial⟩⟩
    rw [Pipeline.flat_append hne]
    simp [Pipeline.flatStages, Command.flat]
  · rw [Pipeline.parse_eq_ok_iff]
    refine ⟨?_, ⟨hf, hxs.append ⟨hp, trivial⟩⟩, trivial⟩
    simp [Pipeline.flat, Pipeline.flatStages, Command.flat, Term.flatAll_append, Term.flatAll,
      Term.flat]

/-- A well-formed pipeline is a command with calls behind it. -/
theorem Pipeline.StagesWellFormed.exists_stages {cs : List Command}
    (h : Pipeline.StagesWellFormed fs cs) : ∃ stages : List (String × List Term),
      cs = stages.map stage ∧ ∀ s ∈ stages, (stage s).WellFormed fs := by
  induction cs with
  | nil => exact ⟨[], rfl, by simp⟩
  | cons c cs ih =>
    cases c with
    | term t => exact h.elim
    | call f args =>
      obtain ⟨stages, rfl, hstages⟩ := ih h.2.2
      exact ⟨(f, args) :: stages, rfl, List.forall_mem_cons.mpr ⟨⟨h.1, h.2.1⟩, hstages⟩⟩

theorem wellFormed_nest {c : Command} {stages : List (String × List Term)} (hc : c.WellFormed fs)
    (hstages : ∀ s ∈ stages, (stage s).WellFormed fs) : (nest c stages).WellFormed fs := by
  induction stages generalizing c with
  | nil => exact hc
  | cons s stages ih =>
    obtain ⟨hs, hothers⟩ := List.forall_mem_cons.mp hstages
    exact ih ⟨hs.1, hs.2.append ⟨⟨hc, trivial⟩, trivial⟩⟩ hothers

/-- Handing the value of a pipeline on to a call and giving it to that call in parentheses as the
last argument come to the same value, or both to none. What is written either way is read as such.
So a command with calls behind it comes to what one nested call comes to, and every pipeline with a
source is of that form. -/
theorem piping_is_nesting (fs : Functions) :
    (∀ (p : Pipeline) (f : String) (xs : List Term), p ≠ [] → ∀ ctx,
      (Pipeline.eval fs ctx (p ++ [.call f xs])).toOption =
        (Pipeline.eval fs ctx [.call f (xs ++ [.sub p])]).toOption) ∧
    (∀ (p : Pipeline) (f : String) (xs : List Term), Pipeline.WellFormed fs p → Callable fs f →
      Term.AllWellFormed fs xs →
      Pipeline.parse? fs (Pipeline.flat p ++ .pipe :: .name f :: Term.flatAll xs) =
        .ok (p ++ [.call f xs]) ∧
      Pipeline.parse? fs
          (.name f :: Term.flatAll xs ++ .openParen :: Pipeline.flat p ++ [.closeParen]) =
        .ok [.call f (xs ++ [.sub p])]) ∧
    (∀ (c : Command) (stages : List (String × List Term)) (ctx : Json),
      (Pipeline.eval fs ctx (c :: stages.map stage)).toOption =
        (Pipeline.eval fs ctx [nest c stages]).toOption) ∧
    ∀ p : Pipeline, Pipeline.WellFormed fs p →
      ∃ c stages, p = c :: stages.map stage ∧ (nest c stages).WellFormed fs := by
  refine ⟨fun p f xs hp ctx => toOption_evalStages_pipe fs ctx hp f xs,
    fun p f xs => Pipeline.parse?_piped_nested, fun c stages ctx =>
    toOption_evalStages_nest fs ctx c stages, ?_⟩
  intro p hp
  cases p with
  | nil => exact hp.elim
  | cons c cs =>
    obtain ⟨stages, rfl, hstages⟩ := hp.2.exists_stages
    exact ⟨c, stages, rfl, wellFormed_nest hp.1 hstages⟩

/-- Three stages as nested calls, and a stage with a failing argument behind a failing pipeline,
where the forms have no value for different faults. -/
theorem piping_is_nesting_faults :
    let fs := Functions.standard .empty
    let ctx : Json := .obj [("m", .obj [("x", .null), ("y", .null)]), ("n", .int 3)]
    let first : Command := .term (.field ["m"])
    let xs : List Term := [.field ["m", "x"], .field ["n", "d"]]
    let p : Pipeline := [.term (.field ["n", "b"])]
    (Pipeline.eval fs ctx [.call "seq" [.sub [.call "keys" [.sub [first]]]]]).toOption =
        some (.str "x,y") ∧
      (Pipeline.eval fs ctx [.call "eq" (xs ++ [.sub p])]).toOption = none ∧
      Pipeline.eval fs ctx (p ++ [.call "eq" xs]) = .error (.fieldOf "b" "number") ∧
      Pipeline.eval fs ctx [.call "eq" (xs ++ [.sub p])] = .error (.fieldOf "d" "number") := by
  intro fs ctx first xs p
  obtain ⟨hpipe, -, hstages, -⟩ := piping_is_nesting fs
  have hvalue : Pipeline.eval fs ctx [first, .call "keys" [], .call "seq" []] =
      .ok (.str "x,y") := rfl
  have hfault : Pipeline.eval fs ctx (p ++ [.call "eq" xs]) = .error (.fieldOf "b" "number") := rfl
  refine ⟨?_, ?_, hfault, rfl⟩
  · exact (hstages first [("keys", []), ("seq", [])] ctx).symm.trans (congrArg _ hvalue)
  · exact (hpipe p "eq" xs (List.cons_ne_nil _ _) ctx).symm.trans (congrArg _ hfault)

end TicketSync.Template
