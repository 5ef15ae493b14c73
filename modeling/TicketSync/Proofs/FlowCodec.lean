import TicketSync.Flow.Job
import TicketSync.Proofs.DocumentCodec

/-! # Steps read back from JSON

A step is told by its form: an object with a field `if` is a branch, anything else has to name a
method. Steps are read from values in normal form, with the last field of each key and the keys
sorted. Rendered variables read back as templates, since JSON has no place for the mark. -/
namespace TicketSync

/-! ### Names of actions -/

namespace ActionName

theorem toList_display (n : ActionName) :
    n.display.toList = n.tracker.toList ++ '/' :: n.method.toList := by
  simp [display]

theorem parse?_display {n : ActionName} (h : n.WellFormed) : parse? n.display = some n := by
  obtain ⟨htracker, hmethod, hvisible, hshown⟩ := h
  have hall : ∀ c ∈ n.tracker.toList, decide (c ≠ '/') = true := by
    intro c hc
    exact decide_eq_true fun he => htracker (he ▸ hc)
  have htake : n.display.toList.takeWhile (· ≠ '/') = n.tracker.toList := by
    rw [toList_display, List.takeWhile_append_of_pos hall]
    simp
  have hdrop : n.display.toList.dropWhile (· ≠ '/') = '/' :: n.method.toList := by
    rw [toList_display, List.dropWhile_append_of_pos hall]
    simp
  have hslash : n.method.toList.contains '/' = false := by simpa using hmethod
  simp only [Text.isAllBlank] at hvisible hshown
  simp only [parse?, htake, hdrop, hslash, hvisible, hshown, Bool.or_self, Bool.false_eq_true,
    if_false, String.ofList_toList]

theorem of_parse? {s : String} {n : ActionName} (h : parse? s = some n) :
    n.WellFormed ∧ s = n.display := by
  have hspan := List.takeWhile_append_dropWhile (p := fun c => decide (c ≠ '/')) (l := s.toList)
  have hplain := List.all_takeWhile (p := fun c => decide (c ≠ '/')) (l := s.toList)
  have hhead := List.head?_dropWhile_not (fun c => decide (c ≠ '/')) s.toList
  simp only [parse?] at h
  split at h
  · cases h
  next c method hdrop =>
    split at h
    · cases h
    next hgood =>
      obtain rfl := Option.some.inj h
      simp only [Bool.or_eq_true, not_or, Bool.not_eq_true] at hgood
      rw [hdrop] at hhead hspan
      obtain rfl : c = '/' := by simpa using hhead
      refine ⟨⟨?_, ?_, ?_, ?_⟩, ?_⟩
      · rw [String.toList_ofList]
        intro hmem
        have hne := List.all_eq_true.mp hplain _ hmem
        simp at hne
      · simpa using hgood.1.1
      · simpa [Text.isAllBlank] using hgood.1.2
      · simpa [Text.isAllBlank] using hgood.2
      · rw [← String.toList_inj, toList_display, String.toList_ofList, String.toList_ofList, hspan]

/-- The texts that are read are those of well-formed names. -/
theorem parse?_eq_some_iff {s : String} {n : ActionName} :
    parse? s = some n ↔ n.WellFormed ∧ s = n.display := by
  constructor
  · exact of_parse?
  · rintro ⟨hn, rfl⟩
    exact parse?_display hn

end ActionName

/-! ### Variables and triggers -/

/-- The same variables as templates. -/
def Vars.unrendered (v : Vars) : Vars := { v with evaluated := false }

/-- The same trigger with its variables as templates. -/
def Trigger.unrendered (t : Trigger) : Trigger := { t with vars := t.vars.unrendered }

theorem Vars.readsBack (v : Vars) : ReadsBack Vars.ofSource? v.toJson v.unrendered := by
  have hwritten : Vars.ofSource? v.toJson = .ok v.unrendered := by
    rw [ofSource?, toJson, Source.asTexts_ofTexts]
    rfl
  constructor
  · exact hwritten
  · rw [toJson, Json.normal_ofTexts]
    exact hwritten

theorem Vars.ofJson?_toJson (v : Vars) : Vars.ofJson? v.toJson = .ok v.unrendered := by
  rw [ofJson?, toJson, Json.asDict_ofTexts]
  rfl

@[simp] theorem Vars.normal_toJson (v : Vars) : v.toJson.normal = v.toJson :=
  Json.normal_ofTexts v.values

theorem Trigger.readsBack (t : Trigger) : ReadsBack Trigger.ofSource? t.toJson t.unrendered := by
  apply ReadsBack.record (fun _ => rfl)
  · simp
  · intro form r hform hfind
    simp [Source.required, Source.optional, hfind, Dict.find, hform (Source.asText_readsBack _),
      hform t.vars.readsBack, unrendered, bind, Except.bind, pure, Except.pure]

/-! ### Steps as they were written -/

/-- The same action with its variables as templates. -/
def Action.unrendered (a : Action) : Action := { a with vars := a.vars.unrendered }

mutual
/-- The same step with the variables of its actions as templates. -/
def Step.unrendered : Step → Step
  | .action a => .action a.unrendered
  | .branch condition steps => .branch condition (Step.allUnrendered steps)

/-- The same steps with the variables of their actions as templates. -/
def Step.allUnrendered : List Step → List Step
  | [] => []
  | s :: steps => s.unrendered :: Step.allUnrendered steps
end

theorem Action.normal_toJson (a : Action) :
    a.toJson.normal = .obj ((if a.detached then [("detached", .bool true)] else []) ++
      [("name", .str a.name.display), ("vars", a.vars.toJson)]) := by
  cases hdetached : a.detached with
  | false =>
    simp only [toJson, hdetached, Bool.false_eq_true, if_false, List.append_nil, List.nil_append,
      Json.normal_obj, Json.normalFields, Json.normal_str, Vars.normal_toJson, List.foldl_cons,
      List.foldl_nil, Dict.put, String.reduceLT, String.reduceEq]
  | true =>
    simp only [toJson, hdetached, if_true, List.cons_append, List.nil_append, Json.normal_obj,
      Json.normalFields, Json.normal, Vars.normal_toJson, List.foldl_cons, List.foldl_nil, Dict.put,
      String.reduceLT, String.reduceEq, if_false]

theorem Step.normal_toJson_branch (condition : String) (steps : List Step) :
    (Step.branch condition steps).toJson.normal =
      .obj [("actions", .arr (Json.normalItems (Step.listToJson steps))),
        ("if", .str condition)] := by
  simp only [toJson, Json.normal_obj, Json.normalFields, Json.normal, List.foldl_cons,
    List.foldl_nil, Dict.put, String.reduceLT, if_true]

theorem Step.ofJson?_action {a : Action} (h : a.name.WellFormed) :
    Step.ofJson? a.toJson.normal = .ok (.action a.unrendered) := by
  have hname := ActionName.parse?_display h
  rw [Action.normal_toJson]
  cases hdetached : a.detached <;>
    simp [hdetached, Step.ofJson?, isBranch, Action.ofJson?, Action.readFields, Action.readField,
      ActionName.ofJson?, hname, Vars.ofJson?_toJson, Json.repeats, Action.fieldNames,
      Action.ofFields, Action.unrendered, Json.asFlag, bind, Except.bind, pure, Except.pure,
      Except.map]

mutual
theorem Step.ofJson?_written : (s : Step) → s.WellFormed →
    Step.ofJson? s.toJson.normal = .ok s.unrendered
  | .action a, h => Step.ofJson?_action h
  | .branch condition steps, h => by
    have hsteps := Step.ofItems?_written steps h
    rw [Step.normal_toJson_branch]
    simp [Step.ofJson?, isBranch, Step.readBranchFields, Step.ofList?, hsteps, Json.asText,
      Json.repeats, Step.ofBranchFields, Step.unrendered, bind, Except.bind, pure, Except.pure]

theorem Step.ofItems?_written : (steps : List Step) → Step.AllWellFormed steps →
    Step.ofItems? (Json.normalItems (Step.listToJson steps)) = .ok (Step.allUnrendered steps)
  | [], _ => rfl
  | s :: steps, h => by
    simp [Step.listToJson, Json.normalItems, Step.ofItems?, Step.ofJson?_written s h.1,
      Step.ofItems?_written steps h.2, Step.allUnrendered, bind, Except.bind, pure, Except.pure]
end

/-- A sequence is read from the normal form of its value, whatever the document. -/
theorem Step.sequenceOfSource?_eq (v : Json) :
    Step.sequenceOfSource? v = Step.ofList? v.normal := by
  have hitems : ∀ items : List Json,
      items.mapM Step.ofSource? = Step.ofItems? (Json.normalItems items) := by
    intro items
    induction items with
    | nil => rfl
    | cons w items ih =>
      rw [List.mapM_cons, ih]
      rfl
  cases v with
  | arr items => exact hitems items
  | obj fields => rw [Json.normal_obj]; rfl
  | _ => rfl

theorem Step.sequence_readsBack {steps : List Step} (h : Step.AllWellFormed steps) :
    ReadsBack Step.sequenceOfSource? (Step.sequenceToJson steps) (Step.allUnrendered steps) := by
  have hread :
      Step.ofList? (Step.sequenceToJson steps).normal = .ok (Step.allUnrendered steps) := by
    rw [Step.sequenceToJson, Json.normal_arr, Step.ofList?]
    exact Step.ofItems?_written steps h
  constructor
  · rw [Step.sequenceOfSource?_eq, hread]
  · rw [Step.sequenceOfSource?_eq, Json.normal_normal, hread]

/-- The same job with the variables of its actions as templates. -/
def Job.unrendered (j : Job) : Job := { j with steps := Step.allUnrendered j.steps }

theorem Job.normal_toJson (j : Job) :
    j.toJson.normal = .obj [("actions", (Step.sequenceToJson j.steps).normal),
      ("name", .str j.name), ("trigger", .str j.triggerName)] := by
  simp only [toJson, Json.normal_obj, Json.normalFields, Json.normal_str, List.foldl_cons,
    List.foldl_nil, Dict.put, String.reduceLT, String.reduceEq, if_true, if_false]

theorem Job.readsBack {j : Job} (h : Step.AllWellFormed j.steps) :
    ReadsBack Job.ofSource? j.toJson j.unrendered := by
  obtain ⟨hwritten, hnormal⟩ := Step.sequence_readsBack h
  constructor
  · simp [ofSource?, toJson, reader, Source.readRecord, Source.byPosition?, Source.asEntries,
      Source.readEntries, Source.asText, Json.asText, hwritten, unrendered, bind, Except.bind,
      pure, Except.pure, Except.map]
  · rw [normal_toJson]
    simp [ofSource?, reader, Source.readRecord, Source.byPosition?, Source.asEntries,
      Source.readEntries, Source.asText, Json.asText, hnormal, unrendered, bind, Except.bind, pure,
      Except.pure, Except.map]

/-! ### What was read -/

/-- What an element that is not a branch has in the place of a name. -/
def Json.actionName? : Json → Option Json
  | .obj fields => Dict.find "name" fields
  | .arr items => items.head?
  | _ => none

mutual
/-- An element of the form of a step: a branch where it has a field `if`, and an action of the name
that it gives where it has none. -/
def Step.Mirrors : Step → Json → Prop
  | .action a, v => v.field? "if" = none ∧ v.actionName? = some (.str a.name.display)
  | .branch condition steps, v => v.field? "if" = some (.str condition) ∧
      (v.field? "actions" = none ∧ steps = [] ∨
        ∃ items, v.field? "actions" = some (.arr items) ∧ Step.AllMirror steps items)

/-- Elements of the forms of these steps, one by one. -/
def Step.AllMirror : List Step → List Json → Prop
  | [], items => items = []
  | s :: steps, items => ∃ v rest, items = v :: rest ∧ s.Mirrors v ∧ Step.AllMirror steps rest
end

theorem ActionName.of_ofJson? {v : Json} {n : ActionName} (h : ActionName.ofJson? v = .ok n) :
    n.WellFormed ∧ v = .str n.display := by
  cases v with
  | str s =>
    simp only [ofJson?] at h
    split at h
    next m hparse =>
      obtain rfl := Except.ok.inj h
      obtain ⟨hm, rfl⟩ := parse?_eq_some_iff.mp hparse
      exact ⟨hm, rfl⟩
    next => cases h
  | _ => cases h

theorem Vars.unrendered_of_ofJson? {v : Json} {vars : Vars} (h : Vars.ofJson? v = .ok vars) :
    vars.unrendered = vars := by
  obtain ⟨values, -, hvars⟩ := ok_of_bind h
  obtain rfl := Except.ok.inj hvars
  rfl

theorem Vars.unrendered_getD {o : Option Vars}
    (h : ∀ vars, o = some vars → vars.unrendered = vars) :
    (o.getD {}).unrendered = o.getD {} := by
  cases o with
  | none => rfl
  | some vars => exact h vars rfl

namespace Action

theorem of_readField {k : String} {v : Json} {field : Option Field}
    (h : readField k v = .ok field) :
    (k = "name" ∧ ∃ n, ActionName.ofJson? v = .ok n ∧ field = some (.name n)) ∨
      (k = "vars" ∧ ∃ vars, Vars.ofJson? v = .ok vars ∧ field = some (.vars vars)) ∨
      (k ≠ "name" ∧ ∀ f ∈ field, ∃ b, f = .detached b) := by
  unfold readField at h
  split at h
  next hk =>
    obtain ⟨n, hn, rfl⟩ := ok_of_map h
    exact .inl ⟨hk, n, hn, rfl⟩
  next hname =>
    split at h
    next hk =>
      obtain ⟨vars, hvars, rfl⟩ := ok_of_map h
      exact .inr (.inl ⟨hk, vars, hvars, rfl⟩)
    next =>
      refine .inr (.inr ⟨hname, ?_⟩)
      intro f hf
      split at h
      · obtain ⟨b, -, rfl⟩ := ok_of_map h
        exact ⟨b, (Option.some.inj hf).symm⟩
      · obtain rfl := Except.ok.inj h
        cases hf

/-- The name that is read stands in the first field `name`, and the variables are templates. -/
theorem of_readFields {fields : List (String × Json)} {read : List Field}
    (h : readFields fields = .ok read) :
    (∀ n, read.findSome? (fun | .name n => some n | _ => none) = some n →
        n.WellFormed ∧ Dict.find "name" fields = some (.str n.display)) ∧
      ∀ vars, read.findSome? (fun | .vars v => some v | _ => none) = some vars →
        vars.unrendered = vars := by
  induction fields generalizing read with
  | nil =>
    obtain rfl := Except.ok.inj h
    simp
  | cons e fields ih =>
    obtain ⟨k, v⟩ := e
    obtain ⟨field, hfield, h⟩ := ok_of_bind h
    obtain ⟨rest, hrest, h⟩ := ok_of_bind h
    obtain rfl := Except.ok.inj h
    obtain ⟨ihname, ihvars⟩ := ih hrest
    rcases of_readField hfield with ⟨rfl, n, hn, rfl⟩ | ⟨rfl, vars, hvars, rfl⟩ | ⟨hname, hother⟩
    · obtain ⟨hwell, rfl⟩ := ActionName.of_ofJson? hn
      exact ⟨by simpa [Dict.find] using hwell, by simpa using ihvars⟩
    · exact ⟨by simpa [Dict.find] using ihname,
        by simpa using Vars.unrendered_of_ofJson? hvars⟩
    · cases field with
      | none => exact ⟨by simpa [Dict.find, hname] using ihname, by simpa using ihvars⟩
      | some f =>
        obtain ⟨b, rfl⟩ := hother f rfl
        exact ⟨by simpa [Dict.find, hname] using ihname, by simpa using ihvars⟩

theorem of_ofFields {fields : List (String × Json)} {read : List Field} {a : Action}
    (hread : readFields fields = .ok read) (h : ofFields read = .ok a) :
    a.name.WellFormed ∧ Dict.find "name" fields = some (.str a.name.display) ∧
      a.unrendered = a := by
  obtain ⟨hname, hvars⟩ := of_readFields hread
  simp only [ofFields] at h
  split at h
  · cases h
  next n hn =>
    obtain rfl := Except.ok.inj h
    obtain ⟨hwell, hfind⟩ := hname n hn
    refine ⟨hwell, hfind, ?_⟩
    simp only [unrendered, mk.injEq, true_and, and_true]
    exact Vars.unrendered_getD hvars

theorem of_ofJson? {v : Json} {a : Action} (h : ofJson? v = .ok a) :
    a.name.WellFormed ∧ v.actionName? = some (.str a.name.display) ∧ a.unrendered = a := by
  cases v with
  | obj fields =>
    obtain ⟨read, hread, h⟩ := ok_of_bind h
    split at h
    · cases h
    · exact of_ofFields hread h
  | arr items =>
    obtain ⟨read, hread, h⟩ := ok_of_bind h
    split at h
    · cases h
    · obtain ⟨hwell, hfind, hvars⟩ := of_ofFields hread h
      cases items with
      | nil => cases hfind
      | cons w items => exact ⟨hwell, hfind, hvars⟩
  | _ => cases h

end Action

namespace Step

theorem find_if_of_isBranch {fields : List (String × Json)} (h : isBranch fields = false) :
    Dict.find "if" fields = none := by
  cases hfind : Dict.find "if" fields with
  | none => rfl
  | some v =>
    have hmem := Dict.mem_of_find_eq_some hfind
    simp only [isBranch, List.any_eq_false, decide_eq_true_eq] at h
    exact absurd rfl (h _ hmem)

theorem of_readBranchFields {fields : List (String × Json)} {read : List BranchField}
    (h : readBranchFields fields = .ok read) :
    read.findSome? (fun | .condition s => some s | _ => none) =
        (Dict.find "if" fields).bind Json.str? ∧
      match Dict.find "actions" fields with
      | none => read.findSome? (fun | .steps l => some l | _ => none) = none
      | some v => ∃ l, Step.ofList? v = .ok l ∧
          read.findSome? (fun | .steps l => some l | _ => none) = some l := by
  induction fields generalizing read with
  | nil =>
    obtain rfl := Except.ok.inj h
    simp [Dict.find]
  | cons e fields ih =>
    obtain ⟨k, v⟩ := e
    rw [readBranchFields] at h
    split at h
    next hk =>
      obtain ⟨s, hs, h⟩ := ok_of_bind h
      obtain ⟨rest, hrest, h⟩ := ok_of_bind h
      obtain rfl := Except.ok.inj h
      cases v <;> cases hs
      simpa [Dict.find, hk, Json.str?] using (ih hrest).2
    next hif =>
      split at h
      next hk =>
        obtain ⟨l, hl, h⟩ := ok_of_bind h
        obtain ⟨rest, hrest, h⟩ := ok_of_bind h
        obtain rfl := Except.ok.inj h
        simpa [Dict.find, hk, hl] using (ih hrest).1
      next hactions => simpa [Dict.find, hif, hactions] using ih h

theorem of_ofBranchFields {fields : List (String × Json)} {read : List BranchField} {s : Step}
    (hread : readBranchFields fields = .ok read) (h : ofBranchFields read = .ok s) :
    ∃ condition steps, s = .branch condition steps ∧
      Dict.find "if" fields = some (.str condition) ∧
      (Dict.find "actions" fields = none ∧ steps = [] ∨
        ∃ items, Dict.find "actions" fields = some (.arr items) ∧ ofItems? items = .ok steps) := by
  obtain ⟨hcondition, hsteps⟩ := of_readBranchFields hread
  simp only [ofBranchFields] at h
  split at h
  · cases h
  next condition hc =>
    obtain rfl := Except.ok.inj h
    obtain ⟨v, hif, hv⟩ := Option.bind_eq_some_iff.mp (hcondition.symm.trans hc)
    cases v <;> cases hv
    refine ⟨condition, _, rfl, hif, ?_⟩
    cases hactions : Dict.find "actions" fields with
    | none =>
      rw [hactions] at hsteps
      exact .inl ⟨rfl, congrArg (·.getD []) hsteps⟩
    | some w =>
      rw [hactions] at hsteps
      obtain ⟨steps, hw, hfound⟩ := hsteps
      cases w with
      | arr items =>
        exact .inr ⟨items, rfl, hw.trans (congrArg (Except.ok <| ·.getD []) hfound.symm)⟩
      | _ => cases hw

/-- A value is read as a branch if it has a field `if`, and else as an action. -/
theorem ofJson?_cases {v : Json} {s : Step} (h : Step.ofJson? v = .ok s) :
    (∃ a, s = .action a ∧ v.field? "if" = none ∧ Action.ofJson? v = .ok a) ∨
      ∃ condition steps, s = .branch condition steps ∧ v.field? "if" = some (.str condition) ∧
        (v.field? "actions" = none ∧ steps = [] ∨
          ∃ items, v.field? "actions" = some (.arr items) ∧ ofItems? items = .ok steps) := by
  have hother : v.field? "if" = none → (Action.ofJson? v).map Step.action = .ok s →
      ∃ a, s = .action a ∧ v.field? "if" = none ∧ Action.ofJson? v = .ok a := by
    intro hif hmap
    obtain ⟨a, ha, rfl⟩ := ok_of_map hmap
    exact ⟨a, rfl, hif, ha⟩
  cases v with
  | obj fields =>
    rw [Step.ofJson?] at h
    split at h
    · obtain ⟨read, hread, h⟩ := ok_of_bind h
      split at h
      · cases h
      · exact .inr (of_ofBranchFields hread h)
    next hplain => exact .inl (hother (find_if_of_isBranch (by simpa using hplain)) h)
  | _ =>
    simp only [Step.ofJson?] at h
    exact .inl (hother rfl h)

mutual
/-- Whatever is read is a well-formed step of the form of its value, without rendered variables. -/
theorem of_ofJson? : (s : Step) → (v : Json) → Step.ofJson? v = .ok s →
    s.WellFormed ∧ s.Mirrors v ∧ s.unrendered = s
  | .action a, v, h => by
    rcases ofJson?_cases h with ⟨_, ⟨⟩, hif, ha⟩ | ⟨_, _, ⟨⟩, _⟩
    obtain ⟨hwell, hname, hvars⟩ := Action.of_ofJson? ha
    exact ⟨hwell, ⟨hif, hname⟩, congrArg Step.action hvars⟩
  | .branch condition steps, v, h => by
    rcases ofJson?_cases h with ⟨_, ⟨⟩, _⟩ | ⟨_, _, ⟨⟩, hif, hsteps⟩
    rcases hsteps with ⟨hnone, rfl⟩ | ⟨items, hactions, hitems⟩
    · exact ⟨trivial, ⟨hif, .inl ⟨hnone, rfl⟩⟩, rfl⟩
    · obtain ⟨hwell, hmirror, hvars⟩ := of_ofItems? steps items hitems
      exact ⟨hwell, ⟨hif, .inr ⟨items, hactions, hmirror⟩⟩, congrArg (Step.branch condition) hvars⟩

theorem of_ofItems? : (steps : List Step) → (items : List Json) → Step.ofItems? items = .ok steps →
    Step.AllWellFormed steps ∧ Step.AllMirror steps items ∧ Step.allUnrendered steps = steps
  | steps, [], h => by
    obtain rfl := Except.ok.inj h
    exact ⟨trivial, rfl, rfl⟩
  | [], v :: items, h => by
    obtain ⟨s, -, h⟩ := ok_of_bind h
    obtain ⟨rest, -, h⟩ := ok_of_bind h
    cases h
  | s :: steps, v :: items, h => by
    obtain ⟨s', hs, h⟩ := ok_of_bind h
    obtain ⟨rest, hrest, h⟩ := ok_of_bind h
    obtain ⟨rfl, rfl⟩ := List.cons.inj (Except.ok.inj h)
    obtain ⟨hwell, hmirror, hvars⟩ := of_ofJson? s' v hs
    obtain ⟨hwells, hmirrors, hrests⟩ := of_ofItems? rest items hrest
    exact ⟨⟨hwell, hwells⟩, ⟨v, items, rfl, hmirror, hmirrors⟩, by
      rw [Step.allUnrendered, hvars, hrests]⟩
end

end Step

/-! ### Names that cannot be read -/

/-- An element without a well-formed name where it needs one, in itself or among its steps. -/
inductive Json.Misnamed : Json → Prop
  | action {v : Json} : v.field? "if" = none →
      (∀ n : ActionName, n.WellFormed → v.actionName? ≠ some (.str n.display)) → Misnamed v
  | inside {v w : Json} {items : List Json} : v.field? "if" ≠ none →
      v.field? "actions" = some (.arr items) → w ∈ items → Misnamed w → Misnamed v

theorem Step.AllMirror.exists_of_mem {steps : List Step} {items : List Json} {v : Json}
    (h : Step.AllMirror steps items) (hwell : Step.AllWellFormed steps) (hv : v ∈ items) :
    ∃ s : Step, s.WellFormed ∧ s.Mirrors v := by
  induction steps generalizing items with
  | nil =>
    obtain rfl := h
    cases hv
  | cons s steps ih =>
    obtain ⟨w, rest, rfl, hs, hsteps⟩ := h
    rcases List.mem_cons.mp hv with rfl | hv
    · exact ⟨s, hwell.1, hs⟩
    · exact ih hsteps hwell.2 hv

theorem Json.Misnamed.not_mirrors {v : Json} (h : v.Misnamed) {s : Step} (hwell : s.WellFormed) :
    ¬s.Mirrors v := by
  intro hs
  induction h generalizing s with
  | action hif hname =>
    cases s with
    | action a => exact hname a.name hwell hs.2
    | branch condition steps => exact absurd (hif.symm.trans hs.1) (by simp)
  | inside hif hactions hmem _ ih =>
    cases s with
    | action a => exact hif hs.1
    | branch condition steps =>
      obtain ⟨-, ⟨hnone, -⟩ | ⟨items, hitems, hsteps⟩⟩ := hs
      · exact absurd (hnone.symm.trans hactions) (by simp)
      · obtain rfl := Json.arr.inj (Option.some.inj (hitems.symm.trans hactions))
        obtain ⟨s, hs, hmirror⟩ := hsteps.exists_of_mem hwell hmem
        exact ih hs hmirror

/-! ### Sequences -/

namespace Step

theorem of_sequenceOfSource? {v : Json} {steps : List Step} (h : sequenceOfSource? v = .ok steps) :
    AllWellFormed steps ∧ (∃ items, v.normal = .arr items ∧ AllMirror steps items) ∧
      ReadsBack sequenceOfSource? (sequenceToJson steps) steps := by
  rw [sequenceOfSource?_eq] at h
  cases hv : v.normal with
  | arr items =>
    rw [hv] at h
    obtain ⟨hwell, hmirror, hvars⟩ := of_ofItems? steps items h
    have hback := sequence_readsBack hwell
    rw [hvars] at hback
    exact ⟨hwell, ⟨items, rfl, hmirror⟩, hback⟩
  | _ =>
    rw [hv] at h
    cases h

theorem sequenceOfSource?_misnamed {v w : Json} {items : List Json} (hv : v.normal = .arr items)
    (hw : w ∈ items) (h : w.Misnamed) : ∃ fault, sequenceOfSource? v = .error fault := by
  cases hread : sequenceOfSource? v with
  | error fault => exact ⟨fault, rfl⟩
  | ok steps =>
    obtain ⟨hwell, ⟨items', hitems, hmirror⟩, -⟩ := of_sequenceOfSource? hread
    obtain rfl := Json.arr.inj (hitems.symm.trans hv)
    obtain ⟨s, hs, hmirrors⟩ := hmirror.exists_of_mem hwell hw
    exact absurd hmirrors (h.not_mirrors hs)

end Step
end TicketSync
