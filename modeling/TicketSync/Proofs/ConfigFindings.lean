import TicketSync.Config.Finding

/-! # What is left without a finding

The checks go through a configuration part by part. A list of findings is harmless when none of them
keeps the configuration from being used, and each part is said to have harmless findings exactly when
it is as it should be: names new, references known, templates and conditions parsed at every depth. -/
namespace TicketSync

/-- Variables whose templates are all parsed. -/
def Vars.Parsed (vars : Vars) : Prop :=
  ∀ e ∈ vars.toList, templateFault checkFunctions e.2 = none

mutual
/-- A step whose actions have known trackers and parsed templates and whose conditions are parsed. -/
def Step.Checked (trackers : List String) : Step → Prop
  | .action a => a.name.tracker ∈ trackers ∧ a.vars.Parsed
  | .branch condition steps =>
    conditionFault checkFunctions condition = none ∧ Step.AllChecked trackers steps

/-- Steps that are all checked. -/
def Step.AllChecked (trackers : List String) : List Step → Prop
  | [] => True
  | s :: rest => s.Checked trackers ∧ Step.AllChecked trackers rest
end

mutual
theorem Step.Checked.mono {trackers trackers' : List String}
    (h : ∀ name ∈ trackers, name ∈ trackers') (s : Step) (hs : s.Checked trackers) :
    s.Checked trackers' := by
  cases s with
  | action a => exact ⟨h _ hs.1, hs.2⟩
  | branch condition steps => exact ⟨hs.1, Step.AllChecked.mono h steps hs.2⟩

theorem Step.AllChecked.mono {trackers trackers' : List String}
    (h : ∀ name ∈ trackers, name ∈ trackers') (steps : List Step)
    (hs : Step.AllChecked trackers steps) : Step.AllChecked trackers' steps := by
  cases steps with
  | nil => trivial
  | cons s rest => exact ⟨Step.Checked.mono h s hs.1, Step.AllChecked.mono h rest hs.2⟩
end

/-! ### Harmless findings -/

/-- Findings none of which keeps a configuration from being used. -/
def Harmless (findings : List Finding) : Prop := ∀ f ∈ findings, f.severity ≠ .error

theorem harmless_append (l m : List Finding) : Harmless (l ++ m) ↔ Harmless l ∧ Harmless m := by
  simp only [Harmless, List.mem_append]
  constructor
  · exact fun h => ⟨fun f hf => h f (.inl hf), fun f hf => h f (.inr hf)⟩
  · rintro ⟨hl, hm⟩ f (hf | hf)
    · exact hl f hf
    · exact hm f hf

theorem harmless_findingIf {wrong : Bool} {f : Finding} (hf : f.severity = .error) :
    Harmless (findingIf wrong f) ↔ wrong = false := by
  cases wrong <;> simp [Harmless, findingIf, hf]

theorem harmless_toList {fault : Option String} {finding : String → Finding}
    (hf : ∀ fault, (finding fault).severity = .error) :
    Harmless (fault.map finding).toList ↔ fault = none := by
  cases fault <;> simp [Harmless, hf]

theorem harmless_flatMap {α : Type} (l : List α) (findings : α → List Finding) :
    Harmless (l.flatMap findings) ↔ ∀ a ∈ l, Harmless (findings a) := by
  simp only [Harmless, List.mem_flatMap]
  constructor
  · exact fun h a ha f hf => h f ⟨a, ha, hf⟩
  · rintro h f ⟨a, ha, hf⟩
    exact h a ha f hf

theorem harmless_templateFindings {vars : Vars} {finding : String → String → Finding}
    (hf : ∀ key fault, (finding key fault).severity = .error) :
    Harmless (templateFindings vars finding) ↔ vars.Parsed := by
  rw [templateFindings, harmless_flatMap]
  exact forall₂_congr fun e _ => harmless_toList (hf e.1)

/-! ### The parts of a configuration -/

mutual
theorem harmless_stepFindings (trackers : List String) (job : String) (s : Step) :
    Harmless (stepFindings trackers job s) ↔ s.Checked trackers := by
  cases s with
  | action a =>
    rw [stepFindings, actionFindings, harmless_append, harmless_findingIf rfl,
      harmless_templateFindings fun _ _ => rfl, Step.Checked,
      decide_eq_false_iff_not, Decidable.not_not]
  | branch condition steps =>
    rw [stepFindings, harmless_append, harmless_toList fun _ => rfl,
      harmless_stepsFindings trackers job steps, Step.Checked]

theorem harmless_stepsFindings (trackers : List String) (job : String) (steps : List Step) :
    Harmless (stepsFindings trackers job steps) ↔ Step.AllChecked trackers steps := by
  cases steps with
  | nil => simp [stepsFindings, Harmless, Step.AllChecked]
  | cons s rest =>
    rw [stepsFindings, harmless_append, harmless_stepFindings trackers job s,
      harmless_stepsFindings trackers job rest, Step.AllChecked]
end

/-- Names without repetition, none of which was seen before. -/
def NewNames (seen names : List String) : Prop := names.Nodup ∧ ∀ name ∈ names, name ∉ seen

theorem newNames_cons (seen : List String) (name : String) (names : List String) :
    NewNames seen (name :: names) ↔ name ∉ seen ∧ NewNames (name :: seen) names := by
  rw [NewNames, NewNames, List.nodup_cons, List.forall_mem_cons]
  simp only [List.mem_cons, not_or]
  constructor
  · rintro ⟨⟨hname, hnames⟩, hseen, hrest⟩
    refine ⟨hseen, hnames, fun n hn => ⟨?_, hrest n hn⟩⟩
    rintro rfl
    exact hname hn
  · rintro ⟨hseen, hnames, hrest⟩
    exact ⟨⟨fun hname => (hrest name hname).1 rfl, hnames⟩, hseen, fun n hn => (hrest n hn).2⟩

theorem harmless_trackerFindings (seen : List String) (trackers : List TrackerConfig) :
    Harmless (trackerFindings seen trackers) ↔
      NewNames seen (trackers.map (·.name)) ∧
      ∀ t ∈ trackers, isSlug t.name = true ∧ t.plugin.attempts ≠ 0 := by
  induction trackers generalizing seen with
  | nil => simp [trackerFindings, Harmless, NewNames]
  | cons t rest ih =>
    rw [trackerFindings, harmless_append, harmless_append, harmless_append,
      harmless_findingIf rfl, harmless_findingIf rfl, harmless_findingIf rfl, ih, List.map_cons,
      newNames_cons, List.forall_mem_cons]
    simp only [Bool.not_eq_false', decide_eq_false_iff_not]
    constructor
    · rintro ⟨⟨⟨hslug, hname⟩, hattempts⟩, hnames, hrest⟩
      exact ⟨⟨hname, hnames⟩, ⟨hslug, hattempts⟩, hrest⟩
    · rintro ⟨⟨hname, hnames⟩, ⟨hslug, hattempts⟩, hrest⟩
      exact ⟨⟨⟨hslug, hname⟩, hattempts⟩, hnames, hrest⟩

theorem harmless_triggerFindings (trackers seen : List String) (triggers : List Trigger) :
    Harmless (triggerFindings trackers seen triggers) ↔
      NewNames seen (triggers.map (·.name)) ∧
      ∀ t ∈ triggers, t.tracker ∈ trackers ∧ t.vars.Parsed := by
  induction triggers generalizing seen with
  | nil => simp [triggerFindings, Harmless, NewNames]
  | cons t rest ih =>
    rw [triggerFindings, harmless_append, harmless_append, harmless_append,
      harmless_findingIf rfl, harmless_findingIf rfl, harmless_templateFindings fun _ _ => rfl, ih,
      List.map_cons, newNames_cons, List.forall_mem_cons]
    simp only [decide_eq_false_iff_not, Decidable.not_not]
    constructor
    · rintro ⟨⟨⟨hname, htracker⟩, hvars⟩, hnames, hrest⟩
      exact ⟨⟨hname, hnames⟩, ⟨htracker, hvars⟩, hrest⟩
    · rintro ⟨⟨hname, hnames⟩, ⟨htracker, hvars⟩, hrest⟩
      exact ⟨⟨⟨hname, htracker⟩, hvars⟩, hnames, hrest⟩

theorem harmless_jobFindings (trackers triggers : List String) (j : Job) :
    Harmless (jobFindings trackers triggers j) ↔
      j.triggerName ∈ triggers ∧ Step.AllChecked trackers j.steps := by
  have hwarning : Harmless (findingIf j.steps.isEmpty (.jobWithoutActions j.name)) := by
    cases h : j.steps.isEmpty <;> simp [Harmless, findingIf, Finding.severity]
  simp only [jobFindings, harmless_append, harmless_findingIf (f := .jobTriggerUnknown _ _) rfl,
    hwarning, harmless_stepsFindings, and_true, decide_eq_false_iff_not, Decidable.not_not]

namespace Config

variable {c : Config}

/-- A configuration without faults, part by part. That a trigger is used by no job is no fault. -/
theorem faults_eq_nil : c.faults = [] ↔
    isHttpUrl c.server.baseUrl = true ∧
    (NewNames [] c.trackerNames ∧
      ∀ t ∈ c.trackers, isSlug t.name = true ∧ t.plugin.attempts ≠ 0) ∧
    (NewNames [] (c.triggers.map (·.name)) ∧
      ∀ t ∈ c.triggers, t.tracker ∈ c.trackerNames ∧ t.vars.Parsed) ∧
    ∀ j ∈ c.jobs, j.triggerName ∈ c.triggers.map (·.name) ∧
      Step.AllChecked c.trackerNames j.steps := by
  have hwarnings : Harmless (c.triggers.flatMap fun t =>
      findingIf (c.jobs.all (·.triggerName ≠ t.name)) (.triggerUnused t.name)) := by
    rw [harmless_flatMap]
    intro t ht
    cases c.jobs.all (·.triggerName ≠ t.name) <;> simp [Harmless, findingIf, Finding.severity]
  have hharmless : c.faults = [] ↔ Harmless c.findings := by
    simp [faults, Harmless, List.filter_eq_nil_iff]
  rw [hharmless]
  simp only [findings, harmless_append, baseUrlFindings,
    harmless_findingIf (f := .baseUrlNotHttp _) rfl, harmless_trackerFindings,
    harmless_triggerFindings, harmless_flatMap, harmless_jobFindings, hwarnings, and_true,
    Bool.not_eq_false', and_assoc, trackerNames]

theorem checked_trigger (h : c.faults = []) {t : Trigger} (ht : t ∈ c.triggers) :
    t.tracker ∈ c.trackerNames ∧ t.vars.Parsed :=
  (faults_eq_nil.mp h).2.2.1.2 t ht

theorem checked_job (h : c.faults = []) {j : Job} (hj : j ∈ c.jobs) :
    Step.AllChecked c.trackerNames j.steps :=
  ((faults_eq_nil.mp h).2.2.2 j hj).2

end Config

end TicketSync
