import Mathlib.Computability.RegularExpressions
import TicketSync.Proofs.ConfigFindings
import TicketSync.Proofs.RenderingFaults

/-! # Which configurations are valid

The rules that a configuration has to keep, each said on its own: of names and of the references to
them, and of templates and conditions wherever they stand. A configuration has no faults exactly when
it keeps them all. They do not depend on the order of trackers, triggers and jobs, and of the names of
triggers they ask only that no two of them are the same. -/
namespace TicketSync

open Template

/-! ### Slugs -/

/-- The pattern of one of these characters. -/
def oneOf (cs : List Char) : RegularExpression Char := cs.foldr (fun c r => .char c + r) 0

/-- The small letters and the digits. -/
def slugStarts : List Char := "abcdefghijklmnopqrstuvwxyz0123456789".toList

/-- The pattern `[a-z0-9][a-z0-9_-]*`. -/
def slugPattern : RegularExpression Char :=
  oneOf slugStarts * (oneOf (slugStarts ++ ['_', '-'])).star

theorem mem_matches'_oneOf (cs xs : List Char) :
    xs ∈ (oneOf cs).matches' ↔ ∃ c ∈ cs, xs = [c] := by
  induction cs with
  | nil => simp [oneOf]
  | cons c cs ih =>
    have hcons : oneOf (c :: cs) = .char c + oneOf cs := rfl
    rw [hcons, RegularExpression.matches'_add, Language.mem_add, ih]
    simp only [List.mem_cons, exists_eq_or_imp]
    rfl

/-- Characters, each of them one of these. -/
theorem mem_matches'_star_oneOf (cs xs : List Char) :
    xs ∈ (oneOf cs).star.matches' ↔ ∀ x ∈ xs, x ∈ cs := by
  rw [RegularExpression.matches'_star, Language.mem_kstar]
  constructor
  · rintro ⟨parts, rfl, hparts⟩ x hx
    obtain ⟨part, hpart, hmem⟩ := List.mem_flatten.mp hx
    obtain ⟨c, hc, rfl⟩ := (mem_matches'_oneOf cs part).mp (hparts part hpart)
    rwa [List.mem_singleton.mp hmem]
  · intro hxs
    refine ⟨xs.map fun x => [x], by rw [← List.flatMap_def, List.flatMap_singleton'], ?_⟩
    intro part hpart
    obtain ⟨x, hx, rfl⟩ := List.mem_map.mp hpart
    exact (mem_matches'_oneOf cs [x]).mpr ⟨x, hxs x hx, rfl⟩

theorem mem_slugStarts (c : Char) : c ∈ slugStarts ↔ isSlugStart c = true := by
  have hstarts : slugStarts.all isSlugStart = true := by decide
  have hletters : ∀ n < 26, Char.ofNat (97 + n) ∈ slugStarts := by decide
  have hdigits : ∀ n < 10, Char.ofNat (48 + n) ∈ slugStarts := by decide
  refine ⟨List.all_eq_true.mp hstarts c, fun h => ?_⟩
  simp only [isSlugStart, Bool.or_eq_true, Bool.and_eq_true, decide_eq_true_eq] at h
  rcases h with ⟨hlo, hhi⟩ | h
  · have hlo' : 97 ≤ c.toNat := hlo
    have hhi' : c.toNat ≤ 122 := hhi
    have hc := hletters (c.toNat - 97) (by omega)
    rwa [Nat.add_sub_cancel' hlo', Char.ofNat_toNat] at hc
  · obtain ⟨hlo, hhi⟩ := Char.isDigit_iff_toNat.mp h
    have hlo' : 48 ≤ c.toNat := hlo
    have hhi' : c.toNat ≤ 57 := hhi
    have hc := hdigits (c.toNat - 48) (by omega)
    rwa [Nat.add_sub_cancel' hlo', Char.ofNat_toNat] at hc

/-- The slugs are the texts that match the pattern as a whole. -/
theorem isSlug_iff_matches (s : String) : isSlug s = true ↔ s.toList ∈ slugPattern.matches' := by
  rw [slugPattern, RegularExpression.matches'_mul, Language.mem_mul, isSlug]
  simp only [mem_matches'_star_oneOf, mem_matches'_oneOf, List.mem_append, mem_slugStarts,
    List.mem_cons, List.not_mem_nil, or_false]
  constructor
  · intro h
    split at h
    · cases h
    · next c rest hs =>
      rw [Bool.and_eq_true, List.all_eq_true] at h
      refine ⟨[c], ⟨c, h.1, rfl⟩, rest, fun d hd => ?_, hs.symm⟩
      simpa [or_assoc] using h.2 d hd
  · rintro ⟨_, ⟨c, hc, rfl⟩, rest, hrest, hs⟩
    rw [← hs]
    refine Bool.and_eq_true_iff.mpr ⟨hc, List.all_eq_true.mpr fun d hd => ?_⟩
    simpa [or_assoc] using hrest d hd

/-! ### Steps at any depth -/

/-- Variables that all have a template. -/
def Vars.Templates (fs : Functions) (vars : Vars) : Prop :=
  ∀ name src, vars.get? name = some src → ∃ t, parse? fs src = .ok t

/-- A step that keeps its own rules: an action has a known tracker and templates, and a branch has an
expression. The steps of a branch are not looked at. -/
def Step.Valid (fs : Functions) (trackers : List String) : Step → Prop
  | .action a => a.name.tracker ∈ trackers ∧ a.vars.Templates fs
  | .branch condition _ => ∃ p, readExpression? fs condition = .ok p

/-- A step that stands among steps, or within a branch among them. -/
inductive Step.Within (s : Step) : List Step → Prop
  | here {steps : List Step} (h : s ∈ steps) : Within s steps
  | inside {condition : String} {inner steps : List Step} (h : .branch condition inner ∈ steps)
      (hs : Within s inner) : Within s steps

theorem Step.Within.mono {s : Step} {steps steps' : List Step} (h : s.Within steps)
    (hsteps : ∀ s ∈ steps, s ∈ steps') : s.Within steps' := by
  cases h with
  | here h => exact .here (hsteps _ h)
  | inside h hs => exact .inside (hsteps _ h) hs

/-- Only the names of functions matter for what has a template. -/
theorem templateFault_eq_none (env : Dict String) (src : String) :
    templateFault checkFunctions src = none ↔ ∃ t, parse? (.standard env) src = .ok t := by
  unfold templateFault
  cases h : parse? checkFunctions src with
  | ok t => exact iff_of_true rfl ⟨t, (parse?_mono (fun f hf => standard_contains hf env) h).1⟩
  | error fault =>
    refine iff_of_false (by simp) ?_
    rintro ⟨t, ht⟩
    cases h.symm.trans (parse?_mono (fun f hf => standard_contains hf .empty) ht).1

theorem conditionFault_eq_none (env : Dict String) (src : String) :
    conditionFault checkFunctions src = none ↔
      ∃ p, readExpression? (.standard env) src = .ok p := by
  unfold conditionFault
  cases h : readExpression? checkFunctions src with
  | ok p =>
    exact iff_of_true rfl ⟨p, (Pipeline.read?_mono (fun f hf => standard_contains hf env) h).1⟩
  | error fault =>
    refine iff_of_false (by simp) ?_
    rintro ⟨p, hp⟩
    cases h.symm.trans (Pipeline.read?_mono (fun f hf => standard_contains hf .empty) hp).1

section
variable {env : Dict String} {trackers : List String}

theorem Vars.parsed_iff_templates (env : Dict String) (vars : Vars) :
    vars.Parsed ↔ vars.Templates (.standard env) := by
  simp only [Vars.Parsed, Vars.Templates, ← templateFault_eq_none env]
  constructor
  · exact fun h name src hget => h (name, src) ((vars.values.mem_entries_iff name src).mpr hget)
  · exact fun h e he => h e.1 e.2 ((vars.values.mem_entries_iff e.1 e.2).mp he)

theorem Step.valid_of_checked (env : Dict String) {s : Step} (h : s.Checked trackers) :
    s.Valid (.standard env) trackers := by
  cases s with
  | action a => exact ⟨h.1, (Vars.parsed_iff_templates env _).mp h.2⟩
  | branch condition inner => exact (conditionFault_eq_none env _).mp h.1

theorem Step.allChecked_iff_forall (trackers : List String) (steps : List Step) :
    Step.AllChecked trackers steps ↔ ∀ s ∈ steps, s.Checked trackers := by
  induction steps with
  | nil => simp [Step.AllChecked]
  | cons s rest ih => rw [Step.AllChecked, ih, List.forall_mem_cons]

theorem Step.Within.checked {s : Step} {steps : List Step} (h : s.Within steps)
    (hsteps : Step.AllChecked trackers steps) : s.Checked trackers := by
  induction h with
  | here h => exact (Step.allChecked_iff_forall trackers _).mp hsteps s h
  | inside h _ ih => exact ih ((Step.allChecked_iff_forall trackers _).mp hsteps _ h).2

mutual
theorem Step.checked_of_valid (s : Step)
    (h : ∀ s' : Step, s'.Within [s] → s'.Valid (.standard env) trackers) : s.Checked trackers := by
  have hs := h s (.here List.mem_cons_self)
  cases s with
  | action a => exact ⟨hs.1, (Vars.parsed_iff_templates env _).mpr hs.2⟩
  | branch condition inner =>
    exact ⟨(conditionFault_eq_none env _).mpr hs,
      Step.allChecked_of_valid inner fun s' hs' => h s' (.inside List.mem_cons_self hs')⟩

theorem Step.allChecked_of_valid (steps : List Step)
    (h : ∀ s' : Step, s'.Within steps → s'.Valid (.standard env) trackers) :
    Step.AllChecked trackers steps := by
  cases steps with
  | nil => trivial
  | cons s rest =>
    exact ⟨Step.checked_of_valid s fun s' hs' => h s' (hs'.mono (by simp)),
      Step.allChecked_of_valid rest fun s' hs' => h s' (hs'.mono fun _ => List.mem_cons_of_mem s)⟩
end

/-- The check goes through the steps at every depth and leaves out none. -/
theorem Step.allChecked_iff_valid (env : Dict String) (trackers : List String) (steps : List Step) :
    Step.AllChecked trackers steps ↔
      ∀ s : Step, s.Within steps → s.Valid (.standard env) trackers :=
  ⟨fun h _ hs => Step.valid_of_checked env (hs.checked h), Step.allChecked_of_valid steps⟩

end

/-! ### Configurations -/

namespace Config

/-- The names of the triggers, in order. -/
def triggerNames (c : Config) : List String := c.triggers.map (·.name)

/-- A configuration that keeps all rules, with its templates over these functions. -/
structure Valid (fs : Functions) (c : Config) : Prop where
  address : "http://".toList <+: c.server.baseUrl.toList ∨
    "https://".toList <+: c.server.baseUrl.toList
  trackersDiffer : c.trackerNames.Nodup
  slugs : ∀ name ∈ c.trackerNames, name.toList ∈ slugPattern.matches'
  attempts : ∀ t ∈ c.trackers, 1 ≤ t.plugin.attempts
  triggersDiffer : c.triggerNames.Nodup
  triggers : ∀ t ∈ c.triggers, t.tracker ∈ c.trackerNames ∧ t.vars.Templates fs
  jobs : ∀ j ∈ c.jobs, j.triggerName ∈ c.triggerNames
  steps : ∀ j ∈ c.jobs, ∀ s : Step, s.Within j.steps → s.Valid fs c.trackerNames

variable {c c' : Config}

theorem isHttpUrl_iff (url : String) : isHttpUrl url = true ↔
    "http://".toList <+: url.toList ∨ "https://".toList <+: url.toList := by
  simp only [isHttpUrl, Bool.or_eq_true, List.isPrefixOf_iff_prefix]

theorem faults_eq_nil_iff_valid (env : Dict String) (c : Config) :
    c.faults = [] ↔ c.Valid (.standard env) := by
  rw [faults_eq_nil]
  simp only [isHttpUrl_iff, isSlug_iff_matches, Vars.parsed_iff_templates env,
    Step.allChecked_iff_valid env, NewNames]
  constructor
  · rintro ⟨haddress, ⟨⟨hdiffer, -⟩, htrackers⟩, ⟨⟨hnames, -⟩, htriggers⟩, hjobs⟩
    exact {
      address := haddress
      trackersDiffer := hdiffer
      slugs := List.forall_mem_map.mpr fun t ht => (htrackers t ht).1
      attempts := fun t ht => Nat.one_le_iff_ne_zero.mpr (htrackers t ht).2
      triggersDiffer := hnames
      triggers := htriggers
      jobs := fun j hj => (hjobs j hj).1
      steps := fun j hj => (hjobs j hj).2 }
  · intro h
    exact ⟨h.address,
      ⟨⟨h.trackersDiffer, by simp⟩, fun t ht =>
        ⟨h.slugs _ (List.mem_map_of_mem ht), Nat.one_le_iff_ne_zero.mp (h.attempts t ht)⟩⟩,
      ⟨⟨h.triggersDiffer, by simp⟩, h.triggers⟩, fun j hj => ⟨h.jobs j hj, h.steps j hj⟩⟩

/-- The rules do not depend on the order of trackers, triggers and jobs. -/
theorem Valid.perm {fs : Functions} (h : c.Valid fs)
    (haddress : c'.server.baseUrl = c.server.baseUrl) (htrackers : c.trackers.Perm c'.trackers)
    (htriggers : c.triggers.Perm c'.triggers) (hjobs : c.jobs.Perm c'.jobs) : c'.Valid fs := by
  have hnames : ∀ name, name ∈ c'.trackerNames ↔ name ∈ c.trackerNames :=
    fun name => (htrackers.map _).mem_iff.symm
  have htriggerNames : ∀ name, name ∈ c'.triggerNames ↔ name ∈ c.triggerNames :=
    fun name => (htriggers.map _).mem_iff.symm
  have hstep : ∀ s : Step, s.Valid fs c.trackerNames → s.Valid fs c'.trackerNames := by
    intro s hs
    cases s with
    | action a => exact ⟨(hnames _).mpr hs.1, hs.2⟩
    | branch condition inner => exact hs
  exact {
    address := haddress ▸ h.address
    trackersDiffer := (htrackers.map _).nodup_iff.mp h.trackersDiffer
    slugs := fun name hname => h.slugs name ((hnames name).mp hname)
    attempts := fun t ht => h.attempts t (htrackers.mem_iff.mpr ht)
    triggersDiffer := (htriggers.map _).nodup_iff.mp h.triggersDiffer
    triggers := fun t ht => (h.triggers t (htriggers.mem_iff.mpr ht)).imp_left (hnames _).mpr
    jobs := fun j hj => (htriggerNames _).mpr (h.jobs j (hjobs.mem_iff.mpr hj))
    steps := fun j hj s hs => hstep s (h.steps j (hjobs.mem_iff.mpr hj) s hs) }

/-- A configuration has no faults exactly when it keeps all rules, and the order of its trackers,
triggers and jobs does not matter. -/
theorem faultless_iff_valid :
    (∀ (env : Dict String) (c : Config), c.faults = [] ↔ c.Valid (.standard env)) ∧
    ∀ c c' : Config, c'.server.baseUrl = c.server.baseUrl → c.trackers.Perm c'.trackers →
      c.triggers.Perm c'.triggers → c.jobs.Perm c'.jobs → (c.faults = [] ↔ c'.faults = []) := by
  refine ⟨faults_eq_nil_iff_valid, ?_⟩
  intro c c' haddress htrackers htriggers hjobs
  rw [faults_eq_nil_iff_valid .empty, faults_eq_nil_iff_valid .empty]
  constructor
  · exact fun h => h.perm haddress htrackers htriggers hjobs
  · exact fun h => h.perm haddress.symm htrackers.symm htriggers.symm hjobs.symm

/-- Two desks that tell each other of their mail, one of them with a digit and a sign in its name and
with a branch inside a branch. -/
def twoDesks : Config where
  server := { baseUrl := "https://hooks.test" }
  trackers := [
    { name := "9-desk", plugin := { address := "localhost:9000" } },
    { name := "back_office", plugin := { address := "localhost:9001", attempts := 1 } }]
  triggers := [
    { name := "mail", tracker := "9-desk",
      vars := .ofList [("box", "in\x7b\x7b \"-\" \x7d\x7dbox")] },
    { name := "closed", tracker := "back_office" }]
  jobs := [
    { name := "forward", triggerName := "mail"
      steps := [.branch "not .Ticket.Variations.back_office" [.branch "eq .Update.Title \"bug\"" [
        .action { name := ⟨"back_office", "open"⟩,
                  vars := .ofList [("title", "\x7b\x7b .Update.Title \x7d\x7d")] }]]] },
    { name := "close", triggerName := "closed"
      steps := [.action { name := ⟨"9-desk", "close"⟩ }] }]

/-- The configuration with everything in the opposite order. -/
def reversed (c : Config) : Config :=
  { c with trackers := c.trackers.reverse, triggers := c.triggers.reverse, jobs := c.jobs.reverse }

theorem twoDesks_reversed_faultless :
    twoDesks.Valid (.standard .empty) ∧ twoDesks.trackers.Perm twoDesks.reversed.trackers ∧
      twoDesks.triggers.Perm twoDesks.reversed.triggers ∧
      twoDesks.jobs.Perm twoDesks.reversed.jobs ∧ twoDesks.reversed.faults = [] := by
  have hfaultless : twoDesks.faults = [] := by decide +kernel
  have htrackers : twoDesks.trackers.Perm twoDesks.reversed.trackers := (List.reverse_perm _).symm
  have htriggers : twoDesks.triggers.Perm twoDesks.reversed.triggers := (List.reverse_perm _).symm
  have hjobs : twoDesks.jobs.Perm twoDesks.reversed.jobs := (List.reverse_perm _).symm
  obtain ⟨hvalid, horder⟩ := faultless_iff_valid
  exact ⟨(hvalid .empty twoDesks).mp hfaultless, htrackers, htriggers, hjobs,
    (horder twoDesks twoDesks.reversed rfl htrackers htriggers hjobs).mp hfaultless⟩

/-! ### Names of triggers -/

/-- The configuration with its triggers renamed, and with the jobs that name them. -/
def renameTriggers (f : String → String) (c : Config) : Config :=
  { c with
    triggers := c.triggers.map fun t => { t with name := f t.name }
    jobs := c.jobs.map fun j => { j with triggerName := f j.triggerName } }

theorem triggerNames_renameTriggers (f : String → String) (c : Config) :
    (c.renameTriggers f).triggerNames = c.triggerNames.map f := by
  simp [triggerNames, renameTriggers]

theorem valid_renameTriggers {fs : Functions} {f : String → String} (hf : Function.Injective f) :
    (c.renameTriggers f).Valid fs ↔ c.Valid fs := by
  have hjob : ∀ name, f name ∈ (c.renameTriggers f).triggerNames ↔ name ∈ c.triggerNames := by
    intro name
    rw [triggerNames_renameTriggers, List.mem_map_of_injective hf]
  have hdiffer : (c.renameTriggers f).triggerNames.Nodup ↔ c.triggerNames.Nodup := by
    rw [triggerNames_renameTriggers, List.nodup_map_iff hf]
  constructor
  · intro h
    exact {
      address := h.address
      trackersDiffer := h.trackersDiffer
      slugs := h.slugs
      attempts := h.attempts
      triggersDiffer := hdiffer.mp h.triggersDiffer
      triggers := fun t ht => h.triggers { t with name := f t.name } (List.mem_map_of_mem ht)
      jobs := fun j hj => (hjob _).mp (h.jobs _ (List.mem_map_of_mem hj))
      steps := fun j hj =>
        h.steps { j with triggerName := f j.triggerName } (List.mem_map_of_mem hj) }
  · intro h
    exact {
      address := h.address
      trackersDiffer := h.trackersDiffer
      slugs := h.slugs
      attempts := h.attempts
      triggersDiffer := hdiffer.mpr h.triggersDiffer
      triggers := List.forall_mem_map.mpr fun t ht => h.triggers t ht
      jobs := List.forall_mem_map.mpr fun j hj => (hjob _).mpr (h.jobs j hj)
      steps := List.forall_mem_map.mpr fun j hj => h.steps j hj }

/-- A configuration in which all names of trackers and of triggers are slugs, and those of a kind
differ from each other. -/
structure NamedBySlugs (c : Config) : Prop where
  trackers : ∀ name ∈ c.trackerNames, name.toList ∈ slugPattern.matches'
  triggers : ∀ name ∈ c.triggerNames, name.toList ∈ slugPattern.matches'
  trackersDiffer : c.trackerNames.Nodup
  triggersDiffer : c.triggerNames.Nodup

/-- The names of trackers in a configuration without faults are slugs and differ from each other. The
names of triggers differ from each other, and that is all: they may be slugs or not, and whatever
other names that differ are given to the triggers, there are faults as before or there are none. -/
theorem accepted_names_differ (c : Config) :
    (c.faults = [] →
      (∀ name ∈ c.trackerNames, name.toList ∈ slugPattern.matches') ∧
      c.trackerNames.Nodup ∧ c.triggerNames.Nodup ∧
      (c.NamedBySlugs ↔ ∀ name ∈ c.triggerNames, name.toList ∈ slugPattern.matches')) ∧
    ∀ f : String → String, Function.Injective f →
      ((c.renameTriggers f).faults = [] ↔ c.faults = []) := by
  constructor
  · intro h
    have hvalid := (faults_eq_nil_iff_valid .empty c).mp h
    refine ⟨hvalid.slugs, hvalid.trackersDiffer, hvalid.triggersDiffer, fun hnames =>
      hnames.triggers, fun htriggers => ?_⟩
    exact ⟨hvalid.slugs, htriggers, hvalid.trackersDiffer, hvalid.triggersDiffer⟩
  · intro f hf
    rw [faults_eq_nil_iff_valid .empty, faults_eq_nil_iff_valid .empty]
    exact valid_renameTriggers hf

/-- A configuration whose only trigger has a capital letter and a blank in its name. -/
def spaced : Config where
  server := { baseUrl := "http://hooks.test" }
  trackers := [{ name := "github", plugin := { address := "localhost:9000" } }]
  triggers := [{ name := "New Issue", tracker := "github" }]
  jobs := [{ name := "mirror", triggerName := "New Issue",
             steps := [.action { name := ⟨"github", "note"⟩ }] }]

theorem spaced_trigger_name_accepted : spaced.faults = [] ∧ ¬ spaced.NamedBySlugs := by
  refine ⟨by decide +kernel, fun hnames => ?_⟩
  have hslug := hnames.triggers "New Issue" List.mem_cons_self
  rw [← isSlug_iff_matches] at hslug
  exact absurd hslug (by decide)

theorem twoDesks_renamed_accepted :
    let f := fun name => "New " ++ name
    twoDesks.faults = [] ∧ twoDesks.trackerNames.Nodup ∧ twoDesks.triggerNames.Nodup ∧
      twoDesks.NamedBySlugs ∧ Function.Injective f ∧ (twoDesks.renameTriggers f).faults = [] := by
  intro f
  have hfaultless : twoDesks.faults = [] := by decide +kernel
  have hf : Function.Injective f := fun name name' h => by simpa [f] using h
  have htriggers : ∀ name ∈ twoDesks.triggerNames, name.toList ∈ slugPattern.matches' := by
    intro name hname
    rw [← isSlug_iff_matches]
    exact List.all_eq_true.mp (by decide : twoDesks.triggerNames.all isSlug = true) name hname
  obtain ⟨hnames, hrename⟩ := accepted_names_differ twoDesks
  obtain ⟨-, htrackersDiffer, htriggersDiffer, hslugs⟩ := hnames hfaultless
  exact ⟨hfaultless, htrackersDiffer, htriggersDiffer, hslugs.mpr htriggers, hf,
    (hrename f hf).mpr hfaultless⟩

end Config

end TicketSync
