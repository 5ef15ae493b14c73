import TicketSync.Config.Basic
import TicketSync.Proofs.FlowCodec

/-! # Configurations read back from JSON

Every section is read from its own object by the names of its fields, so a section reads back
whether its fields stand as they were written or sorted. A field that is left out in writing is one
whose value is the default in reading. -/
namespace TicketSync

/-! ### Sections -/

theorem Source.asNat_readsBack {n : Nat} (h : n < twoTo 64) :
    ReadsBack Source.asNat (Json.nat n) n := by
  have hbounds : (0 : Int) ≤ n ∧ (n : Int) ≤ twoTo 64 - 1 := by omega
  have hread : Source.asNat (Json.nat n) = .ok n := by
    simp only [Source.asNat, Json.asNat, Json.nat, Json.asInt, if_pos hbounds, Except.map,
      Int.toNat_natCast]
  exact ⟨hread, hread⟩

theorem Source.asBoundedNat_readsBack {bits n : Nat} (hbits : n < twoTo bits) (h : n < twoTo 64) :
    ReadsBack (Source.asBoundedNat bits) (Json.nat n) n := by
  have hread : Source.asBoundedNat bits (Json.nat n) = .ok n := by
    simp only [asBoundedNat, (asNat_readsBack h).written, bind, Except.bind, if_pos hbits, pure,
      Except.pure]
  exact ⟨hread, hread⟩

theorem Source.asNat?_readsBack {n : Nat} (h : n < twoTo 64) :
    ReadsBack (Source.asOption Source.asNat) (Json.nat n) (some n) := by
  have hread : Source.asOption Source.asNat (Json.nat n) = .ok (some n) :=
    congrArg (Except.map some) (asNat_readsBack h).written
  exact ⟨hread, hread⟩

theorem Source.asTextList_readsBack (items : List String) :
    ReadsBack (Source.asList Source.asText) (.ofStrings items) items :=
  .asList_self fun s _ => asText_readsBack s

theorem SocketAddress.readsBack {a : SocketAddress}
    (h : SocketAddress.parse? a.display = some a) :
    ReadsBack SocketAddress.ofSource? (.str a.display) a := by
  have hread : SocketAddress.ofSource? (Json.str a.display) = .ok a := by
    simp [ofSource?, Source.asText, Json.asText, h, bind, Except.bind, pure, Except.pure]
  exact ⟨hread, hread⟩

theorem ServerConfig.readsBack {s : ServerConfig}
    (hlisten : SocketAddress.parse? s.listen.display = some s.listen)
    (hlimit : ∀ n ∈ s.runLimitSeconds, n < twoTo 64) :
    ReadsBack ServerConfig.ofSource? s.toJson s := by
  obtain ⟨listen, baseUrl, limit⟩ := s
  apply ReadsBack.record (fun _ => rfl)
  · cases limit <;> simp
  · intro form r hform hfind
    have haddress := hform (SocketAddress.readsBack hlisten)
    cases limit with
    | none =>
      simp [Source.required, Source.optional, hfind, Dict.find, hform (Source.asText_readsBack _),
        haddress, bind, Except.bind, pure, Except.pure]
    | some n =>
      simp [Source.required, Source.optional, hfind, Dict.find, hform (Source.asText_readsBack _),
        haddress, hform (Source.asNat?_readsBack (hlimit n rfl)), bind, Except.bind, pure,
        Except.pure]

theorem StoreConfig.readsBack (s : StoreConfig) : ReadsBack StoreConfig.ofSource? s.toJson s := by
  cases s with
  | disk path =>
    have hnormal : (StoreConfig.disk path).toJson.normal =
        .obj [("path", .str path), ("type", .str "redb")] := by
      simp only [toJson, Json.normal_obj, Json.normalFields, Json.normal_str, List.foldl_cons,
        List.foldl_nil, Dict.put, String.reduceLT, if_true]
    constructor
    · simp [ofSource?, toJson, Source.view, Source.asJson, Source.asText, Json.asText, keysNamed,
        isPathKey, ofWord, asPlainText, bind, Except.bind, pure, Except.pure]
    · rw [hnormal]
      simp [ofSource?, Source.view, Source.asJson, Source.asText, Json.asText, keysNamed,
        isPathKey, ofWord, asPlainText, bind, Except.bind, pure, Except.pure]
  | memory =>
    constructor <;>
      simp [ofSource?, toJson, Source.view, Json.normal_obj, Json.normalFields, Dict.put,
        Source.asText, Json.asText, keysNamed, ofWord, bind, Except.bind, pure, Except.pure]

/-- A plugin with numbers of the sizes that they are kept in: 32 and 64 bits. -/
structure PluginConfig.Sized (p : PluginConfig) : Prop where
  attempts : p.attempts < twoTo 32
  delay : p.delayMs < twoTo 64

theorem PluginConfig.readsBack {p : PluginConfig} (h : p.Sized) :
    ReadsBack PluginConfig.ofSource? p.toJson p := by
  obtain ⟨address, command, attempts, delay⟩ := p
  have hattempts : attempts < twoTo 64 := Nat.lt_trans h.attempts (by decide)
  apply ReadsBack.record (fun _ => rfl)
  · cases command <;> simp
  · intro form r hform hfind
    have hcount := hform (Source.asBoundedNat_readsBack h.attempts hattempts)
    have hdelay := hform (Source.asNat_readsBack h.delay)
    cases command with
    | nil =>
      simp [Source.required, Source.optional, hfind, Dict.find, hform (Source.asText_readsBack _),
        hcount, hdelay, bind, Except.bind, pure, Except.pure]
    | cons program arguments =>
      simp [Source.required, Source.optional, hfind, Dict.find, hform (Source.asText_readsBack _),
        hcount, hdelay, hform (Source.asTextList_readsBack _), bind, Except.bind, pure, Except.pure]

theorem TrackerConfig.readsBack {t : TrackerConfig} (h : t.plugin.Sized) :
    ReadsBack TrackerConfig.ofSource? t.toJson t := by
  apply ReadsBack.record (fun _ => rfl)
  · simp
  · intro form r hform hfind
    simp [Source.required, hfind, Dict.find, hform (Source.asText_readsBack _),
      hform (PluginConfig.readsBack h), bind, Except.bind, pure, Except.pure]

/-! ### Configurations -/

namespace Config

/-- The same configuration with all variables as templates. -/
def unrendered (c : Config) : Config :=
  { c with
    triggers := c.triggers.map Trigger.unrendered
    jobs := c.jobs.map Job.unrendered }

/-- A configuration whose action names are well formed, whose address to listen on reads back from
its text, and whose numbers have the sizes that they are kept in. -/
structure Writable (c : Config) : Prop where
  listen : SocketAddress.parse? c.server.listen.display = some c.server.listen
  limit : ∀ n ∈ c.server.runLimitSeconds, n < twoTo 64
  plugins : ∀ t ∈ c.trackers, t.plugin.Sized
  names : ∀ j ∈ c.jobs, Step.AllWellFormed j.steps

theorem normal_toJson (c : Config) :
    c.toJson.normal = .obj [("jobs", (Json.arr (c.jobs.map Job.toJson)).normal),
      ("server", c.server.toJson.normal), ("storage", c.store.toJson.normal),
      ("trackers", (Json.arr (c.trackers.map TrackerConfig.toJson)).normal),
      ("triggers", (Json.arr (c.triggers.map Trigger.toJson)).normal)] := by
  simp only [toJson, Json.normal_obj, Json.normalFields, List.foldl_cons, List.foldl_nil, Dict.put,
    String.reduceLT, String.reduceEq, if_true, if_false]

theorem readsBack {c : Config} (h : c.Writable) :
    ReadsBack Config.ofSource? c.toJson c.unrendered := by
  have hserver := ServerConfig.readsBack h.listen h.limit
  have hstore := c.store.readsBack
  have htrackers := ReadsBack.asList_self fun t ht => TrackerConfig.readsBack (h.plugins t ht)
  have htriggers := ReadsBack.asList fun t (_ : t ∈ c.triggers) => t.readsBack
  have hjobs := ReadsBack.asList fun j hj => Job.readsBack (h.names j hj)
  constructor
  · simp [ofSource?, toJson, reader, Source.readRecord, Source.byPosition?,
      Source.asEntries, Source.readEntries, Source.asText, Json.asText, hserver.written,
      hstore.written, htrackers.written, htriggers.written, hjobs.written, ofFields, unrendered,
      bind, Except.bind, pure, Except.pure, Except.map]
  · rw [normal_toJson]
    simp [ofSource?, reader, Source.readRecord, Source.byPosition?, Source.asEntries,
      Source.readEntries, Source.asText, Json.asText, hserver.normal, hstore.normal,
      htrackers.normal, htriggers.normal, hjobs.normal, ofFields, unrendered, bind, Except.bind,
      pure, Except.pure, Except.map]

end Config

/-! ### Both ways -/

/-- Steps, triggers, jobs and configurations with well-formed action names read back from what they
are written as. What reads as a sequence has well-formed names at every depth, has a branch where an
element has a field `if` and there alone, and reads back; an element that lacks a name anywhere
spoils the whole sequence. -/
theorem flow_survives_its_encoding :
    (∀ steps, Step.AllWellFormed steps →
      ReadsBack Step.sequenceOfSource? (Step.sequenceToJson steps) (Step.allUnrendered steps)) ∧
    (∀ t : Trigger, ReadsBack Trigger.ofSource? t.toJson t.unrendered) ∧
    (∀ j : Job, Step.AllWellFormed j.steps → ReadsBack Job.ofSource? j.toJson j.unrendered) ∧
    (∀ c : Config, c.Writable → ReadsBack Config.ofSource? c.toJson c.unrendered) ∧
    (∀ (v : Json) (steps : List Step), Step.sequenceOfSource? v = .ok steps →
      Step.AllWellFormed steps ∧ (∃ items, v.normal = .arr items ∧ Step.AllMirror steps items) ∧
        ReadsBack Step.sequenceOfSource? (Step.sequenceToJson steps) steps) ∧
    ∀ (v w : Json) (items : List Json), v.normal = .arr items → w ∈ items → w.Misnamed →
      ∃ fault, Step.sequenceOfSource? v = .error fault := by
  refine ⟨fun _ => Step.sequence_readsBack, Trigger.readsBack, fun _ => Job.readsBack,
    fun _ => Config.readsBack, fun _ _ => Step.of_sequenceOfSource?, ?_⟩
  intro v w items hv hw hmisnamed
  exact Step.sequenceOfSource?_misnamed hv hw hmisnamed

/-- A branch within a branch, with a detached action in it. -/
def nestedSteps : List Step :=
  [.branch "eq .Kind \"bug\"" [
    .branch "true" [.action { name := ⟨"jira", "label"⟩, detached := true }],
    .action { name := ⟨"jira", "create"⟩, vars := .ofList [("title", "x")] }]]

def nestedTrigger : Trigger := ⟨"bugs", "jira", .ofList [("project", "A")]⟩

def nestedJob : Job := ⟨"mirror", "bugs", nestedSteps⟩

def nestedConfig : Config where
  server := { baseUrl := "http://localhost", runLimitSeconds := some 30 }
  trackers := [⟨"jira", { address := "localhost:50051", command := ["jira-plugin", "--quiet"] }⟩]
  triggers := [nestedTrigger]
  jobs := [nestedJob]

/-- A branch whose only action has a name with two slashes. -/
def misnamedBranch : Json :=
  .obj [("actions", .arr [.obj [("name", .str "a/b/c")]]), ("if", .str "true")]

theorem nestedSteps_wellFormed : Step.AllWellFormed nestedSteps := by
  have hlabel : (⟨"jira", "label"⟩ : ActionName).WellFormed := by
    unfold ActionName.WellFormed
    decide +kernel
  have hcreate : (⟨"jira", "create"⟩ : ActionName).WellFormed := by
    unfold ActionName.WellFormed
    decide +kernel
  simp [nestedSteps, Step.AllWellFormed, Step.WellFormed, hlabel, hcreate]

theorem nestedConfig_writable : nestedConfig.Writable where
  listen := by decide +kernel
  limit := by simp [nestedConfig]
  plugins := by
    intro t ht
    obtain rfl := List.mem_singleton.mp ht
    exact ⟨by decide, by decide⟩
  names := by simp [nestedConfig, nestedJob, nestedSteps_wellFormed]

theorem misnamedBranch_misnamed : misnamedBranch.Misnamed := by
  have hname : ∀ n : ActionName, n.WellFormed → "a/b/c" ≠ n.display := by
    intro n hn heq
    have hparse : ActionName.parse? "a/b/c" = none := by decide +kernel
    rw [heq, ActionName.parse?_display hn] at hparse
    cases hparse
  have hinner : (Json.obj [("name", .str "a/b/c")]).Misnamed := by
    refine .action (by simp [Json.field?, Dict.find]) ?_
    intro n hn
    simpa [Json.actionName?, Dict.find] using hname n hn
  have hif : misnamedBranch.field? "if" ≠ none := by
    simp [misnamedBranch, Json.field?, Dict.find]
  have hactions : misnamedBranch.field? "actions" =
      some (.arr [.obj [("name", .str "a/b/c")]]) := by
    simp [misnamedBranch, Json.field?, Dict.find]
  exact .inside hif hactions List.mem_cons_self hinner

theorem nestedConfig_survives :
    ReadsBack Step.sequenceOfSource? (Step.sequenceToJson nestedSteps) nestedSteps ∧
      ReadsBack Trigger.ofSource? nestedTrigger.toJson nestedTrigger ∧
      ReadsBack Job.ofSource? nestedJob.toJson nestedJob ∧
      ReadsBack Config.ofSource? nestedConfig.toJson nestedConfig ∧
      (∃ items, (Step.sequenceToJson nestedSteps).normal = .arr items ∧
        Step.AllMirror nestedSteps items) ∧
      ∃ fault, Step.sequenceOfSource? (Json.arr [misnamedBranch]) = .error fault := by
  obtain ⟨hsequence, htrigger, hjob, hconfig, hread, hfault⟩ := flow_survives_its_encoding
  have hback := hsequence nestedSteps nestedSteps_wellFormed
  refine ⟨hback, htrigger _, hjob _ nestedSteps_wellFormed, hconfig _ nestedConfig_writable,
    (hread _ _ hback.written).2.1, ?_⟩
  refine hfault _ misnamedBranch [misnamedBranch] ?_ List.mem_cons_self misnamedBranch_misnamed
  simp only [misnamedBranch, Json.normal_arr, Json.normalItems, Json.normal_obj, Json.normalFields,
    Json.normal_str, List.foldl_cons, List.foldl_nil, Dict.put, String.reduceLT, String.reduceEq,
    if_false]

end TicketSync
