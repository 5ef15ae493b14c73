import TicketSync.Plugin.Frame
import TicketSync.Proofs.JsonText
import TicketSync.Proofs.RecordCodec

/-! # Frames read back from their lines

Parameters and results are put into normal form on the way, which sorts the fields of every record,
so a record is read by its names and not by the order of its fields. The lines of requests and
responses hold few brackets in one another and no doubles, so they read back as JSON text does. -/
namespace TicketSync

/-! ### Records in normal form -/

namespace Json

theorem normalFields_eq_map (fields : List (String × Json)) :
    normalFields fields = fields.map fun e => (e.1, e.2.normal) := by
  induction fields with
  | nil => rfl
  | cons f fields ih =>
    obtain ⟨k, v⟩ := f
    simp [normalFields, ih]

theorem repeats_entries (names : List String) (d : Dict Json) :
    repeats names d.entries = false := by
  have hone : ∀ (n : String) (l : List (String × Json)), l.Pairwise (fun a b => a.1 ≠ b.1) →
      (l.filter (·.1 = n)).length ≤ 1 := by
    intro n l hl
    induction l with
    | nil => simp
    | cons e l ih =>
      obtain ⟨hfirst, hrest⟩ := List.pairwise_cons.mp hl
      by_cases he : e.1 = n
      · have hnone : l.filter (·.1 = n) = [] := by
          simp only [List.filter_eq_nil_iff, decide_eq_true_eq]
          exact fun f hf heq => hfirst f hf (he.trans heq.symm)
        simp [he, hnone]
      · simpa [he] using ih hrest
  have hfew := fun n => hone n d.entries d.pairwise_ne
  simp only [repeats, List.any_eq_false, decide_eq_true_eq]
  intro n _
  have hn := hfew n
  omega

theorem get?_normalFields {fields : List (String × Json)}
    (h : fields.Pairwise fun a b => a.1 ≠ b.1) (k : String) :
    (Dict.ofList (normalFields fields)).get? k = (Dict.find k fields).map normal := by
  have hfields : (fields.map fun e => (e.1, e.2.normal)).Pairwise fun a b => a.1 ≠ b.1 :=
    List.pairwise_map.mpr h
  rw [normalFields_eq_map, Dict.get?_ofList hfields, Dict.find_map]

theorem field?_normal {fields : List (String × Json)}
    (h : fields.Pairwise fun a b => a.1 ≠ b.1) (k : String) :
    (Json.obj fields).normal.field? k = (Dict.find k fields).map normal := by
  rw [normal]
  exact get?_normalFields h k

/-- A record in normal form has the same fields, each in normal form. -/
theorem record_normal {fields : List (String × Json)}
    (h : fields.Pairwise fun a b => a.1 ≠ b.1) (names : List String) :
    ∃ r, (Json.obj fields).normal.record names = .ok r ∧
      ∀ k, Dict.find k r = (Dict.find k fields).map normal := by
  refine ⟨(Dict.ofList (normalFields fields)).entries, ?_, get?_normalFields h⟩
  simp [normal, ofFields, ofDict, record, repeats_entries]

theorem normal_ofDict (d : Dict Json) : (ofDict d).normal = ofDict (d.map normal) := by
  have hmap : normalFields d.entries = (d.map normal).entries := normalFields_eq_map _
  simp [ofDict, normal, ofFields, hmap]

@[simp] theorem normal_ofTexts (d : Dict String) : (ofTexts d).normal = ofTexts d := by
  have hmap : (d.map Json.str).map normal = d.map Json.str := by
    apply Dict.ext_get?
    intro k
    cases hk : d.get? k <;> simp [hk, normal]
  rw [ofTexts, normal_ofDict, hmap]

@[simp] theorem normal_str (s : String) : (Json.str s).normal = .str s := rfl

end Json

theorem CallRequest.ofJson?_normal (r : CallRequest) :
    ofJson? r.toJson.normal = .ok { r with vars := ⟨r.vars.values, false⟩ } := by
  have hnames : [("method", Json.str r.method), ("vars", r.vars.toJson),
      ("task_id", Json.str r.taskId)].Pairwise fun a b => a.1 ≠ b.1 := by simp
  obtain ⟨fields, hrecord, hfind⟩ := Json.record_normal hnames ["method", "vars", "task_id"]
  rw [ofJson?, toJson, hrecord]
  simp [Json.required, Json.optional, hfind, Dict.find, Json.asText, Vars.toJson, Vars.ofJson?,
    Json.asDict_ofTexts, bind, Except.bind, pure, Except.pure]

theorem SubscribeRequest.ofJson?_normal (r : SubscribeRequest) :
    ofJson? r.toJson.normal = .ok { r with vars := ⟨r.vars.values, false⟩ } := by
  have hnames : [("webhook_url", Json.str r.webhookUrl), ("vars", r.vars.toJson)].Pairwise
      fun a b => a.1 ≠ b.1 := by simp
  obtain ⟨fields, hrecord, hfind⟩ := Json.record_normal hnames ["webhook_url", "vars"]
  rw [ofJson?, toJson, hrecord]
  simp [Json.required, hfind, Dict.find, Json.asText, Vars.toJson, Vars.ofJson?,
    Json.asDict_ofTexts, bind, Except.bind, pure, Except.pure]

theorem WebhookRequest.ofJson?_normal (r : WebhookRequest) :
    ofJson? r.toJson.normal = .ok r := by
  have hnames : [("method", Json.str r.method), ("headers", Json.ofTexts r.headers),
      ("body", Json.str r.body)].Pairwise fun a b => a.1 ≠ b.1 := by simp
  obtain ⟨fields, hrecord, hfind⟩ := Json.record_normal hnames ["method", "headers", "body"]
  rw [ofJson?, toJson, hrecord]
  simp [Json.required, Json.optional, hfind, Dict.find, Json.asText, Json.asDict_ofTexts, bind,
    Except.bind, pure, Except.pure]

theorem Locator.ofJson?_normal (l : Locator) : ofJson? l.toJson.normal = .ok l := by
  have hnames : [("tracker", Json.str l.tracker), ("id", Json.str l.id)].Pairwise
      fun a b => a.1 ≠ b.1 := by simp
  obtain ⟨fields, hrecord, hfind⟩ := Json.record_normal hnames ["tracker", "id"]
  rw [ofJson?, toJson, hrecord]
  simp [Json.required, hfind, Dict.find, Json.asText, bind, Except.bind, pure, Except.pure]

namespace Subscription

/-- A subscription whose time of creation is read back from its text. -/
def Dated (x : Subscription) : Prop := Instant.parse? x.createdAt.toText = some x.createdAt

/-- The fields of the JSON form. -/
def jsonFields (x : Subscription) : List (String × Json) :=
  x.plainFields ++ [("created_at", .str x.createdAt.toText)]

theorem pairwise_jsonFields (x : Subscription) :
    x.jsonFields.Pairwise fun a b => a.1 ≠ b.1 := by
  cases h : x.trackerRef <;> simp [jsonFields, plainFields, h]

theorem find_normal_jsonFields (x : Subscription) (k : String) :
    (Dict.find k x.jsonFields).map Json.normal = Dict.find k x.jsonFields := by
  have hstr : ∀ l : List (String × Json), (∀ e ∈ l, e.2.normal = e.2) →
      (Dict.find k l).map Json.normal = Dict.find k l := by
    intro l hl
    cases hfind : Dict.find k l with
    | none => rfl
    | some v => exact congrArg some (hl _ (Dict.mem_of_find_eq_some hfind))
  apply hstr
  cases h : x.trackerRef <;> simp [jsonFields, plainFields, h]

theorem ofJson?_of_find {x : Subscription} (hx : x.Dated) {v : Json}
    {fields : List (String × Json)}
    (hrecord : v.record ["id", "tracker_ref", "tracker_name", "trigger_name", "base_url",
      "created_at"] = .ok fields)
    (hfind : ∀ k, Dict.find k fields = Dict.find k x.jsonFields) : ofJson? v = .ok x := by
  have hdate : Instant.parse? x.createdAt.toText = some x.createdAt := hx
  rw [ofJson?, hrecord]
  obtain ⟨id, ref, tracker, trigger, base, created⟩ := x
  cases ref <;>
    simp [Json.required, Json.optional, hfind, jsonFields, plainFields, Dict.find, Json.asText,
      asInstant, Json.asOption, Except.map, hdate, bind, Except.bind, pure, Except.pure]

theorem ofJson?_normal {x : Subscription} (hx : x.Dated) : ofJson? x.toJson.normal = .ok x := by
  obtain ⟨fields, hrecord, hfind⟩ := Json.record_normal x.pairwise_jsonFields
    ["id", "tracker_ref", "tracker_name", "trigger_name", "base_url", "created_at"]
  refine ofJson?_of_find hx hrecord ?_
  intro k
  rw [hfind, find_normal_jsonFields]

theorem ofJson?_toJson {x : Subscription} (hx : x.Dated) : ofJson? x.toJson = .ok x := by
  refine ofJson?_of_find hx ?_ fun _ => rfl
  cases h : x.trackerRef <;>
    simp [toJson, jsonFields, plainFields, h, Json.record, Json.repeats]

end Subscription

theorem Content.pairwise_jsonFields (c : Content) :
    c.jsonFields.Pairwise fun a b => a.1 ≠ b.1 := by
  cases h : c.fields.isEmpty <;> simp [jsonFields, h]

/-- A content is found among the fields of a record in normal form. -/
theorem Content.ofRecord_normal {c : Content} {r : List (String × Json)}
    (hfind : ∀ k ∈ fieldNames, Dict.find k r = (Dict.find k c.jsonFields).map Json.normal) :
    ofRecord r = .ok c := by
  have htitle := hfind "title" (by simp [fieldNames])
  have hbody := hfind "body" (by simp [fieldNames])
  have hfields := hfind "fields" (by simp [fieldNames])
  cases h : c.fields.isEmpty with
  | true =>
    have hempty : Dict.empty = c.fields := (Dict.eq_empty_of_isEmpty h).symm
    simp [ofRecord, Json.optional, htitle, hbody, hfields, jsonFields, h, Dict.find, Json.asText,
      hempty, bind, Except.bind, pure, Except.pure]
  | false =>
    simp [ofRecord, Json.optional, htitle, hbody, hfields, jsonFields, h, Dict.find, Json.asText,
      Json.asDict_ofTexts, bind, Except.bind, pure, Except.pure]

namespace Update

theorem ofJson?_normal (u : Update) : ofJson? u.toJson.normal = .ok u := by
  obtain ⟨trigger, url, source, content⟩ := u
  have hnames : ([("trigger_name", Json.str trigger), ("url", Json.str url),
      ("received_from", source.toJson)] ++ content.jsonFields).Pairwise fun a b => a.1 ≠ b.1 := by
    cases h : content.fields.isEmpty <;> simp [Content.jsonFields, h]
  obtain ⟨fields, hrecord, hfind⟩ := Json.record_normal hnames
    (["trigger_name", "url", "received_from"] ++ Content.fieldNames)
  have hcontent : Content.ofRecord fields = .ok content := by
    refine Content.ofRecord_normal fun k hk => ?_
    simp only [Content.fieldNames, List.mem_cons, List.not_mem_nil, or_false] at hk
    rcases hk with rfl | rfl | rfl <;> simp [hfind, Dict.find]
  have hobj : ∃ sorted, (toJson ⟨trigger, url, source, content⟩).normal = .obj sorted :=
    ⟨_, rfl⟩
  obtain ⟨sorted, hsorted⟩ := hobj
  have hread : (Json.obj sorted).record (["trigger_name", "url", "received_from"] ++
      Content.fieldNames) = .ok fields := by
    rw [← hsorted]
    exact hrecord
  rw [hsorted, ofJson?, hread]
  simp [Json.optional, hfind, Dict.find, Json.asText, Locator.ofJson?_normal, hcontent, bind,
    Except.bind, pure, Except.pure]

end Update

open Plugin in
theorem Plugin.UnsubscribeParams.ofJson?_normal (p : UnsubscribeParams) :
    ofJson? p.toJson.normal = .ok p := by
  have hnames : [("tracker_ref", Json.str p.trackerRef)].Pairwise fun a b => a.1 ≠ b.1 := by simp
  obtain ⟨fields, hrecord, hfind⟩ := Json.record_normal hnames ["tracker_ref"]
  rw [ofJson?, toJson, hrecord]
  simp [Json.required, hfind, Dict.find, Json.asText, bind, Except.bind, pure, Except.pure]

theorem Plugin.WebhookParams.ofJson?_normal {p : WebhookParams} (hp : p.subscription.Dated) :
    ofJson? p.toJson.normal = .ok p := by
  have hnames : [("subscription", p.subscription.toJson), ("request", p.request.toJson)].Pairwise
      fun a b => a.1 ≠ b.1 := by simp
  obtain ⟨fields, hrecord, hfind⟩ := Json.record_normal hnames ["subscription", "request"]
  rw [ofJson?, toJson, hrecord]
  simp [Json.required, hfind, Dict.find, Subscription.ofJson?_normal hp,
    WebhookRequest.ofJson?_normal, bind, Except.bind, pure, Except.pure]

/-! ### Room for nested brackets -/

namespace Json

theorem fieldsFit_iff (depth : Nat) (fields : List (String × Json)) :
    FieldsFit depth fields ↔ ∀ f ∈ fields, f.2.Fits depth := by
  induction fields with
  | nil => simp [FieldsFit]
  | cons f fields ih => simp [FieldsFit, ih]

theorem fits_ofDict {α : Type} {write : α → Json} {depth : Nat} (h : ∀ x, (write x).Fits depth)
    (d : Dict α) : (ofDict (d.map write)).Fits (depth + 1) := by
  rw [ofDict, Fits, fieldsFit_iff]
  intro f hf
  obtain ⟨e, -, rfl⟩ := List.mem_map.mp hf
  exact h e.2

theorem fits_ofTexts (d : Dict String) (depth : Nat) : (ofTexts d).Fits (depth + 1) :=
  @fits_ofDict _ Json.str depth (fun _ => by simp [Fits]) d

end Json

theorem CallRequest.fits_toJson (r : CallRequest) (depth : Nat) : r.toJson.Fits (depth + 2) := by
  simp [toJson, Json.Fits, Json.FieldsFit, Vars.toJson, Json.fits_ofTexts]

theorem SubscribeRequest.fits_toJson (r : SubscribeRequest) (depth : Nat) :
    r.toJson.Fits (depth + 2) := by
  simp [toJson, Json.Fits, Json.FieldsFit, Vars.toJson, Json.fits_ofTexts]

theorem WebhookRequest.fits_toJson (r : WebhookRequest) (depth : Nat) :
    r.toJson.Fits (depth + 2) := by
  simp [toJson, Json.Fits, Json.FieldsFit, Json.fits_ofTexts]

theorem Subscription.fits_toJson (x : Subscription) (depth : Nat) : x.toJson.Fits (depth + 1) := by
  cases h : x.trackerRef <;> simp [toJson, plainFields, h, Json.Fits, Json.FieldsFit]

theorem Content.fieldsFit_jsonFields (c : Content) (depth : Nat) :
    Json.FieldsFit (depth + 1) c.jsonFields := by
  cases h : c.fields.isEmpty <;>
    simp [jsonFields, h, Json.Fits, Json.FieldsFit, Json.fits_ofTexts]

theorem Content.fits_toJson (c : Content) (depth : Nat) : c.toJson.Fits (depth + 2) :=
  c.fieldsFit_jsonFields depth

theorem Variation.fits_toJson (v : Variation) (depth : Nat) : v.toJson.Fits (depth + 3) := by
  simp [toJson, Json.Fits, Json.FieldsFit, Content.fits_toJson]

theorem Ticket.fits_toJson (t : Ticket) (depth : Nat) : t.toJson.Fits (depth + 5) := by
  have hvariations : (Json.ofDict (t.variations.map Variation.toJson)).Fits (depth + 4) :=
    Json.fits_ofDict (fun v => v.fits_toJson depth) t.variations
  simp [toJson, Json.Fits, Json.FieldsFit, hvariations]

theorem Locator.fits_toJson (l : Locator) (depth : Nat) : l.toJson.Fits (depth + 1) := by
  simp [toJson, Json.Fits, Json.FieldsFit]

theorem Update.fits_toJson (u : Update) (depth : Nat) : u.toJson.Fits (depth + 2) := by
  have hcontent := u.content.fieldsFit_jsonFields depth
  rw [Json.fieldsFit_iff] at hcontent
  rw [toJson, Json.Fits, Json.fieldsFit_iff]
  intro f hf
  rcases List.mem_append.mp hf with hf | hf
  · simp only [List.mem_cons, List.not_mem_nil, or_false] at hf
    rcases hf with rfl | rfl | rfl <;> simp [Json.Fits, Locator.fits_toJson]
  · exact hcontent f hf

/-- A failure as the other side of a connection gets to know it: what a caller can act on is kept, a
missing object has no kind any more, and of any other failure the message is left. -/
def Failure.relayed : Failure → Failure
  | .notFound _ key => .notFound "remote object" key
  | .alreadyExists what => .alreadyExists what
  | .unsupportedMethod tracker method => .unsupportedMethod tracker method
  | .actionNotSupported action => .actionNotSupported action
  | .unexpectedRemoteStatus status => .unexpectedRemoteStatus status
  | .malformedActionName text => .malformedActionName text
  | .cancelled => .cancelled
  | f => .transport ("plugin error: " ++ f.message)

namespace Plugin

theorem UnsubscribeParams.fits_toJson (p : UnsubscribeParams) (depth : Nat) :
    p.toJson.Fits (depth + 1) := by
  simp [toJson, Json.Fits, Json.FieldsFit]

theorem WebhookParams.fits_toJson (p : WebhookParams) (depth : Nat) :
    p.toJson.Fits (depth + 3) := by
  simp [toJson, Json.Fits, Json.FieldsFit, WebhookRequest.fits_toJson, Subscription.fits_toJson]

theorem Fault.fits_toJson (f : Failure) (depth : Nat) :
    (Fault.ofFailure f).toJson.Fits (depth + 2) := by
  cases f <;> simp [ofFailure, toJson, Json.Fits, Json.FieldsFit]

/-! ### Lines -/

/-- The most brackets inside a frame. -/
def innerDepth : Nat := Json.maxDepth - 1

theorem readLine?_print {α : Type} {read : Json → Decoded α} {v : Json}
    (hv : v.Fits Json.maxDepth) {x : α} (hread : read v = .ok x) :
    readLine? read v.print = some x := by
  simp [readLine?, Json.readChars?_print hv, hread]

theorem asNat_nat {id : Nat} (hid : id < twoTo 64) : Json.asNat 64 (.nat id) = .ok id := by
  have hle : (id : Int) ≤ twoTo 64 - 1 := by omega
  rw [Json.asNat, Json.nat, Json.asInt, if_pos ⟨by omega, hle⟩]
  rfl

theorem fits_nat {id : Nat} (hid : id < twoTo 64) (depth : Nat) : (Json.nat id).Fits depth := by
  have hle : id ≤ Json.maxWord := by
    rw [Json.maxWord]
    omega
  rw [Json.nat, Json.Fits]
  omega

theorem readLine?_request {r : Request} (hid : r.id < twoTo 64)
    (hparams : r.params.Fits innerDepth) :
    readLine? Request.ofJson? r.line = some { r with params := r.params.normal } := by
  have hfits : r.toJson.Fits (innerDepth + 1) := by
    simp [Request.toJson, Json.Fits, Json.FieldsFit, fits_nat hid, hparams]
  refine readLine?_print hfits ?_
  simp [Request.ofJson?, Request.toJson, Json.record, Json.repeats, Json.required, Json.optional,
    Dict.find, asNat_nat hid, Json.asText, bind, Except.bind, pure, Except.pure]

/-- A result of null is left out of the response when it is read, and stands for null again. -/
theorem getD_asPresent (v : Json) : ∃ r, asPresent v = .ok r ∧ r.getD .null = v.normal := by
  cases v with
  | null => exact ⟨none, rfl, rfl⟩
  | _ => exact ⟨_, rfl, rfl⟩

theorem FaultCode.ofJson?_word (c : FaultCode) : FaultCode.ofJson? (.str c.word) = .ok c := by
  cases c <;> rfl

/-- A fault reads back as one that stands for the same failure. -/
theorem Fault.exists_ofJson?_toJson (f : Fault) (hdata : ∀ d ∈ f.data, d.normal = d) :
    ∃ g, Fault.ofJson? f.toJson = .ok g ∧ g.toFailure = f.toFailure := by
  obtain ⟨code, message, data⟩ := f
  cases data with
  | none =>
    refine ⟨⟨code, message, none⟩, ?_, rfl⟩
    simp [ofJson?, toJson, Json.record, Json.repeats, Json.required, Json.optional, Dict.find,
      FaultCode.ofJson?_word, Json.asText, bind, Except.bind, pure, Except.pure]
  | some d =>
    obtain ⟨present, hpresent, hvalue⟩ := getD_asPresent d
    have hfield : ∀ name, (present.bind fun d => d.field? name) = d.field? name := by
      intro name
      rw [hdata d rfl] at hvalue
      cases present with
      | none => exact hvalue ▸ rfl
      | some e => exact hvalue ▸ rfl
    refine ⟨⟨code, message, present⟩, ?_, ?_⟩
    · simp [ofJson?, toJson, Json.record, Json.repeats, Json.required, Json.optional, Dict.find,
        FaultCode.ofJson?_word, Json.asText, hpresent, bind, Except.bind, pure, Except.pure]
    · cases code <;> simp [toFailure, dataText, hfield]

theorem Fault.toFailure_ofFailure (f : Failure) : (Fault.ofFailure f).toFailure = f.relayed := by
  cases f with
  | unsupportedMethod tracker method =>
    simp [ofFailure, toFailure, dataText, Json.field?, Dict.find, Json.str?, Failure.relayed]
  | _ => rfl

theorem Fault.normal_ofFailure (f : Failure) : ∀ d ∈ (Fault.ofFailure f).data, d.normal = d := by
  cases f with
  | unsupportedMethod tracker method =>
    intro d hd
    obtain rfl := Option.some.inj hd
    simp only [Json.normal, Json.normalFields, Json.ofFields, Json.ofDict, Dict.ofList,
      List.foldl_cons, List.foldl_nil, Dict.insert, Dict.put, Dict.empty, String.reduceLT,
      String.reduceEq, if_false]
  | _ => rintro d ⟨⟩

theorem Response.ofJson?_toJson {r : Response} (hid : r.id < twoTo 64) :
    Response.ofJson? r.toJson = do
      let result ← r.result.elim (.ok none) asPresent
      let fault ← r.fault.elim (.ok none) fun f => Json.asOption Fault.ofJson? f.toJson
      return ⟨r.id, result, fault⟩ := by
  obtain ⟨id, result, fault⟩ := r
  cases result <;> cases fault <;>
    simp [Response.ofJson?, Response.toJson, Json.record, Json.repeats, Json.required,
      Json.optional, Dict.find, asNat_nat hid, bind, Except.bind]

/-- A response reads back as one with the same number and the same outcome, in normal form. -/
theorem readLine?_response {r : Response} (hid : r.id < twoTo 64)
    (hresult : ∀ v ∈ r.result, v.Fits innerDepth) (hfault : ∀ f ∈ r.fault, f.toJson.Fits innerDepth)
    (hdata : ∀ f ∈ r.fault, ∀ d ∈ f.data, d.normal = d) :
    ∃ s, readLine? Response.ofJson? r.line = some s ∧ s.id = r.id ∧
      s.outcome = r.outcome.map Json.normal := by
  have hfits : r.toJson.Fits (innerDepth + 1) := by
    obtain ⟨id, result, fault⟩ := r
    cases result <;> cases fault <;>
      simp_all [Response.toJson, Json.Fits, Json.FieldsFit, fits_nat hid]
  obtain ⟨present, hpresent, hvalue⟩ : ∃ present, r.result.elim (.ok none) asPresent = .ok present ∧
      present.getD .null = (r.result.getD .null).normal := by
    cases r.result with
    | none => exact ⟨none, rfl, rfl⟩
    | some v => exact getD_asPresent v
  obtain ⟨fault, hread, hfailure⟩ : ∃ fault,
      (r.fault.elim (.ok none) fun f => Json.asOption Fault.ofJson? f.toJson) = .ok fault ∧
      fault.map Fault.toFailure = r.fault.map Fault.toFailure := by
    cases hf : r.fault with
    | none => exact ⟨none, rfl, rfl⟩
    | some f =>
      obtain ⟨g, hg, hsame⟩ := f.exists_ofJson?_toJson (hdata f hf)
      refine ⟨some g, ?_, by simp [hsame]⟩
      obtain ⟨fields, hfields⟩ : ∃ fields, f.toJson = .obj fields := ⟨_, rfl⟩
      rw [hfields] at hg
      simp [hfields, Json.asOption, hg, Except.map]
  refine ⟨⟨r.id, present, fault⟩, readLine?_print hfits ?_, rfl, ?_⟩
  · simp [Response.ofJson?_toJson hid, hpresent, hread, bind, Except.bind, pure, Except.pure]
  · cases hf : r.fault with
    | none =>
      have hnone : fault = none := by simpa [hf] using hfailure
      simp [Response.outcome, hf, hnone, hvalue, Except.map]
    | some f =>
      obtain ⟨g, rfl, hsame⟩ : ∃ g, fault = some g ∧ g.toFailure = f.toFailure := by
        simpa [hf] using hfailure
      simp [Response.outcome, hf, hsame, Except.map]

theorem readLine?_success {id : Nat} (hid : id < twoTo 64) {v : Json} (hv : v.Fits innerDepth) :
    ∃ r, readLine? Response.ofJson? (Response.success id v).line = some r ∧ r.id = id ∧
      r.outcome = .ok v.normal :=
  readLine?_response (r := .success id v) hid (by simpa [Response.success] using hv)
    (by simp [Response.success]) (by simp [Response.success])

theorem readLine?_failure {id : Nat} (hid : id < twoTo 64) (f : Failure) :
    ∃ r, readLine? Response.ofJson? (Response.failure id f).line = some r ∧ r.id = id ∧
      r.outcome = .error f.relayed := by
  have hfault : (Fault.ofFailure f).toJson.Fits innerDepth :=
    Fault.fits_toJson f (innerDepth - 2)
  obtain ⟨r, hread, hrid, houtcome⟩ := readLine?_response (r := .failure id f) hid
    (by simp [Response.failure]) (by simpa [Response.failure] using hfault)
    (by simpa [Response.failure] using Fault.normal_ofFailure f)
  refine ⟨r, hread, hrid, ?_⟩
  rw [houtcome, ← Fault.toFailure_ofFailure]
  rfl
end Plugin
end TicketSync
