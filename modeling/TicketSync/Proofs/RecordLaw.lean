import TicketSync.Proofs.FlowCodec
import TicketSync.Proofs.InstantText

/-! # Records survive their encoding

A record is found again in its JSON form, whether the form is handed on as a value, in normal form or
as text. A JSON value that is read as a record may have unknown fields, leave out fields with a
default, or go by position. The form of the record that was read has none of this, and it reads as
the same record. -/
namespace TicketSync

/-- A decoder finds this in a JSON form, however the form is handed on. -/
structure Survives {α : Type} (decode : Json → Decoded α) (v : Json) (x : α) : Prop
    extends ReadsBack decode v x where
  text : Plugin.readLine? decode v.print = some x

theorem Survives.of_fits {α : Type} {decode : Json → Decoded α} {v : Json} {x : α}
    (h : ReadsBack decode v x) (hv : v.Fits Json.maxDepth) : Survives decode v x :=
  ⟨h, Plugin.readLine?_print hv h.written⟩

/-- The law of a kind of record: each record that `Known` admits survives, where it may come back as
another one that is the `Same`, and whatever has been read from a JSON value survives as it is. -/
structure RecordLaw {α : Type} (write : α → Json) (decode : Json → Decoded α) (Known : α → Prop)
    (Same : α → α → Prop) : Prop where
  written : ∀ x, Known x → ∃ y, Survives decode (write x) y ∧ Same x y
  settled : ∀ v x, decode v = .ok x → Survives decode (write x) x

theorem RecordLaw.of_readsBack {α : Type} {write : α → Json} {decode : Json → Decoded α}
    (h : ∀ x, ReadsBack decode (write x) x) (hfits : ∀ x, (write x).Fits Json.maxDepth) :
    RecordLaw write decode (fun _ => True) (· = ·) where
  written x _ := ⟨x, .of_fits (h x) (hfits x), rfl⟩
  settled _ x _ := .of_fits (h x) (hfits x)

theorem Json.exists_of_required {α : Type} {fields : List (String × Json)} {name : String}
    {read : Json → Decoded α} {x : α} (h : required fields name read = .ok x) :
    ∃ v, read v = .ok x := by
  unfold required at h
  split at h
  · exact ⟨_, h⟩
  · cases h

/-! ### Locators, contents and tickets -/

theorem ReadsBack.asDict {α : Type} {read : Json → Decoded α} {write : α → Json}
    (h : ∀ x, ReadsBack read (write x) x) (d : Dict α) :
    ReadsBack (Json.asDict read) (.ofDict (d.map write)) d where
  written := Json.asDict_ofDict (fun x => (h x).written) d
  normal := by
    have hmap : (d.map write).map Json.normal = d.map fun x => (write x).normal := by
      apply Dict.ext_get?
      intro k
      cases hk : d.get? k <;> simp [hk]
    rw [Json.normal_ofDict, hmap]
    exact Json.asDict_ofDict (fun x => (h x).normal) d

theorem Locator.readsBack (l : Locator) : ReadsBack ofJson? l.toJson l where
  written := by
    simp [ofJson?, toJson, Json.record, Json.repeats, Json.required, Dict.find, Json.asText, bind,
      Except.bind, pure, Except.pure]
  normal := l.ofJson?_normal

theorem Content.readsBack (c : Content) : ReadsBack ofJson? c.toJson c where
  written := c.ofJson?_toJson
  normal := by
    obtain ⟨r, hrecord, hfind⟩ := Json.record_normal c.pairwise_jsonFields fieldNames
    rw [ofJson?, toJson, hrecord]
    exact ofRecord_normal fun k _ => hfind k

theorem Variation.readsBack (v : Variation) : ReadsBack ofJson? v.toJson v where
  written := v.ofJson?_toJson
  normal := by
    have hnames : [("id", Json.str v.id), ("content", v.content.toJson)].Pairwise
        fun a b => a.1 ≠ b.1 := by simp
    obtain ⟨r, hrecord, hfind⟩ := Json.record_normal hnames ["id", "content"]
    rw [ofJson?, toJson, hrecord]
    simp [Json.required, Json.optional, hfind, Dict.find, Json.asText, v.content.readsBack.normal,
      bind, Except.bind, pure, Except.pure]

theorem Ticket.readsBack (t : Ticket) : ReadsBack ofJson? t.toJson t where
  written := t.ofJson?_toJson
  normal := by
    have hnames : [("id", Json.str t.id),
        ("variations", Json.ofDict (t.variations.map Variation.toJson))].Pairwise
        fun a b => a.1 ≠ b.1 := by simp
    obtain ⟨r, hrecord, hfind⟩ := Json.record_normal hnames ["id", "variations"]
    have hvariations := (ReadsBack.asDict Variation.readsBack t.variations).normal
    rw [ofJson?, toJson, hrecord]
    simp [Json.optional, hfind, Dict.find, Json.asText, hvariations, bind, Except.bind, pure,
      Except.pure]

theorem Update.readsBack (u : Update) : ReadsBack ofJson? u.toJson u where
  written := by
    have hcontent : Content.ofRecord ([("trigger_name", Json.str u.triggerName),
        ("url", .str u.url), ("received_from", u.receivedFrom.toJson)] ++ u.content.jsonFields) =
        .ok u.content := by
      rw [← u.content.ofRecord_jsonFields]
      simp [Content.ofRecord, Json.optional, Dict.find]
    have hrepeats : Json.repeats (["trigger_name", "url", "received_from"] ++ Content.fieldNames)
        ([("trigger_name", Json.str u.triggerName), ("url", .str u.url),
          ("received_from", u.receivedFrom.toJson)] ++ u.content.jsonFields) = false := by
      cases h : u.content.fields.isEmpty <;>
        simp [Json.repeats, Content.fieldNames, Content.jsonFields, h]
    rw [toJson, ofJson?, Json.record, hrepeats]
    simp only [Bool.false_eq_true, if_false, hcontent, bind, Except.bind]
    simp [Json.optional, Dict.find, Json.asText, u.receivedFrom.readsBack.written, pure, Except.pure]
  normal := u.ofJson?_normal

theorem WebhookRequest.readsBack (r : WebhookRequest) : ReadsBack ofJson? r.toJson r where
  written := by
    simp [ofJson?, toJson, Json.record, Json.repeats, Json.required, Json.optional, Dict.find,
      Json.asText, Json.asDict_ofTexts, bind, Except.bind, pure, Except.pure]
  normal := r.ofJson?_normal

/-! ### Subscriptions -/

theorem Subscription.readsBack {x : Subscription} (hx : x.Dated) : ReadsBack ofJson? x.toJson x :=
  ⟨ofJson?_toJson hx, ofJson?_normal hx⟩

/-- The time of creation of a subscription that was read has an unambiguous text. -/
theorem Subscription.dated_of_ofJson? {v : Json} {x : Subscription} (h : ofJson? v = .ok x) :
    x.Dated := by
  obtain ⟨fields, -, h⟩ := ok_of_bind h
  obtain ⟨id, -, h⟩ := ok_of_bind h
  obtain ⟨trackerRef, -, h⟩ := ok_of_bind h
  obtain ⟨trackerName, -, h⟩ := ok_of_bind h
  obtain ⟨triggerName, -, h⟩ := ok_of_bind h
  obtain ⟨baseUrl, -, h⟩ := ok_of_bind h
  obtain ⟨createdAt, hcreated, h⟩ := ok_of_bind h
  cases h
  obtain ⟨dateForm, hcreated⟩ := Json.exists_of_required hcreated
  cases dateForm with
  | str s =>
    simp only [asInstant] at hcreated
    split at hcreated
    next i hi =>
      obtain rfl := Except.ok.inj hcreated
      exact Instant.parse?_toText (Instant.valid_of_parse? hi)
    next => cases hcreated
  | _ => cases hcreated

theorem Subscription.recordLaw :
    RecordLaw Subscription.toJson Subscription.ofJson? Subscription.Dated (· = ·) where
  written x hx := ⟨x, .of_fits (readsBack hx) (x.fits_toJson _), rfl⟩
  settled _ x h := .of_fits (readsBack (dated_of_ofJson? h)) (x.fits_toJson _)

/-! ### Requests with variables

Whether variables were rendered is not written, so they are read as not rendered. -/

theorem Vars.same_unrendered (vars : Vars) : vars.same vars.unrendered = true := by
  simp [same, unrendered]

theorem CallRequest.readsBack (r : CallRequest) :
    ReadsBack ofJson? r.toJson { r with vars := r.vars.unrendered } where
  written := by
    simp [ofJson?, toJson, Vars.unrendered, Json.record, Json.repeats, Json.required, Json.optional,
      Dict.find, Json.asText, Vars.toJson, Vars.ofJson?, Json.asDict_ofTexts, bind, Except.bind,
      pure, Except.pure]
  normal := r.ofJson?_normal

theorem CallRequest.unrendered_of_ofJson? {v : Json} {r : CallRequest} (h : ofJson? v = .ok r) :
    r.vars.unrendered = r.vars := by
  obtain ⟨fields, -, h⟩ := ok_of_bind h
  obtain ⟨method, -, h⟩ := ok_of_bind h
  obtain ⟨vars, hvars, h⟩ := ok_of_bind h
  obtain ⟨taskId, -, h⟩ := ok_of_bind h
  cases h
  obtain ⟨varsForm, hvars⟩ := Json.exists_of_required hvars
  exact Vars.unrendered_of_ofJson? hvars

theorem SubscribeRequest.readsBack (r : SubscribeRequest) :
    ReadsBack ofJson? r.toJson { r with vars := r.vars.unrendered } where
  written := by
    simp [ofJson?, toJson, Vars.unrendered, Json.record, Json.repeats, Json.required, Dict.find,
      Json.asText, Vars.toJson, Vars.ofJson?, Json.asDict_ofTexts, bind, Except.bind, pure,
      Except.pure]
  normal := r.ofJson?_normal

theorem SubscribeRequest.unrendered_of_ofJson? {v : Json} {r : SubscribeRequest}
    (h : ofJson? v = .ok r) : r.vars.unrendered = r.vars := by
  obtain ⟨fields, -, h⟩ := ok_of_bind h
  obtain ⟨webhookUrl, -, h⟩ := ok_of_bind h
  obtain ⟨vars, hvars, h⟩ := ok_of_bind h
  cases h
  obtain ⟨varsForm, hvars⟩ := Json.exists_of_required hvars
  exact Vars.unrendered_of_ofJson? hvars

/-- Calls with the same method and task id, and variables with the same names and values. -/
structure CallRequest.Same (r s : CallRequest) : Prop where
  method : s.method = r.method
  vars : r.vars.same s.vars = true
  taskId : s.taskId = r.taskId

/-- Registrations with the same address, and variables with the same names and values. -/
structure SubscribeRequest.Same (r s : SubscribeRequest) : Prop where
  webhookUrl : s.webhookUrl = r.webhookUrl
  vars : r.vars.same s.vars = true

theorem CallRequest.recordLaw :
    RecordLaw CallRequest.toJson CallRequest.ofJson? (fun _ => True) CallRequest.Same where
  written r _ := ⟨_, .of_fits r.readsBack (r.fits_toJson _), rfl, r.vars.same_unrendered, rfl⟩
  settled v r h := by
    have hsame : { r with vars := r.vars.unrendered } = r := by
      rw [unrendered_of_ofJson? h]
    exact hsame ▸ .of_fits r.readsBack (r.fits_toJson _)

theorem SubscribeRequest.recordLaw :
    RecordLaw SubscribeRequest.toJson SubscribeRequest.ofJson? (fun _ => True)
      SubscribeRequest.Same where
  written r _ := ⟨_, .of_fits r.readsBack (r.fits_toJson _), rfl, r.vars.same_unrendered⟩
  settled v r h := by
    have hsame : { r with vars := r.vars.unrendered } = r := by
      rw [unrendered_of_ofJson? h]
    exact hsame ▸ .of_fits r.readsBack (r.fits_toJson _)

/-! ### All records -/

/-- Every record is found again in its form, a subscription when the text of its time of creation is
unambiguous and a request without the mark of rendered variables. What was read from any form is
settled: its own form reads as the same record. -/
theorem records_survive_their_encoding :
    RecordLaw Locator.toJson Locator.ofJson? (fun _ => True) (· = ·) ∧
    RecordLaw Content.toJson Content.ofJson? (fun _ => True) (· = ·) ∧
    RecordLaw Variation.toJson Variation.ofJson? (fun _ => True) (· = ·) ∧
    RecordLaw Ticket.toJson Ticket.ofJson? (fun _ => True) (· = ·) ∧
    RecordLaw Update.toJson Update.ofJson? (fun _ => True) (· = ·) ∧
    RecordLaw Subscription.toJson Subscription.ofJson? Subscription.Dated (· = ·) ∧
    RecordLaw CallRequest.toJson CallRequest.ofJson? (fun _ => True) CallRequest.Same ∧
    RecordLaw SubscribeRequest.toJson SubscribeRequest.ofJson? (fun _ => True)
      SubscribeRequest.Same ∧
    RecordLaw WebhookRequest.toJson WebhookRequest.ofJson? (fun _ => True) (· = ·) :=
  ⟨.of_readsBack Locator.readsBack fun l => l.fits_toJson _,
    .of_readsBack Content.readsBack fun c => c.fits_toJson _,
    .of_readsBack Variation.readsBack fun v => v.fits_toJson _,
    .of_readsBack Ticket.readsBack fun t => t.fits_toJson _,
    .of_readsBack Update.readsBack fun u => u.fits_toJson _,
    Subscription.recordLaw, CallRequest.recordLaw, SubscribeRequest.recordLaw,
    .of_readsBack WebhookRequest.readsBack fun r => r.fits_toJson _⟩

end TicketSync
