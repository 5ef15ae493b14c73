import TicketSync.Json.Decoding
import TicketSync.Ticket.Basic

/-! The JSON form of locators, contents, variations, tickets and updates. The content of an update
stands among its own fields, so an update is always an object. -/
namespace TicketSync

/-- The JSON form of a locator. -/
def Locator.toJson (l : Locator) : Json :=
  .obj [("tracker", .str l.tracker), ("id", .str l.id)]

/-- The locator of a JSON form. -/
def Locator.ofJson? (v : Json) : Decoded Locator := do
  let r ← v.record ["tracker", "id"]
  return ⟨← Json.required r "tracker" Json.asText, ← Json.required r "id" Json.asText⟩

/-- The fields of a content; the map of fields is left out when it is empty. -/
def Content.jsonFields (c : Content) : List (String × Json) :=
  [("title", .str c.title), ("body", .str c.body)] ++
    if c.fields.isEmpty then [] else [("fields", .ofTexts c.fields)]

/-- The names of the fields of a content. -/
def Content.fieldNames : List String := ["title", "body", "fields"]

/-- The content among the fields of a record. -/
def Content.ofRecord (r : List (String × Json)) : Decoded Content := do
  return ⟨← Json.optional r "title" "" Json.asText, ← Json.optional r "body" "" Json.asText,
    ← Json.optional r "fields" .empty (Json.asDict Json.asText)⟩

/-- The JSON form of a content. -/
def Content.toJson (c : Content) : Json := .obj c.jsonFields

/-- The content of a JSON form. -/
def Content.ofJson? (v : Json) : Decoded Content := do
  Content.ofRecord (← v.record Content.fieldNames)

/-- The JSON form of a variation. -/
def Variation.toJson (t : Variation) : Json :=
  .obj [("id", .str t.id), ("content", t.content.toJson)]

/-- The variation of a JSON form. -/
def Variation.ofJson? (v : Json) : Decoded Variation := do
  let r ← v.record ["id", "content"]
  return ⟨← Json.required r "id" Json.asText, ← Json.optional r "content" {} Content.ofJson?⟩

/-- The JSON form of a ticket. -/
def Ticket.toJson (t : Ticket) : Json :=
  .obj [("id", .str t.id), ("variations", .ofDict (t.variations.map Variation.toJson))]

/-- The ticket of a JSON form. -/
def Ticket.ofJson? (v : Json) : Decoded Ticket := do
  let r ← v.record ["id", "variations"]
  return ⟨← Json.optional r "id" "" Json.asText,
    ← Json.optional r "variations" .empty (Json.asDict Variation.ofJson?)⟩

/-- The JSON form of an update. -/
def Update.toJson (u : Update) : Json :=
  .obj ([("trigger_name", .str u.triggerName), ("url", .str u.url),
    ("received_from", u.receivedFrom.toJson)] ++ u.content.jsonFields)

/-- The update of a JSON form. -/
def Update.ofJson? : Json → Decoded Update
  | .obj fields => do
    let r ← (Json.obj fields).record (["trigger_name", "url", "received_from"] ++ Content.fieldNames)
    return ⟨← Json.optional r "trigger_name" "" Json.asText, ← Json.optional r "url" "" Json.asText,
      ← Json.optional r "received_from" ⟨"", ""⟩ Locator.ofJson?, ← Content.ofRecord r⟩
  | _ => .error .form

end TicketSync
