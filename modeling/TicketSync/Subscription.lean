import TicketSync.Instant
import TicketSync.Json.Decoding

/-! Subscriptions: the registration of a trigger's webhook with a tracker. The tracker's reference
is absent until the tracker has confirmed the registration. -/
namespace TicketSync

/-- A trigger's webhook at a tracker. -/
structure Subscription where
  id : String := ""
  trackerRef : Option String := none
  trackerName : String
  triggerName : String
  baseUrl : String
  createdAt : Instant
  deriving DecidableEq, Repr, Inhabited

namespace Subscription

/-- The address that the tracker calls back: the id below the base address. -/
def url (s : Subscription) : String :=
  Text.dropEnd '/' s.baseUrl ++ "/" ++ s.id

/-- The fields of the JSON form without the time of creation. The reference is left out when it is
absent. -/
def plainFields (s : Subscription) : List (String × Json) :=
  [("id", .str s.id)] ++ (s.trackerRef.map fun r => ("tracker_ref", .str r)).toList ++
    [("tracker_name", .str s.trackerName), ("trigger_name", .str s.triggerName),
      ("base_url", .str s.baseUrl)]

/-- The JSON form. -/
def toJson (s : Subscription) : Json :=
  .obj (s.plainFields ++ [("created_at", .str s.createdAt.toText)])

/-- An instant written as text. -/
def asInstant : Json → Decoded Instant
  | .str s =>
    match Instant.parse? s with
    | some i => .ok i
    | none => .error .form
  | _ => .error .form

/-- The subscription of a JSON form. -/
def ofJson? (v : Json) : Decoded Subscription := do
  let r ← v.record ["id", "tracker_ref", "tracker_name", "trigger_name", "base_url", "created_at"]
  return {
    id := ← Json.optional r "id" "" Json.asText
    trackerRef := ← Json.optional r "tracker_ref" none (Json.asOption Json.asText)
    trackerName := ← Json.required r "tracker_name" Json.asText
    triggerName := ← Json.required r "trigger_name" Json.asText
    baseUrl := ← Json.required r "base_url" Json.asText
    createdAt := ← Json.required r "created_at" asInstant }

/-- The order of subscriptions in lists: by the time of creation, then by id. -/
def listedBefore (s t : Subscription) : Bool :=
  s.createdAt.before t.createdAt || (s.createdAt = t.createdAt && decide (s.id < t.id))

end Subscription
end TicketSync
