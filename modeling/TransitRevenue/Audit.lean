import TransitRevenue.Json.Write
/-!
Audit events: what the engine changed, for the audit trail.

An event names its action (`forecast.upsert`, …), the kind and identifier of the entity it
touched, the entity's new values as plain data, the user who asked for it, and when it happened.
Its message lists those six fields in that order, the moment as `isoText`. On the wire the
message is JSON in the conventional one-line form: `", "` and `": "` between items, every
character outside printable ASCII escaped, doubles in standard text (`NaN`, `Infinity` for the
non-finite), and any moment inside the values written as `spacedText`.
-/

namespace TransitRevenue

/-- A change made by the engine. -/
structure AuditEvent where
  action : String
  /-- The kind of entity touched; events from the engine always name it with a text. -/
  entityType : Value
  entityId : Value := .null
  newValues : Value := .obj []
  userId : Value := .null
  createdAt : Moment
  deriving Inhabited

namespace AuditEvent

/-- The event's message. -/
def message (e : AuditEvent) : Value :=
  .obj [("action", .str e.action), ("entity_type", e.entityType), ("entity_id", e.entityId),
    ("new_values", e.newValues), ("user_id", e.userId), ("created_at", .str e.createdAt.isoText)]

/-- The JSON form of messages on the wire. -/
def wireStyle : Json.Style where
  indent := none
  itemSep := ", "
  keySep := ": "
  asciiOnly := true
  floats := { Layout.standard with nan := "NaN", inf := "Infinity", negInf := "-Infinity" }
  dateText := Date.iso
  timeText := Moment.spacedText
  identText := fun _ => "ObjectId"

/-- The message as wire text. -/
def payload (e : AuditEvent) : String := wireStyle.write e.message

end AuditEvent

end TransitRevenue
