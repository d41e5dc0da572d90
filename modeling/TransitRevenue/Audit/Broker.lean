import TransitRevenue.Audit
import TransitRevenue.Record.Field
/-!
Publishing audit events to a message broker.

The publisher opens its producer at the first publish that finds none, with a fixed configuration
(all replicas acknowledge, three retries, one request in flight); when building it fails, there is
still none, and the next publish tries again. Each event is produced to the configured topic,
keyed by its entity type and carrying its wire payload, and is followed by a poll that runs the
pending delivery reports. A failure of the producer of the kinds the broker client reports (broker
errors, a full buffer, bad arguments) is logged and swallowed; any other failure, and an entity
type that is not a text, escapes. Flushing waits for pending messages; closing flushes with a 10
second limit and drops the producer, so that the next publish opens a new one. Both act only on a
producer that tests true: a broker client's producer tests true while messages wait in its queue,
so an idle one is neither flushed nor dropped, and the next publish reuses it. Every call made on
the producer is kept in the publisher's log.
-/

namespace TransitRevenue

/-- Where and as whom audit events are published. -/
structure BrokerSettings where
  servers : String := "localhost:9092"
  topic : String := "fleetyield-audit"
  clientId : String := "fleetyield-engine"
  deriving Inhabited

namespace BrokerSettings

/-- Broker settings read from their fields. -/
def ofFields (fs : Fields) : Except Issue BrokerSettings := do
  let d : BrokerSettings := {}
  return { servers := ← fs.opt "bootstrap_servers" d.servers Field.str
           topic := ← fs.opt "topic" d.topic Field.str
           clientId := ← fs.opt "client_id" d.clientId Field.str }

/-- The producer configuration for these settings. -/
def producerConfig (b : BrokerSettings) : Value :=
  .obj [("bootstrap.servers", .str b.servers), ("client.id", .str b.clientId), ("acks", .str "all"),
    ("retries", .int 3), ("max.in.flight.requests.per.connection", .int 1)]

end BrokerSettings

/-- A call made on the producer. -/
inductive ProducerCall where
  | opened (config : Value)
  | produced (topic key value : String)
  | polled (delivered : Nat)
  | flushed (timeout : Number) (remaining : Int)
  deriving Inhabited

namespace ProducerCall

/-- A call as data. -/
def toValue : ProducerCall → Value
  | .opened config => .obj [("event", .str "producer"), ("config", config)]
  | .produced topic key value =>
    .obj [("event", .str "produce"), ("topic", .str topic), ("key", .str key), ("value", .str value)]
  | .polled n => .obj [("event", .str "poll"), ("timeout", .int 0), ("delivered", .int n)]
  | .flushed t r => .obj [("event", .str "flush"), ("timeout", Value.ofNumber t), ("remaining", .int r)]

end ProducerCall

/-- The failure kinds the publisher logs and swallows. -/
def swallowedKinds : List String := ["KafkaException", "BufferError", "TypeError", "ValueError"]

/-- A failure injected into the producer: its kind and message, and whether it strikes when the
producer is built rather than at `produce`. -/
structure ProducerFailure where
  kind : String
  text : String
  atOpening : Bool := false

namespace ProducerFailure

/-- What a failure leaves to the publisher's caller: nothing for the kinds it logs and swallows. -/
def escaping (f : ProducerFailure) : Option Fault :=
  if swallowedKinds.contains f.kind then none else some (.producerFailed f.kind f.text)

end ProducerFailure

/-- A publisher of audit events with its producer's state and log. -/
structure Publisher where
  settings : BrokerSettings
  isOpen : Bool := false
  pending : Nat := 0
  log : List ProducerCall := []
  deriving Inhabited

namespace Publisher

/-- A publisher whose producer is open, opening it if needed. -/
def opened (p : Publisher) : Publisher :=
  if p.isOpen then p
  else { p with isOpen := true, log := p.log ++ [.opened p.settings.producerConfig] }

/-- Produce an event on the open producer, keyed by its entity type, and poll; `failure` makes
`produce` fail. -/
def send (p : Publisher) (e : AuditEvent) (failure : Option ProducerFailure) :
    Publisher × Option Fault :=
  let value := e.payload
  match e.entityType with
  | .str key =>
    match failure with
    | some f => (p, f.escaping)
    | none =>
      let call := ProducerCall.produced p.settings.topic key value
      let p := { p with log := p.log ++ [call], pending := p.pending + 1 }
      ({ p with log := p.log ++ [ProducerCall.polled p.pending], pending := 0 }, none)
  | other => (p, some (.noAttribute other.kindName "encode"))

/-- Publish an event, opening the producer if there is none; `failure` makes building the
producer or its `produce` fail. The publisher after the call, and the failure that escaped it,
if any. -/
def publish (p : Publisher) (e : AuditEvent) (failure : Option ProducerFailure := none) :
    Publisher × Option Fault :=
  match failure with
  | some f =>
    if f.atOpening then
      -- building the producer fails only at a publish that builds one
      if p.isOpen then p.send e none else (p, f.escaping)
    else p.opened.send e (some f)
  | none => p.opened.send e none

/-- Wait for pending messages, when there is a producer and it tests true (`truthy`); the
producer reports `remaining` undelivered. -/
def flush (p : Publisher) (timeout : Number) (remaining : Int) (truthy : Bool) : Publisher :=
  if p.isOpen && truthy then { p with log := p.log ++ [.flushed timeout remaining] } else p

/-- Flush with a 10 second limit and drop the producer, when there is one and it tests true
(`truthy`). -/
def close (p : Publisher) (remaining : Int) (truthy : Bool) : Publisher :=
  if p.isOpen && truthy then
    { p with log := p.log ++ [.flushed (.float 10.0) remaining], isOpen := false }
  else p

/-- A call on a publisher, with the producer's part in it: the failure a publish meets, if any,
whether the producer tests true when flushed or closed, and the number of messages a flush leaves
undelivered. -/
inductive Call where
  | publish (e : AuditEvent) (failure : Option ProducerFailure)
  | flush (timeout : Number) (remaining : Int) (truthy : Bool)
  | close (remaining : Int) (truthy : Bool)

/-- Make one call: the publisher after it, and the failure that escaped it, if any. -/
def call (p : Publisher) : Call → Publisher × Option Fault
  | .publish e failure => p.publish e failure
  | .flush timeout remaining truthy => (p.flush timeout remaining truthy, none)
  | .close remaining truthy => (p.close remaining truthy, none)

/-- Make calls in order on one publisher: the publisher after them, and what escaped each. -/
def run (p : Publisher) : List Call → Publisher × List (Option Fault)
  | [] => (p, [])
  | c :: cs =>
    let (q, fault) := p.call c
    let (r, faults) := q.run cs
    (r, fault :: faults)

end Publisher

end TransitRevenue
