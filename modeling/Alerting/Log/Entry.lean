import Alerting.Report

/-!
# Log entries

What is told in the log, each with its level, the component that tells it, and its fields. Events
that no rule claims are not told.
-/

namespace Alerting.Log

/-- How much an entry matters, from the most to the least. -/
inductive Level where
  | error
  | warn
  | info
  | debug
  | trace
  deriving DecidableEq

namespace Level

/-- The place of a level, from one for the most important. -/
def rank : Level → Nat
  | .error => 1
  | .warn => 2
  | .info => 3
  | .debug => 4
  | .trace => 5

def name : Level → String
  | .error => "ERROR"
  | .warn => "WARN"
  | .info => "INFO"
  | .debug => "DEBUG"
  | .trace => "TRACE"

instance : LE Level := ⟨fun a b => a.rank ≤ b.rank⟩

instance (a b : Level) : Decidable (a ≤ b) := Nat.decLe _ _

end Level

inductive Value where
  /-- A text, told in quotes where the form has quotes. -/
  | text (s : String)
  /-- A text, told as it is. -/
  | shown (s : String)
  | number (n : Nat)
  deriving DecidableEq

def Value.toText : Value → String
  | .text s => s
  | .shown s => s
  | .number n => toString n

inductive Entry where
  /-- A batch with so many events is being routed. -/
  | batchStarted (events : Nat)
  | created (fingerprint : Fingerprint) (rule : SharedRule)
  | counted (counter : String)
  | sent (fingerprint : Fingerprint) (events : Nat)
  | deferred (fingerprint : Fingerprint) (failure : Failure)
  | dropped (fingerprint : Fingerprint) (failure : Failure)
  | notification (summary : Summary)
  | rulesReplaced (rules : Nat)
  | swept (active evicted : Nat)
  /-- The dispatcher has started, with so many milliseconds between two sweeps. -/
  | started (interval : Nat)
  | stopped (active : Nat)
  | flushed (counters : Counters)
  | rulesLoaded (rules : Nat) (path : String)
  | lineSkipped (reason : String)
  | batchRejected (rejection : Rejection)
  | inputClosed
  deriving DecidableEq

namespace Entry

def level : Entry → Level
  | .counted _ => .trace
  | .batchStarted _ | .deferred _ _ | .swept _ _ => .debug
  | .dropped _ _ | .lineSkipped _ | .batchRejected _ => .warn
  | .created _ _ | .sent _ _ | .notification _ | .rulesReplaced _ | .started _ | .stopped _
  | .flushed _ | .rulesLoaded _ _ | .inputClosed => .info

/-- The component that tells an entry. -/
def target : Entry → String
  | .batchStarted _ | .started _ => "alertagg_core::aggregator"
  | .created _ _ | .sent _ _ | .deferred _ _ | .dropped _ _ | .rulesReplaced _ | .swept _ _
  | .stopped _ => "alertagg_core::obs"
  | .counted _ | .flushed _ => "alertagg_core::metrics"
  | .notification _ => "alertagg_core::sink"
  | .rulesLoaded _ _ | .lineSkipped _ | .batchRejected _ | .inputClosed => "alertaggd"

/-- What an entry says in words, besides its fields. -/
def message? : Entry → Option String
  | .batchStarted _ => some "aggregating batch"
  | .counted _ => some "counter incremented"
  | .started _ => some "aggregator started"
  | .rulesLoaded _ _ => some "rules loaded"
  | .lineSkipped _ => some "skipping malformed line"
  | .batchRejected _ => some "batch rejected"
  | .inputClosed => some "stdin closed"
  | _ => none

/-- The name of an entry as a field, for those that have one. -/
def named (name : String) (fields : List (String × Value)) : List (String × Value) :=
  ("event", .text name) :: fields

def fields : Entry → List (String × Value)
  | .batchStarted events => [("events", .number events)]
  | .created f rule =>
    named "aggregation.created"
      [("fingerprint", .shown f.hex), ("rule", .shown rule.rule.displayName)]
  | .counted counter => [("metric", .text counter)]
  | .sent f events =>
    named "notification.sent" [("fingerprint", .shown f.hex), ("events", .number events)]
  | .deferred f failure =>
    named "notification.deferred"
      [("fingerprint", .shown f.hex), ("error", .shown failure.describe)]
  | .dropped f failure =>
    named "notification.dropped"
      [("fingerprint", .shown f.hex), ("error", .shown failure.describe)]
  | .notification s =>
    named "notification"
      [("rule", .shown s.rule.rule.displayName), ("fingerprint", .shown s.fingerprint.hex),
       ("count", .number s.events.length), ("events", .shown (Event.listToJson s.events).compact)]
  | .rulesReplaced rules => named "rules.replaced" [("count", .number rules)]
  | .swept active evicted =>
    named "sweep.completed" [("active", .number active), ("evicted", .number evicted)]
  | .started interval => [("sweep_interval_ms", .number interval)]
  | .stopped active => named "aggregator.stopped" [("active", .number active)]
  | .flushed counters =>
    ("metric", .text "flush") :: counters.toList.map fun c => (c.1, .number c.2.toNat)
  | .rulesLoaded rules path => [("rules", .number rules), ("path", .shown path)]
  | .lineSkipped reason => [("error", .shown reason)]
  | .batchRejected rejection => [("error", .shown rejection.describe)]
  | .inputClosed => []

end Entry

end Alerting.Log
