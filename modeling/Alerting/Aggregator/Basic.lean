import Alerting.Aggregation

/-!
# The aggregator

An aggregator has a list of rules and at most one aggregation for each fingerprint. An event goes to
the aggregation of its fingerprint, which notifies at once. Events that no rule claims are dropped.
What is done with an aggregator is also there as a value, so that a run is a list of operations.
-/

namespace Alerting

abbrev Table := List (Fingerprint × Aggregation)

namespace Table

def get? (t : Table) (f : Fingerprint) : Option Aggregation := t.lookup f

def put (f : Fingerprint) (a : Aggregation) : Table → Table
  | [] => [(f, a)]
  | entry :: rest => if entry.1 = f then (f, a) :: rest else entry :: put f a rest

theorem get?_put (f g : Fingerprint) (a : Aggregation) (t : Table) :
    (put f a t).get? g = if g = f then some a else t.get? g := by
  unfold get?
  induction t with
  | nil => simp [put, lookup_cons]
  | cons entry rest ih =>
    unfold put
    split
    · rename_i h
      simp only [lookup_cons, h]
      split <;> rfl
    · rename_i h
      simp only [lookup_cons, ih]
      by_cases hg : g = entry.1
      · subst hg
        simp [h]
      · simp [hg]

end Table

/-- Rules, aggregations and what has been counted. -/
structure Aggregator where
  rules : List SharedRule := []
  table : Table := []
  /-- How long an aggregation stays after its last event came in. -/
  grace : Span
  counters : Counters := {}

structure Turn (σ α : Type) where
  aggregator : Aggregator
  receiver : σ
  effects : List Effect
  result : α

namespace Aggregator

def new (grace : Span) : Aggregator := { grace := grace.grace }

/-- When an aggregation ends that takes an event at `now`. -/
def deadline (g : Aggregator) (now : Instant) : Instant := now.addCapped g.grace

/-! ## Events -/

/-- An aggregator whose event has landed, and the aggregation that it landed in. -/
structure Landing where
  aggregator : Aggregator
  aggregation : Aggregation
  log : List Log.Entry

/-- The aggregation of a fingerprint, which is opened for `rule` if there is none. -/
def reach (g : Aggregator) (f : Fingerprint) (rule : SharedRule) (now : Instant) : Landing :=
  match g.table.get? f with
  | some a => ⟨g, a, []⟩
  | none =>
    ⟨{ g with counters := { g.counters with created := g.counters.created + 1 } },
      .opened f rule now, [.created f rule, .counted "aggregations_created"]⟩

/-- Puts a claimed event into the aggregation of its fingerprint. -/
def land (g : Aggregator) (rule : SharedRule) (now : Instant) (e : Event) : Landing :=
  let reached := g.reach e.fingerprint rule now
  let a := (reached.aggregation.ingest e).extend (g.deadline now)
  let g := reached.aggregator
  ⟨{ g with table := g.table.put e.fingerprint a }, a, reached.log⟩

def countSending (c : Counters) : Sending → Counters
  | .skipped => c
  | .delivered => { c with sent := c.sent + 1 }
  | .deferred => { c with deferred := c.deferred + 1 }
  | .dropped => { c with dropped := c.dropped + 1 }

/-- What the log tells when an attempt to send is counted. -/
def countedEntries : Sending → List Log.Entry
  | .delivered => [.counted "notifications_sent"]
  | _ => []

/-- Puts the aggregation of a fingerprint back after an attempt to send. -/
def settle {σ : Type} (g : Aggregator) (f : Fingerprint) (attempt : Aggregation.Attempt σ) :
    Aggregator :=
  { g with
    table := g.table.put f attempt.aggregation
    counters := countSending g.counters attempt.sending }

def take {σ : Type} (r : Receiver σ) (now : Instant) (g : Aggregator) (w : σ) (e : Event) :
    Turn σ Unit :=
  match SharedRule.firstMatch? g.rules e with
  | none =>
    ⟨{ g with counters := { g.counters with unmatched := g.counters.unmatched + 1 } }, w, [], ()⟩
  | some rule =>
    let landing := g.land rule now e
    let attempt := landing.aggregation.send r w
    { aggregator := landing.aggregator.settle e.fingerprint attempt
      receiver := attempt.receiver
      effects := landing.log.map .log ++ attempt.effects ++
        (countedEntries attempt.sending).map .log
      result := () }

def takeAll {σ : Type} (r : Receiver σ) (now : Instant) :
    Aggregator → σ → List Event → Turn σ Unit
  | g, w, [] => ⟨g, w, [], ()⟩
  | g, w, e :: rest =>
    let first := g.take r now w e
    let others := takeAll r now first.aggregator first.receiver rest
    { others with effects := first.effects ++ others.effects }

def gauge (g : Aggregator) : Aggregator :=
  { g with counters := { g.counters with active := UInt64.ofNat g.table.length } }

/-! ## Operations -/

/-- Routes a batch to its aggregations. Without rules the batch is rejected and nothing happens. -/
def aggregate {σ : Type} (r : Receiver σ) (now : Instant) (events : List Event) (g : Aggregator)
    (w : σ) : Turn σ Reply :=
  if g.rules.isEmpty then ⟨g, w, [], .error .noRules⟩
  else
    let counters := { g.counters with received := g.counters.received + UInt64.ofNat events.length }
    let taken := takeAll r now { g with counters } w events
    { aggregator := taken.aggregator.gauge
      receiver := taken.receiver
      effects := .log (.batchStarted events.length) :: taken.effects
      result := .ok () }

/-- Takes another list of rules. The aggregations keep theirs. -/
def replaceRules (rules : List SharedRule) (g : Aggregator) : Aggregator := { g with rules }

/-- The table after a sweep: every aggregation is tidied, and those that have ended are gone. -/
def sweptTable (now : Instant) (t : Table) : Table :=
  (t.map fun entry => (entry.1, entry.2.tidy now)).filter fun entry => ¬entry.2.IsExpired now

def evictions (now : Instant) (g : Aggregator) : Nat :=
  g.table.length - (sweptTable now g.table).length

/-- Tidies every aggregation and evicts those that have ended. -/
def sweep (now : Instant) (g : Aggregator) : Aggregator :=
  let c := g.counters
  let swept := { g with
    table := sweptTable now g.table
    counters := { c with
      sweeps := c.sweeps + 1
      evicted := c.evicted + UInt64.ofNat (g.evictions now) } }
  swept.gauge

end Aggregator

/-! ## Operations as values -/

inductive Operation where
  | aggregate (events : List Event) (now : Instant)
  | replaceRules (rules : List SharedRule)
  | sweep (now : Instant)

inductive Outcome where
  | replied (reply : Reply)
  | swept (evicted : Nat)

namespace Aggregator

def perform {σ : Type} (r : Receiver σ) (g : Aggregator) (w : σ) : Operation → Turn σ Outcome
  | .aggregate events now =>
    let turn := g.aggregate r now events w
    ⟨turn.aggregator, turn.receiver, turn.effects, .replied turn.result⟩
  | .replaceRules rules =>
    ⟨g.replaceRules rules, w, [.log (.rulesReplaced rules.length)], .replied (.ok ())⟩
  | .sweep now =>
    let swept := g.sweep now
    ⟨swept, w, [.log (.swept swept.table.length (g.evictions now))], .swept (g.evictions now)⟩

def performAll {σ : Type} (r : Receiver σ) :
    Aggregator → σ → List Operation → Turn σ (List Outcome)
  | g, w, [] => ⟨g, w, [], []⟩
  | g, w, op :: rest =>
    let first := g.perform r w op
    let others := performAll r first.aggregator first.receiver rest
    { others with
      effects := first.effects ++ others.effects
      result := first.result :: others.result }

end Aggregator

end Alerting
