import Alerting.Receiver

/-!
# Aggregations

An aggregation gathers the events of one fingerprint and sends one notification about them. The rule
that claimed its first event owns it for good. Once it has sent, it never sends again.
-/

namespace Alerting

/-- Whether the notification of an aggregation is still to be sent. -/
inductive Dispatch where
  | unsent
  | sent
  deriving DecidableEq

inductive Sending where
  /-- It had been sent before; the receiver was not called. -/
  | skipped
  | delivered
  /-- It failed and may be tried again. -/
  | deferred
  /-- It failed for good and counts as sent. -/
  | dropped
  deriving DecidableEq

def Sending.ofAnswer : Answer → Sending
  | .ok () => .delivered
  | .error failure => if failure.isRetryable then .deferred else .dropped

/-- The events of one fingerprint. -/
structure Aggregation where
  fingerprint : Fingerprint
  rule : SharedRule
  /-- The events in the order in which they came. -/
  events : List Event := []
  /-- When it may be evicted once it has no events. -/
  endsAt : Instant
  dispatch : Dispatch := .unsent
  deriving DecidableEq

namespace Aggregation

def opened (f : Fingerprint) (rule : SharedRule) (now : Instant) : Aggregation :=
  { fingerprint := f, rule := rule, endsAt := now }

/-- Adds an event, even one that it has already. -/
def ingest (a : Aggregation) (e : Event) : Aggregation := { a with events := a.events ++ [e] }

/-- Puts the end off to `deadline`, unless it is later already. -/
def extend (a : Aggregation) (deadline : Instant) : Aggregation :=
  { a with endsAt := a.endsAt.later deadline }

/-- Keeps the events that are dated after `now`. If that leaves none of them, there is nothing to
send any more. -/
def tidy (a : Aggregation) (now : Instant) : Aggregation :=
  if a.events.isEmpty then a
  else
    let kept := a.events.filter fun e => now < e.createdAt
    { a with events := kept, dispatch := if kept.isEmpty then .sent else a.dispatch }

def IsExpired (a : Aggregation) (now : Instant) : Prop := a.events = [] ∧ a.endsAt ≤ now

instance (a : Aggregation) (now : Instant) : Decidable (a.IsExpired now) :=
  inferInstanceAs (Decidable (_ ∧ _))

def summary (a : Aggregation) : Summary := ⟨a.rule, a.fingerprint, a.events⟩

/-! ## Sending -/

/-- The aggregation after an answer: only a failure that may be tried again leaves it unsent. -/
def settle (a : Aggregation) (answer : Answer) : Aggregation :=
  if Sending.ofAnswer answer = .deferred then a else { a with dispatch := .sent }

structure Attempt (σ : Type) where
  aggregation : Aggregation
  receiver : σ
  sending : Sending
  effects : List Effect

/-- Hands all events to the receiver, unless the notification was sent before. -/
def send {σ : Type} (a : Aggregation) (r : Receiver σ) (w : σ) : Attempt σ :=
  match a.dispatch with
  | .sent => ⟨a, w, .skipped, []⟩
  | .unsent =>
    let response := r.receive w a.summary
    { aggregation := a.settle response.answer
      receiver := response.receiver
      sending := .ofAnswer response.answer
      effects := .call a.summary response.answer ::
        (response.log ++ [a.summary.verdict response.answer]).map .log }

end Aggregation

end Alerting
