import Alerting.Event.Basic
import Alerting.Fingerprint.Codec
import Alerting.Rule.Basic

/-!
# Reports

What is told about the work of an aggregator: why a request comes to nothing, what has happened so
far in numbers of 64 bits that start again from zero, and what a receiver is told about an
aggregation, with what it may answer.
-/

namespace Alerting

/-! ## Rejections -/

/-- Why a request comes to nothing. -/
inductive Rejection where
  | noRules
  /-- There is nobody left to do it. -/
  | closed
  deriving DecidableEq

def Rejection.describe : Rejection → String
  | .noRules => "no aggregation rules configured"
  | .closed => "aggregator is closed"

abbrev Reply := Except Rejection Unit

/-! ## Counters -/

structure Counters where
  received : UInt64 := 0
  unmatched : UInt64 := 0
  created : UInt64 := 0
  evicted : UInt64 := 0
  /-- The number of aggregations when a batch or a sweep last ended. -/
  active : UInt64 := 0
  sent : UInt64 := 0
  deferred : UInt64 := 0
  dropped : UInt64 := 0
  sweeps : UInt64 := 0
  deriving DecidableEq

/-- The counters with their names, in the order in which they are reported. -/
def Counters.toList (c : Counters) : List (String × UInt64) :=
  [("events_received", c.received), ("events_unmatched", c.unmatched),
   ("aggregations_created", c.created), ("aggregations_evicted", c.evicted),
   ("aggregations_active", c.active), ("notifications_sent", c.sent),
   ("notifications_deferred", c.deferred), ("notifications_dropped", c.dropped),
   ("sweeps", c.sweeps)]

/-! ## Notifications -/

/-- Why a notification failed. -/
inductive Failure where
  /-- It may be tried again. -/
  | retryable (message : String)
  /-- It would never succeed. -/
  | permanent (message : String)
  deriving DecidableEq

namespace Failure

def describe : Failure → String
  | .retryable message => "retryable notification failure: " ++ message
  | .permanent message => "permanent notification failure: " ++ message

def isRetryable : Failure → Bool
  | .retryable _ => true
  | .permanent _ => false

end Failure

/-- A receiver's answer: success, or why it failed. -/
abbrev Answer := Except Failure Unit

namespace Answer

def isSuccess : Answer → Bool
  | .ok () => true
  | .error _ => false

def isRetryable : Answer → Bool
  | .ok () => false
  | .error failure => failure.isRetryable

def isPermanent : Answer → Bool
  | .ok () => false
  | .error failure => !failure.isRetryable

end Answer

/-- What a receiver is told: the rule that owns the aggregation, its fingerprint, and its events
from the oldest on. -/
structure Summary where
  rule : SharedRule
  fingerprint : Fingerprint
  events : List Event
  deriving DecidableEq

def Summary.toJson (s : Summary) : Json :=
  .object
    [("rule", s.rule.rule.toJson), ("fingerprint", s.fingerprint.toJson),
     ("events", Event.listToJson s.events)]

end Alerting
