import Alerting.Json.Printer
import Alerting.Json.Shape
import Alerting.Rule.Basic

/-!
# Rules files

The settings of an aggregator, all of which may be left out, and its rules, of which the first that
claims an event owns it.
-/

namespace Alerting

/-! ## Settings -/

structure Settings where
  /-- Seconds between two sweeps. -/
  sweepInterval : UInt64 := 1
  /-- Seconds that an aggregation without events stays after the last one came in. -/
  evictionGrace : UInt64 := 300
  /-- How many requests of one kind may wait. -/
  requestBuffer : UInt64 := 1
  deriving DecidableEq

namespace Settings

def toJson (s : Settings) : Json :=
  .object
    [("sweep_interval_secs", .natural s.sweepInterval.toNat),
     ("eviction_grace_secs", .natural s.evictionGrace.toNat),
     ("request_buffer", .natural s.requestBuffer.toNat)]

/-- Three numbers, all of them optional. -/
def shape : Json.Shape :=
  .record ["sweep_interval_secs", "eviction_grace_secs", "request_buffer"] (fun _ => .natural) []
    (fun _ => none)

def ofJson (j : Json) : Settings :=
  let default : Settings := {}
  { sweepInterval := j.wordOr "sweep_interval_secs" default.sweepInterval
    evictionGrace := j.wordOr "eviction_grace_secs" default.evictionGrace
    requestBuffer := j.wordOr "request_buffer" default.requestBuffer }

end Settings

/-! ## Files -/

structure RulesFile where
  settings : Settings := {}
  rules : List Rule := []
  deriving DecidableEq

namespace RulesFile

def toJson (f : RulesFile) : Json :=
  .object [("aggregator", f.settings.toJson), ("rules", .list (f.rules.map Rule.toJson))]

/-- Settings and rules, both optional. -/
def shape : Json.Shape :=
  .record ["aggregator", "rules"]
    (fun name => if name = "aggregator" then Settings.shape else .list Rule.shape)
    [] (fun _ => none)

def ofJson (j : Json) : RulesFile :=
  { settings := ((j.member? "aggregator").map Settings.ofJson).getD {}
    rules := ((j.member? "rules").map fun rules => rules.items.map Rule.ofJson).getD [] }

def ofString (text : String) : Except Json.Fault RulesFile := (shape.ofString text).map ofJson

end RulesFile

end Alerting
