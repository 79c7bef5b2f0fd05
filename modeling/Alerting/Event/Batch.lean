import Alerting.Event.Basic
import Alerting.Text.Basic

/-!
# Batches

One line of input is one batch: a list of events, or else one event. A blank line is no batch. The
value is read in full before it is fitted, so everything in it is checked; what stands behind it is
looked at last.
-/

namespace Alerting.Batch

/-- What is said of a line that is JSON but neither a list of events nor an event. -/
def mismatch : Json.Fault :=
  .mismatch (some "data did not match any variant of untagged enum Batch")

/-- The events of a value: of a list of events all of them, and else the one that the value is. -/
def ofJson? (j : Json) : Option (List Draft) :=
  match (Json.Shape.list Draft.shape).fit .refused j with
  | .ok fitted => some (fitted.items.map Draft.ofJson)
  | .error _ =>
    match Draft.shape.fit .refused j with
    | .ok fitted => some [Draft.ofJson fitted]
    | .error _ => none

/-- Reads a value in full and then takes it as a batch, before what follows it is looked at. -/
def read (fuel : Nat) : Json.Reader (List Draft) := fun cs =>
  match Json.anyValue fuel Json.depthLimit cs with
  | .error e => .error e
  | .ok (j, rest) =>
    match ofJson? j with
    | some drafts => .ok (drafts, rest)
    | none => .error mismatch

/-- The batch of a line, or none for a blank line. -/
def ofLine (line : String) : Except Json.Fault (Option (List Draft)) :=
  match Text.trim line.toList with
  | [] => .ok none
  | cs => (Json.whole read cs).map some

/-- The fault of a line in words, with places counted in the line without the blanks around it. -/
def describe (line : String) (fault : Json.Fault) : String :=
  fault.describe (Text.trim line.toList)

end Alerting.Batch
