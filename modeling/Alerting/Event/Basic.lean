import Alerting.Fingerprint.Codec
import Alerting.Json.Printer
import Alerting.Json.Shape.Reader
import Alerting.Time.Codec
import Alerting.Time.Instant

/-!
# Events

An event is one occurrence that a producer reports. Its labels identify it: rules look at nothing
else, and two events with the same labels have the same fingerprint whatever else they say.

As JSON every member of an event may be left out. An event without a time is dated when it is
received, so reading gives a draft, which becomes an event at an instant.
-/

namespace Alerting

structure Event where
  summary : String := ""
  description : String := ""
  /-- What rules match and the fingerprint is computed from. -/
  labels : TextMap := ∅
  payload : TextMap := ∅
  createdAt : Instant
  deriving DecidableEq

namespace Event

def label? (e : Event) (name : String) : Option String := e.labels.get? name

def fingerprint (e : Event) : Fingerprint := .ofLabels e.labels

def withPayload (e : Event) (name value : String) : Event :=
  { e with payload := e.payload.insert name value }

end Event

/-! ## As JSON -/

/-- An event as it was sent, perhaps without a time. -/
structure Draft where
  summary : String
  description : String
  labels : TextMap
  payload : TextMap
  createdAt : Option Instant
  deriving DecidableEq

namespace Draft

/-- The event that a draft stands for when it is received at `now`. -/
def dated (d : Draft) (now : Instant) : Event :=
  ⟨d.summary, d.description, d.labels, d.payload, d.createdAt.getD now⟩

/-- What JSON text of an event is asked for. -/
def shape : Json.Shape :=
  .record ["summary", "description", "labels", "payload", "created_at"]
    (fun name =>
      if name = "labels" ∨ name = "payload" then .texts
      else if name = "created_at" then .text fun s => (Instant.ofString? s).isSome
      else .anyText)
    [] (fun _ => none)

/-- The text of a member, empty if there is none. -/
def textOf (name : String) (j : Json) : String := ((j.member? name).bind Json.text?).getD ""

/-- The texts of a member, of repeated names the last one. -/
def textsOf (name : String) (j : Json) : TextMap :=
  .ofList (((j.member? name).map Json.texts).getD [])

/-- The draft that a value of the shape writes. -/
def ofJson (j : Json) : Draft :=
  { summary := textOf "summary" j
    description := textOf "description" j
    labels := textsOf "labels" j
    payload := textsOf "payload" j
    createdAt := ((j.member? "created_at").bind Json.text?).bind Instant.ofString? }

def ofString (text : String) : Except Json.Fault Draft := (shape.ofString text).map ofJson

end Draft

namespace Event

def toJson (e : Event) : Json :=
  .object
    [("summary", .text e.summary), ("description", .text e.description),
     ("labels", .ofTexts e.labels.entries), ("payload", .ofTexts e.payload.entries),
     ("created_at", .text e.createdAt.toText)]

def listToJson (events : List Event) : Json := .list (events.map toJson)

end Event

end Alerting
