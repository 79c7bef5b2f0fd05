import Alerting.Log.Filter
import Alerting.Text.Basic

/-!
# Writing the log

A line of the log is an entry with the span that it is told in, if that can be seen. It is written
as text or as a JSON object.
-/

namespace Alerting.Log

/-- An entry as it is told. -/
structure Line where
  /-- Whether the dispatcher tells it. -/
  within : Bool
  entry : Entry
  deriving DecidableEq

namespace Line

/-- The span of a line, if it can be seen. -/
def span? (f : Filter) (l : Line) : Option String :=
  if l.within ∧ f.showsSpan then some dispatchSpan else none

def passes (f : Filter) (l : Line) : Bool := f.passes l.within l.entry

def valueText : Value → String
  | .text s => Text.quoted s
  | .shown s => s
  | .number n => toString n

/-- A level in a line of text, in five columns. -/
def levelText (level : Level) : String :=
  String.ofList (List.replicate (5 - level.name.length) ' ') ++ level.name

/-- The line as text, without its time: level, span, words and fields. -/
def toText (f : Filter) (l : Line) : String :=
  let span := match l.span? f with
    | some name => [name ++ ":"]
    | none => []
  let fields := l.entry.fields.map fun field => field.1 ++ "=" ++ valueText field.2
  " ".intercalate (levelText l.entry.level :: span ++ l.entry.message?.toList ++ fields)

def valueJson : Value → Json
  | .text s => .text s
  | .shown s => .text s
  | .number n => .natural n

/-- The fields of a line in JSON, its words included. -/
def fieldsJson (e : Entry) : Json :=
  .object ((e.message?.toList.map fun m => ("message", .text m)) ++
    e.fields.map fun field => (field.1, valueJson field.2))

/-- The members of a line in JSON, without its time. -/
def members (f : Filter) (l : Line) : List (String × Json) :=
  let span := match l.span? f with
    | some name =>
      let named := Json.object [("name", .text name)]
      [("span", named), ("spans", .list [named])]
    | none => []
  [("level", .text l.entry.level.name), ("fields", fieldsJson l.entry)] ++ span

/-- The line as it is written at a time. -/
def print (f : Filter) (json : Bool) (now : Instant) (l : Line) : String :=
  if json then (Json.object (("timestamp", .text now.stamp) :: l.members f)).compact
  else now.stamp ++ " " ++ l.toText f

end Line

end Alerting.Log
