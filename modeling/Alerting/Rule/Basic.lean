import Alerting.Rule.Filter

/-!
# Rules

A rule claims the events that pass all of its filters; one without filters claims every event. Of a
list of rules the first one that claims an event owns it. A rule that is installed is an object that
aggregations go on to refer to after the list it came in was replaced.
-/

namespace Alerting

/-- Which events are claimed, and how often a notification may be repeated. The rate is kept for
configuration and reports only: one aggregation sends at most once. -/
structure Rule where
  name : Option String := none
  filters : List Filter := []
  /-- Seconds between repeated notifications: two hours, unless the rule gives them. -/
  repeatRate : UInt64 := 7200
  deriving DecidableEq

namespace Rule

def handles (r : Rule) (e : Event) : Bool := r.filters.all (·.handles e)

/-- The name of the rule, or else its filters. -/
def displayName (r : Rule) : String :=
  match r.name with
  | some name => name
  | none =>
    if r.filters.isEmpty then "*"
    else ",".intercalate (r.filters.map fun f => f.name ++ "=~" ++ f.pattern)

/-- The place of the first rule that claims the event. -/
def firstIndex? (rules : List Rule) (e : Event) : Option Nat := rules.findIdx? (·.handles e)

/-! ## As JSON -/

/-- The members of a rule, in their order; a rule without a name has no member for it. -/
def toJson (r : Rule) : Json :=
  let name := match r.name with
    | some name => [("name", .text name)]
    | none => []
  .object (name ++
    [("filters", .list (r.filters.map Filter.toJson)),
     ("repeat_rate_secs", .natural r.repeatRate.toNat)])

/-- A rule, all of it optional. -/
def shape : Json.Shape :=
  .record ["name", "filters", "repeat_rate_secs"]
    (fun name =>
      if name = "filters" then .list Filter.shape
      else if name = "repeat_rate_secs" then .natural
      else .optional .anyText)
    [] (fun _ => none)

/-- The rule without a name that claims every event. -/
def catchAll : Rule := {}

def ofJson (j : Json) : Rule :=
  { name := (j.member? "name").bind Json.text?
    filters := (((j.member? "filters").map Json.items).getD []).filterMap Filter.ofJson?
    repeatRate := j.wordOr "repeat_rate_secs" catchAll.repeatRate }

def ofString (text : String) : Except Json.Fault Rule := (shape.ofString text).map ofJson

end Rule

/-! ## Shared rules -/

/-- A rule as one object among equal ones. -/
structure SharedRule where
  token : Nat
  rule : Rule
  deriving DecidableEq

namespace SharedRule

def firstMatch? (rules : List SharedRule) (e : Event) : Option SharedRule :=
  rules.find? (·.rule.handles e)

/-- The rules of a list as objects of their own, with the tokens from `first` on. -/
def number (first : Nat) : List Rule → List SharedRule
  | [] => []
  | r :: rest => ⟨first, r⟩ :: number (first + 1) rest

end SharedRule

end Alerting
