import Alerting.Event.Basic
import Alerting.Json.Printer
import Alerting.Json.Shape.Reader
import Alerting.Pattern.Compiled
import Alerting.Text.Basic

/-!
# Filters

A filter names a label and gives a pattern for its whole text. An event without the label does not
pass.
-/

namespace Alerting

open Pattern

/-- A label by its name, and a pattern for its text. -/
structure Filter where
  name : String
  pattern : String
  /-- What the pattern stands for. -/
  regex : Regex
  regex_eq : Regex.ofPattern pattern = .ok regex

structure InvalidFilter where
  name : String
  pattern : String
  refusal : Refusal
  deriving DecidableEq

def InvalidFilter.message (e : InvalidFilter) : String :=
  "invalid filter " ++ e.name ++ "=" ++ Text.quoted e.pattern

namespace Filter

def of (name pattern : String) : Except InvalidFilter Filter :=
  match h : Regex.ofPattern pattern with
  | .ok r => .ok ⟨name, pattern, r, h⟩
  | .error e => .error ⟨name, pattern, e⟩

theorem eq_of {f g : Filter} (hn : f.name = g.name) (hp : f.pattern = g.pattern) : f = g := by
  obtain ⟨name, pattern, r, hr⟩ := f
  obtain ⟨name', pattern', r', hr'⟩ := g
  subst hn hp
  have : r = r' := Except.ok.inj (hr.symm.trans hr')
  subst this
  rfl

instance : DecidableEq Filter := fun f g =>
  if h : f.name = g.name ∧ f.pattern = g.pattern then .isTrue (eq_of h.1 h.2)
  else .isFalse fun e => h (e ▸ ⟨rfl, rfl⟩)

/-- The event has the label, and the pattern matches its whole text. -/
def handles (f : Filter) (e : Event) : Bool :=
  match e.label? f.name with
  | some value => f.regex.matchesIn value.toList
  | none => false

/-! ## As JSON -/

def toJson (f : Filter) : Json := .object [("name", .text f.name), ("value", .text f.pattern)]

/-- The text of a member that the shape requires. -/
def member (name : String) (found : List (String × Json)) : String :=
  ((found.lookup name).bind Json.text?).getD ""

/-- What a filter is refused for once both of its texts were read. -/
def problem (found : List (String × Json)) : Option String :=
  match of (member "name" found) (member "value" found) with
  | .ok _ => none
  | .error e => some e.message

/-- A name and a pattern, both required. -/
def shape : Json.Shape := .record ["name", "value"] (fun _ => .anyText) ["name", "value"] problem

def ofJson? (j : Json) : Option Filter :=
  match j with
  | .object found => (of (member "name" found) (member "value" found)).toOption
  | _ => none

end Filter

end Alerting
