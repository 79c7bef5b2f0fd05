import Alerting.Json.Value

/-!
# Shapes

A shape says which values are asked for. A record is written as an object or as a list of its fields
in their order; members of other names are ignored, a field may not be repeated, and a field that is
not required may be left out. A value that fits is kept with its known members only, as an object.

A value that was read in full is fitted by `fit`; `Shape.read` finds the same while it reads.
-/

namespace Alerting.Json

/-- Which values are asked for. -/
inductive Shape where
  /-- A text that passes a test. -/
  | text (accepts : String → Bool)
  /-- A natural number below 2^64. -/
  | natural
  /-- `null`, or a value of a shape. -/
  | optional (s : Shape)
  /-- An object whose members are texts; of repeated names the last one counts. -/
  | texts
  /-- A list of values of one shape. -/
  | list (s : Shape)
  /-- The fields of a record in their order, the shape of each, those that are required, and what
  the whole record is refused for. -/
  | record (fields : List String) (shapeOf : String → Shape) (required : List String)
      (problem : List (String × Json) → Option String)

/-- A value that does not fit, with the reason where a record was refused for it. -/
structure Misfit where
  reason : Option String
  deriving DecidableEq

/-- What becomes of the items of a list beyond the fields of a record. -/
inductive Surplus where
  | refused
  | ignored
  deriving DecidableEq

namespace Shape

def anyText : Shape := .text fun _ => true

/-- The fields of a record that were found, checked as a whole. -/
def close (required : List String) (problem : List (String × Json) → Option String)
    (found : List (String × Json)) : Except Misfit Json :=
  if required.all fun name => (found.lookup name).isSome then
    match problem found with
    | some reason => .error ⟨some reason⟩
    | none => .ok (.object found)
  else .error ⟨none⟩

/-- Members that are all texts. -/
def fitTexts : List (String × Json) → Except Misfit (List (String × Json))
  | [] => .ok []
  | (name, .text s) :: rest => (fitTexts rest).map ((name, .text s) :: ·)
  | _ :: _ => .error ⟨none⟩

/-- Every item fitted by `fit`, in order. -/
def fitItems (fit : Json → Except Misfit Json) : List Json → Except Misfit (List Json)
  | [] => .ok []
  | item :: rest =>
    match fit item with
    | .error e => .error e
    | .ok a => (fitItems fit rest).map (a :: ·)

/-- The members with the names of fields, each fitted once. -/
def fitMembers (fields : List String) (fit : String → Json → Except Misfit Json) :
    List (String × Json) → List (String × Json) → Except Misfit (List (String × Json))
  | found, [] => .ok found.reverse
  | found, (name, value) :: rest =>
    if name ∈ fields then
      if (found.lookup name).isSome then .error ⟨none⟩
      else
        match fit name value with
        | .error e => .error e
        | .ok a => fitMembers fields fit ((name, a) :: found) rest
    else fitMembers fields fit found rest

/-- The items of a list as fields in their order. Missing fields at the end are left out unless one
of them is required. -/
def fitFields (surplus : Surplus) (fit : String → Json → Except Misfit Json) :
    List String → List Json → Except Misfit (List (String × Json))
  | _, [] => .ok []
  | [], _ :: _ => if surplus = .refused then .error ⟨none⟩ else .ok []
  | name :: names, value :: rest =>
    match fit name value with
    | .error e => .error e
    | .ok a => (fitFields surplus fit names rest).map ((name, a) :: ·)

/-- Fits a value that was read in full. -/
def fit (surplus : Surplus) : Shape → Json → Except Misfit Json
  | .text accepts, value =>
    match value with
    | .text s => if accepts s then .ok (.text s) else .error ⟨none⟩
    | _ => .error ⟨none⟩
  | .natural, value =>
    match value with
    | .number (.natural n) => .ok (.natural n)
    | _ => .error ⟨none⟩
  | .optional s, value =>
    match value with
    | .null => .ok .null
    | value => fit surplus s value
  | .texts, value =>
    match value with
    | .object members => (fitTexts members).map .object
    | _ => .error ⟨none⟩
  | .list s, value =>
    match value with
    | .list items => (fitItems (fit surplus s) items).map .list
    | _ => .error ⟨none⟩
  | .record fields shapeOf required problem, value =>
    match value with
    | .object members =>
      match fitMembers fields (fun name => fit surplus (shapeOf name)) [] members with
      | .error e => .error e
      | .ok found => close required problem found
    | .list items =>
      match fitFields surplus (fun name => fit surplus (shapeOf name)) fields items with
      | .error e => .error e
      | .ok found => close required problem found
    | _ => .error ⟨none⟩

end Shape

end Alerting.Json
