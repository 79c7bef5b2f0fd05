import Alerting.Json.Value

/-!
# Tables of a document

A document defines its tables piece by piece. A header defines the table that it names, once; the
tables on the way to it are passed, and a later header may still define them. A dotted name goes
through tables that dotted names made, and those are closed to headers. The header of an item adds a
table to a list of tables, and later names that go through the list go to its last one.
-/

namespace Alerting.Toml

/-! ## Values -/

inductive Value where
  | text (s : String)
  | integer (n : Int)
  /-- A number with a fraction or an exponent, an infinity, or no number, as it is written. -/
  | float (written : List Char)
  | bool (b : Bool)
  /-- A date, a time of day or both, as it is written. -/
  | moment (written : List Char)
  | list (items : List Value)
  | table (members : List (String × Value))

namespace Value

/-- The member that tells a date or a time from other tables. -/
def momentMember : String := "date-time"

mutual

/-- The value as shapes see it. A date or a time is a table of a single member. No shape asks for a
float, so its size is left out. -/
def toJson : Value → Json
  | .text s => .text s
  | .integer n =>
    .number (if 0 ≤ n then .natural n.toNat else .decimal true n.natAbs 0)
  | .float written => .number (.decimal (written.head? == some '-') 0 0)
  | .bool b => .bool b
  | .moment written => .object [(momentMember, .text (String.ofList written))]
  | .list items => .list (itemsToJson items)
  | .table members => .object (membersToJson members)

def itemsToJson : List Value → List Json
  | [] => []
  | item :: rest => item.toJson :: itemsToJson rest

def membersToJson : List (String × Value) → List (String × Json)
  | [] => []
  | (name, value) :: rest => (name, value.toJson) :: membersToJson rest

end

end Value

/-! ## Tables -/

/-- How a table came to be. -/
inductive Standing where
  /-- By its own header. -/
  | defined
  /-- By the header of a table further down. -/
  | passed
  | dotted
  deriving DecidableEq

/-- A member of a table while the document is being read. -/
inductive Node where
  | value (v : Value)
  | table (standing : Standing) (members : List (String × Node))
  /-- The tables of a list of items, last one first. -/
  | items (tables : List (List (String × Node)))

abbrev Members := List (String × Node)

namespace Members

def replace (name : String) (node : Node) (ms : Members) : Members :=
  ms.map fun m => if m.1 = name then (name, node) else m

def erase (name : String) (ms : Members) : Members := ms.filter fun m => m.1 ≠ name

/-- Assigns a value in the table that `path` leads to; `direct` tells whether that takes names of
one part only. -/
def assign? (name : String) (v : Value) : Bool → List String → Members → Option Members
  | direct, [], ms =>
    if direct ∧ (ms.lookup name).isNone then some (ms ++ [(name, .value v)]) else none
  | _, step :: path, ms =>
    match ms.lookup step with
    | none => (assign? name v true path []).map fun inner => ms ++ [(step, .table .dotted inner)]
    | some (.table .dotted inner) =>
      (assign? name v true path inner).map fun inner => ms.replace step (.table .dotted inner)
    | some (.table .passed inner) =>
      (assign? name v false path inner).map fun inner => ms.replace step (.table .passed inner)
    | some (.items (last :: before)) =>
      (assign? name v false path last).map fun last => ms.replace step (.items (last :: before))
    | _ => none

/-- Changes the table that `path` leads to. -/
def within? (change : Members → Option Members) : List String → Members → Option Members
  | [], ms => change ms
  | step :: path, ms =>
    match ms.lookup step with
    | none => (within? change path []).map fun inner => ms ++ [(step, .table .passed inner)]
    | some (.table standing inner) =>
      (within? change path inner).map fun inner => ms.replace step (.table standing inner)
    | some (.items (last :: before)) =>
      (within? change path last).map fun last => ms.replace step (.items (last :: before))
    | _ => none

/-- Defines a table, which `fill` completes. It becomes the last member. -/
def define? (fill : Members → Option Members) (name : String) (ms : Members) : Option Members :=
  match ms.lookup name with
  | none => (fill []).map fun inner => ms ++ [(name, .table .defined inner)]
  | some (.table .passed inner) =>
    (fill inner).map fun inner => ms.erase name ++ [(name, .table .defined inner)]
  | some _ => none

/-- Adds a table to a list of items, which `fill` completes. -/
def addItem? (fill : Members → Option Members) (name : String) (ms : Members) : Option Members :=
  match ms.lookup name with
  | none => (fill []).map fun inner => ms ++ [(name, .items [inner])]
  | some (.items tables) => (fill []).map fun inner => ms.replace name (.items (inner :: tables))
  | some _ => none

end Members

mutual

def Node.toValue : Node → Value
  | .value v => v
  | .table _ members => .table (membersToValues members)
  | .items tables => .list (tablesToValues tables).reverse

def membersToValues : List (String × Node) → List (String × Value)
  | [] => []
  | (name, node) :: rest => (name, node.toValue) :: membersToValues rest

def tablesToValues : List (List (String × Node)) → List Value
  | [] => []
  | members :: rest => .table (membersToValues members) :: tablesToValues rest

end

/-! ## Sections -/

/-- A name with the names in front of its dots. -/
structure Key where
  path : List String
  name : String
  deriving DecidableEq

/-- A name and its value. -/
structure Assignment where
  key : Key
  value : Value

/-- What a section starts with. -/
inductive Header where
  | table (key : Key)
  | item (key : Key)
  deriving DecidableEq

/-- A header and the assignments below it. -/
structure Section where
  header : Header
  assignments : List Assignment

namespace Members

def assignAll? (assignments : List Assignment) (ms : Members) : Option Members :=
  assignments.foldlM (fun ms a => assign? a.key.name a.value true a.key.path ms) ms

/-- Adds a section to a document. -/
def add? (ms : Members) (s : Section) : Option Members :=
  match s.header with
  | .table key => within? (define? (assignAll? s.assignments) key.name) key.path ms
  | .item key => within? (addItem? (assignAll? s.assignments) key.name) key.path ms

end Members

/-- The value of a document: the assignments in front of the first header, and the sections. -/
def Value.ofSections? (front : List Assignment) (sections : List Section) : Option Value := do
  let ms ← Members.assignAll? front []
  let ms ← sections.foldlM Members.add? ms
  some (.table (membersToValues ms))

end Alerting.Toml
