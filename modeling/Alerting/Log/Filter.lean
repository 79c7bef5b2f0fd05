import Alerting.Log.Entry
import Alerting.Text.Basic
import Alerting.Unicode.Property

/-!
# Log filters

A filter is written as directives with commas between them. A directive sets a level for the entries
of components whose name starts with a text, for the entries that have a field, or for all that
happens within a span. Of the directives that apply to an entry the most specific one decides.
-/

namespace Alerting.Log

open Text

/-- The span in which the dispatcher works, and the component and the level that it belongs to. -/
def dispatchSpan : String := "aggregator_dispatch"

def spanTarget : String := "alertagg_core::aggregator"

/-- A level for some of the entries. -/
structure Directive where
  target : Option String := none
  span : Option String := none
  field : Option String := none
  /-- The field is asked for with a value. -/
  hasValue : Bool := false
  /-- The rank of the least important level that passes; zero lets nothing pass. -/
  limit : Nat
  deriving DecidableEq

/-- What passes into the log. -/
structure Filter where
  directives : List Directive
  deriving DecidableEq

namespace Directive

/-! ## Reading -/

/-- The rank of the least important level that a name or a digit lets pass. -/
def limit? (cs : List Char) : Option Nat :=
  let lower := String.ofList (cs.map Char.toLower)
  let digits := match cs with
    | '+' :: rest => rest
    | cs => cs
  if ¬digits.isEmpty ∧ digits.all Char.isDigit ∧ digitsValue digits ≤ 5 then
    some (digitsValue digits)
  else if lower = "off" then some 0
  else if lower = "error" then some 1
  else if lower = "warn" then some 2
  else if lower = "info" then some 3
  else if lower = "debug" then some 4
  else if lower = "trace" then some 5
  else none

/-- The level behind an equals sign; without one everything passes. -/
def limitAfter? : List Char → Option Nat
  | [] => some 5
  | cs => limit? cs

/-- What follows the closing bracket of a span: nothing, or a level. -/
def afterSpan? (d : Directive) : List Char → Option Directive
  | [] => some d
  | '=' :: rest => (limitAfter? rest).map fun limit => { d with limit }
  | _ => none

/-- The field between braces, with or without a value, and what follows. -/
def field? (d : Directive) (cs : List Char) : Option Directive :=
  let inside := cs.takeWhile (· ≠ '\x7d')
  match cs.dropWhile (· ≠ '\x7d') with
  | '\x7d' :: ']' :: rest =>
    if inside.isEmpty then none
    else
      let name := String.ofList (inside.takeWhile (· ≠ '='))
      afterSpan? { d with field := some name, hasValue := inside.contains '=' } rest
  | _ => none

/-- A span and what follows, after its opening bracket. -/
def span? (d : Directive) (cs : List Char) : Option Directive :=
  let ends (c : Char) := c == ']' || c == '\x7b'
  let name := cs.takeWhile fun c => ¬ends c
  match cs.dropWhile fun c => ¬ends c with
  | ']' :: rest => afterSpan? { d with span := some (String.ofList name) } rest
  | '\x7b' :: rest =>
    field? { d with span := if name.isEmpty then none else some (String.ofList name) } rest
  | _ => none

/-- A letter, a digit or one of three marks. -/
def opens (c : Char) : Bool :=
  c == '-' || c == ':' || c == '_' || Unicode.alphanumeric.contains c.toNat

def ofChars? (whole : List Char) : Option Directive :=
  -- The parts are found without the blanks around them but cut out of the whole, so behind a blank
  -- they are cut at the wrong place.
  let cs := trim whole
  let inTarget (c : Char) := c != '=' && c != '['
  let length := (cs.takeWhile inTarget).length
  match cs with
  | [] => none
  | '[' :: rest => span? { limit := 5 } rest
  | c :: _ =>
    if ¬opens c then none
    else
      let named : Directive := { target := some (String.ofList (whole.take length)), limit := 5 }
      match cs.dropWhile inTarget with
      | '=' :: _ => (limitAfter? (whole.drop (length + 1))).map fun limit => { named with limit }
      | '[' :: rest => span? named rest
      | _ =>
        match limit? whole with
        | some limit => some { limit }
        | none => some { named with target := some (String.ofList whole) }

/-! ## Deciding -/

/-- The component's name starts with the text of the directive. -/
def coversTarget (d : Directive) (target : String) : Bool :=
  match d.target with
  | none => true
  | some t => t.toList.isPrefixOf target.toList

def fieldNames (e : Entry) : List String :=
  (if e.message?.isSome then ["message"] else []) ++ e.fields.map (·.1)

/-- The directive applies to entries by themselves, outside and inside of spans. -/
def isStatic (d : Directive) : Bool := d.span.isNone && !d.hasValue

def covers (d : Directive) (e : Entry) : Bool :=
  d.isStatic && d.coversTarget e.target && d.field.all fun name => (fieldNames e).contains name

/-- The directive applies to the dispatcher's span as such. -/
def coversSpan (d : Directive) : Bool := d.isStatic && d.coversTarget spanTarget

/-- The directive applies to all that happens within the dispatcher's span. -/
def coversWithin (d : Directive) : Bool :=
  d.span == some dispatchSpan && d.field.isNone && d.coversTarget spanTarget

/-- How specific a directive is: the length of its text for components, if it has one, and whether
it asks for a field. -/
def weight (d : Directive) : Nat × Nat :=
  ((d.target.map fun t => t.utf8ByteSize + 1).getD 0, if d.field.isSome then 1 else 0)

/-- The second directive is at least as specific as the first. Of directives that ask for different
fields the one with the greater name counts as more specific. -/
def yields (d other : Directive) : Bool :=
  if d.weight.1 ≠ other.weight.1 then d.weight.1 < other.weight.1
  else if d.weight.2 ≠ other.weight.2 then d.weight.2 < other.weight.2
  else d.field.getD "" ≤ other.field.getD ""

/-- The limit of the most specific directive; of equal ones the last one counts. -/
def limitOf (directives : List Directive) : Nat :=
  match directives with
  | [] => 0
  | first :: rest =>
    (rest.foldl (fun best d => if yields best d then d else best) first).limit

end Directive

namespace Filter

def upTo (level : Level) : Filter := ⟨[{ limit := level.rank }]⟩

def parts : List Char → List (List Char)
  | [] => [[]]
  | c :: cs =>
    match parts cs with
    | [] => [[c]]
    | part :: rest => if c = ',' then [] :: part :: rest else (c :: part) :: rest

/-- The filter that a text writes. Empty parts count for nothing; without any directive only errors
pass. -/
def ofString? (s : String) : Option Filter := do
  let directives ← ((parts s.toList).filter fun p => ¬p.isEmpty).mapM Directive.ofChars?
  some (if directives.isEmpty then upTo .error else ⟨directives⟩)

def showsSpan (f : Filter) : Bool :=
  f.directives.any Directive.coversWithin ||
    decide (Level.info.rank ≤ Directive.limitOf (f.directives.filter Directive.coversSpan))

/-- An entry passes. `within` tells whether it is told within the dispatcher's span. -/
def passes (f : Filter) (within : Bool) (e : Entry) : Bool :=
  (within && f.directives.any fun d => d.coversWithin && e.level.rank ≤ d.limit) ||
    e.level.rank ≤ Directive.limitOf (f.directives.filter (·.covers e))

end Filter

end Alerting.Log
