import Alerting.Json.Parser
import Alerting.Json.Shape

/-!
# Reading a value of a shape

The value is fitted while it is read, so the first fault in the text counts, whether it is one of
JSON or of the shape. Members that are not asked for are skipped without a look at their numbers,
their nesting or their surrogates.
-/

namespace Alerting.Json.Shape

def mismatch : Fault := .mismatch none

/-- The outcome of a check on what was read. -/
def settle (r : Except Misfit Json) : Except Fault Json :=
  match r with
  | .ok j => .ok j
  | .error e => .error (.mismatch e.reason)

/-- Refuses a value of another kind than asked for. A scalar is read first, and a fault in it
counts more. -/
def refuse {α : Type} (fuel : Nat) (cs : List Char) : Except Fault α :=
  match skipSpace cs with
  | '[' :: _ | '\x7b' :: _ => .error mismatch
  | cs =>
    match scalar fuel cs with
    | .error e => .error e
    | .ok _ => .error mismatch

def readText (fuel : Nat) (accepts : String → Bool) : Reader Json := fun cs =>
  match skipSpace cs with
  | '"' :: rest =>
    match quotedText fuel rest with
    | .error e => .error e
    | .ok (s, rest) => if accepts s then .ok (.text s, rest) else .error mismatch
  | cs => refuse fuel cs

def readNatural (fuel : Nat) : Reader Json := fun cs =>
  match scalar fuel (skipSpace cs) with
  | .ok (.number (.natural n), rest) => .ok (.natural n, rest)
  | _ => refuse fuel cs

/-- Passes an opening bracket to `read`, unless it is nested too deep. -/
def opened {α : Type} (depth : Nat) (bracket : Char) (rest : List Char) (read : Nat → Reader α) :
    Except Fault (α × List Char) :=
  match depth with
  | 0 => .error (.next .tooDeep (bracket :: rest))
  | depth + 1 => read depth rest

/-- A member of an object of texts, from its colon on. -/
def textMember (fuel : Nat) (found : List (String × Json)) (name : String) :
    Reader (List (String × Json)) := fun cs =>
  match colon cs with
  | .error e => .error e
  | .ok (_, rest) => (readText fuel (fun _ => true) rest).map fun r => ((name, r.1) :: found, r.2)

/-- A member of a record, from its colon on; `read` reads the value of a field. -/
def recordMember (fuel : Nat) (fields : List String) (read : String → Reader Json)
    (found : List (String × Json)) (name : String) : Reader (List (String × Json)) := fun cs =>
  if name ∈ fields then
    if (found.lookup name).isSome then .error mismatch
    else
      match colon cs with
      | .error e => .error e
      | .ok (_, rest) => (read name rest).map fun r => ((name, r.1) :: found, r.2)
  else
    match colon cs with
    | .error e => .error e
    | .ok (_, rest) => (skipValue fuel rest).map fun r => (found, r.2)

/-- The fields of a record from a list after its opening bracket; a missing one is noticed before
the end is read. -/
def recordItems (read : String → Reader Json) (required : List String) :
    List String → List (String × Json) → Reader (List (String × Json))
  | [], found, cs => (listEnd cs).map fun r => (found.reverse, r.2)
  | name :: names, found, cs =>
    match nextItem found.isEmpty cs with
    | .error e => .error e
    | .ok (false, rest) =>
      if (name :: names).any (· ∈ required) then .error mismatch
      else (listEnd rest).map fun r => (found.reverse, r.2)
    | .ok (true, rest) =>
      match read name rest with
      | .error e => .error e
      | .ok (a, rest) => recordItems read required names ((name, a) :: found) rest

/-- Checks a record whose fields were read, and keeps the text behind it. -/
def closeRead (required : List String) (problem : List (String × Json) → Option String)
    (r : List (String × Json) × List Char) : Except Fault (Json × List Char) :=
  (settle (close required problem r.1)).map fun j => (j, r.2)

/-- Reads a value of a shape with at most `depth` levels of nesting. -/
def read (fuel : Nat) : Shape → Nat → Reader Json
  | .text accepts, _, cs => readText fuel accepts cs
  | .natural, _, cs => readNatural fuel cs
  | .optional s, depth, cs =>
    match skipSpace cs with
    | 'n' :: rest => (word "ull".toList rest).map fun r => (.null, r.2)
    | _ => read fuel s depth cs
  | .texts, depth, cs =>
    match skipSpace cs with
    | '\x7b' :: rest =>
      opened depth '\x7b' rest fun _ cs =>
        (objectMembers (textMember fuel) fuel fuel true [] cs).map fun r =>
          (.object r.1.reverse, r.2)
    | _ => refuse fuel cs
  | .list s, depth, cs =>
    match skipSpace cs with
    | '[' :: rest =>
      opened depth '[' rest fun depth cs =>
        (listItems (read fuel s depth) fuel [] cs).map fun r => (.list r.1, r.2)
    | _ => refuse fuel cs
  | .record fields shapeOf required problem, depth, cs =>
    match skipSpace cs with
    | '\x7b' :: rest =>
      opened depth '\x7b' rest fun depth cs =>
        match objectMembers (recordMember fuel fields fun name => read fuel (shapeOf name) depth)
          fuel fuel true [] cs with
        | .error e => .error e
        | .ok r => closeRead required problem (r.1.reverse, r.2)
    | '[' :: rest =>
      opened depth '[' rest fun depth cs =>
        match recordItems (fun name => read fuel (shapeOf name) depth) required fields [] cs with
        | .error e => .error e
        | .ok r => closeRead required problem r
    | _ => refuse fuel cs

def ofChars (s : Shape) (cs : List Char) : Except Fault Json :=
  whole (fun fuel => read fuel s depthLimit) cs

def ofString (s : Shape) (text : String) : Except Fault Json := s.ofChars text.toList

end Alerting.Json.Shape
