import Alerting.Toml.Scalar

/-!
# Reading TOML

A document is read line by line into sections, from which its tables are built. Lists and tables in
brackets are nested less than 80 deep. Each step reads something, so the length of the document
bounds their number.
-/

namespace Alerting.Toml

/-! ## Values -/

/-- The items of a list after its opening bracket, in at most `fuel` steps; `read` holds those that
were read, last one first. -/
def listItems? (value : Reader Value) : Nat → List Value → Reader (List Value)
  | 0, _, _ => none
  | fuel + 1, read, cs =>
    match skipLines? false cs with
    | none => none
    | some (']' :: rest) => some (read.reverse, rest)
    | some cs =>
      match value cs with
      | none => none
      | some (v, rest) =>
        match skipLines? false rest with
        | some (',' :: rest) => listItems? value fuel (v :: read) rest
        | some (']' :: rest) => some ((v :: read).reverse, rest)
        | _ => none

/-- A key, an equals sign and a value. -/
def assignment? (fuel : Nat) (value : Reader Value) : Reader Assignment := fun cs => do
  let (key, rest) ← key? fuel cs
  let rest ← mark? '=' rest
  let (v, rest) ← value (skipGap rest)
  some (⟨key, v⟩, rest)

/-- The assignments of a table in braces, from the first one on, in at most `fuel` steps. -/
def assignments? (textFuel : Nat) (value : Reader Value) : Nat → Reader (List Assignment)
  | 0, _ => none
  | fuel + 1, cs =>
    match assignment? textFuel value cs with
    | none => none
    | some (a, rest) =>
      match skipGap rest with
      | ',' :: rest =>
        (assignments? textFuel value fuel rest).map fun r => (a :: r.1, r.2)
      | '\x7d' :: rest => some ([a], rest)
      | _ => none

/-- A table in braces after the opening one. -/
def bracedTable? (fuel : Nat) (value : Reader Value) : Reader Value := fun cs => do
  let (assignments, rest) ← match skipGap cs with
    | '\x7d' :: rest => some ([], rest)
    | cs => assignments? fuel value fuel cs
  let table ← Value.ofSections? assignments []
  some (table, rest)

/-- Exactly these characters, for a value. -/
def word? (word : List Char) (v : Value) : Reader Value := fun cs =>
  if word.isPrefixOf cs then some (v, cs.drop word.length) else none

/-- A value without brackets. A date or a time is looked for before a float, and a float before an
integer. -/
def scalar? (fuel : Nat) : Reader Value := fun cs =>
  match cs with
  | [] => none
  | c :: _ =>
    if c = '"' ∨ c = '\'' then (text? fuel cs).map fun r => (.text r.1, r.2)
    else if c = 't' then word? "true".toList (.bool true) cs
    else if c = 'f' then word? "false".toList (.bool false) cs
    else ((moment? cs).orElse fun _ => float? cs).orElse fun _ => integer? cs

/-- A value whose items and members are read by `inner`; without it brackets are refused. -/
def valueWith? (fuel : Nat) (inner : Option (Reader Value)) : Reader Value := fun cs =>
  match cs, inner with
  | '[' :: rest, some value => (listItems? value fuel [] rest).map fun r => (.list r.1, r.2)
  | '\x7b' :: rest, some value => bracedTable? fuel value rest
  | cs, _ => scalar? fuel cs

/-- A value with at most `depth` levels of nesting. -/
def value? (fuel : Nat) : Nat → Reader Value
  | 0 => valueWith? fuel none
  | depth + 1 => valueWith? fuel (some (value? fuel depth))

/-- The levels of nesting that a value may have. -/
def depthLimit : Nat := 79

/-! ## Documents -/

/-- A header after its opening bracket, to the end of its line. -/
def header? (fuel : Nat) : Reader Header
  | '[' :: rest => do
    let (key, rest) ← key? fuel rest
    let rest ← lineEnd? (← mark? ']' (← mark? ']' rest))
    some (.item key, rest)
  | rest => do
    let (key, rest) ← key? fuel rest
    let rest ← lineEnd? (← mark? ']' rest)
    some (.table key, rest)

inductive Line where
  | blank
  | header (h : Header)
  | assignment (a : Assignment)

/-- A line, which a value may lengthen. -/
def line? (fuel : Nat) : Reader Line := fun cs =>
  match skipGap cs with
  | '[' :: rest => (header? fuel rest).map fun r => (.header r.1, r.2)
  | cs =>
    match lineEnd? cs with
    | some rest => some (.blank, rest)
    | none => do
      let (a, rest) ← assignment? fuel (value? fuel depthLimit) cs
      let rest ← lineEnd? rest
      some (.assignment a, rest)

/-- The lines of a document, in at most `fuel` steps. -/
def lines? (textFuel : Nat) : Nat → List Char → Option (List Line)
  | _, [] => some []
  | 0, _ => none
  | fuel + 1, cs => do
    let (line, rest) ← line? textFuel cs
    (lines? textFuel fuel rest).map (line :: ·)

/-- The assignments in front of the first header, and the sections. -/
def gather : List Line → List Assignment × List Section
  | [] => ([], [])
  | .blank :: rest => gather rest
  | .assignment a :: rest =>
    let r := gather rest
    (a :: r.1, r.2)
  | .header h :: rest =>
    let r := gather rest
    ([], ⟨h, r.1⟩ :: r.2)

/-- The value of a document. A byte order mark in front is left out. -/
def Value.ofChars? (cs : List Char) : Option Value := do
  let cs := match cs with
    | '\uFEFF' :: rest => rest
    | cs => cs
  let fuel := cs.length + 1
  let r := gather (← lines? fuel fuel cs)
  Value.ofSections? r.1 r.2

end Alerting.Toml
