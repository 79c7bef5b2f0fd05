import Alerting.Unicode.CharSet
import Alerting.Unicode.Tables.Ages
import Alerting.Unicode.Tables.Breaks
import Alerting.Unicode.Tables.CaseFolding
import Alerting.Unicode.Tables.Categories
import Alerting.Unicode.Tables.Properties
import Alerting.Unicode.Tables.Scripts

/-!
# Properties of characters

Sets of characters by the name of a property, of a category or of a script, or by the name and the
value of a property. Names are compared without case, blanks, hyphens and low lines, and without
`is` in front.

A set is made blind to case by adding to each of its characters every other one of its group.
-/

namespace Alerting.Unicode

open Tables

def lowerAscii (c : Char) : Char :=
  if 'A' ≤ c ∧ c ≤ 'Z' then Char.ofNat (c.toNat + 32) else c

/-- A name as it is looked up. The name `isc` is kept, since without `is` it would be another. -/
def looseName (name : String) : String :=
  let cs := name.toList.map lowerAscii
  let prefixed := cs.take 2 == ['i', 's']
  let kept := (if prefixed then cs.drop 2 else cs).filter fun c =>
    c != ' ' && c != '_' && c != '-' && c.toNat ≤ 0x7F
  if prefixed ∧ kept = ['c'] then "isc" else String.ofList kept

/-- The entry of a table under a name. -/
def lookup? (name : String) (table : List (List String × List String)) : Option CharSet :=
  (table.find? fun e => e.1.contains name).map fun e => .ofLines e.2

/-- The set under a name that the table has. -/
def known (name : String) (table : List (List String × List String)) : CharSet :=
  (lookup? name table).getD ∅

/-- The categories that are groups of others, with their names. -/
def categoryGroups : List (List String × List String) := [
  (["lc", "casedletter"], ["lu", "ll", "lt"]),
  (["l", "letter"], ["lu", "ll", "lt", "lm", "lo"]),
  (["m", "mark", "combiningmark"], ["mn", "mc", "me"]),
  (["n", "number"], ["nd", "nl", "no"]),
  (["p", "punctuation", "punct"], ["pc", "pd", "ps", "pe", "pi", "pf", "po"]),
  (["s", "symbol"], ["sm", "sc", "sk", "so"]),
  (["z", "separator"], ["zs", "zl", "zp"])]

def categoriesOf (names : List String) : CharSet :=
  .unions (names.map fun name => known name categories)

def assigned : CharSet := .unions (categories.map fun e => .ofLines e.2)

def unassigned : CharSet := CharSet.scalars.sdiff assigned

def category? (name : String) : Option CharSet :=
  if name = "any" then some .all
  else if name = "ascii" then some (.range 0 0x7F)
  else if name = "assigned" then some unassigned.compl
  else if name = "cn" ∨ name = "unassigned" then some unassigned
  else if name = "c" ∨ name = "other" then
    some (.unions (unassigned :: ["cc", "cf", "co"].map fun name => known name categories))
  else
    match categoryGroups.find? fun g => g.1.contains name with
    | some g => some (categoriesOf g.2)
    | none => lookup? name categories

def script? (name : String) : Option CharSet := lookup? name scripts

/-- The set of a script with its extensions. -/
def scriptExtension? (name : String) : Option CharSet :=
  (lookup? name scripts).map fun s => s.symmDiff (known name scriptExtensions)

/-- The characters that were assigned in a version or before it. -/
def age? (name : String) : Option CharSet :=
  (ages.findIdx? fun e => e.1.contains name).map fun i =>
    .unions ((ages.take (i + 1)).map fun e => .ofLines e.2)

/-- The set of a property, a category or a script. The names of properties come first, but for three
that abbreviate a category as well. -/
def set? (name : String) : Option CharSet :=
  let name := looseName name
  let property :=
    if name = "cf" ∨ name = "sc" ∨ name = "lc" then none else lookup? name properties
  property.orElse fun _ => (category? name).orElse fun _ => script? name

/-- The set of a property with a value. -/
def valueSet? (property value : String) : Option CharSet :=
  let property := looseName property
  let value := looseName value
  if property = "gc" ∨ property = "generalcategory" then category? value
  else if property = "sc" ∨ property = "script" then script? value
  else if property = "scx" ∨ property = "scriptextensions" then scriptExtension? value
  else if property = "age" then age? value
  else if property = "gcb" ∨ property = "graphemeclusterbreak" then lookup? value graphemeBreaks
  else if property = "wb" ∨ property = "wordbreak" then lookup? value wordBreaks
  else if property = "sb" ∨ property = "sentencebreak" then lookup? value sentenceBreaks
  else none

/-! ## Sets in frequent use -/

def digits : CharSet := known "nd" categories

def spaces : CharSet := known "whitespace" properties

def alphabetic : CharSet := known "alphabetic" properties

def alphanumeric : CharSet := alphabetic.union (categoriesOf ["nd", "nl", "no"])

def wordCharacters : CharSet :=
  .unions [alphabetic, categoriesOf ["mn", "mc", "me", "nd", "pc"], known "joincontrol" properties]

def graphemeExtenders : CharSet := known "graphemeextend" properties

/-- The characters without a picture of their own: controls, formats, private ones, those that are
not assigned, and separators but for the space. -/
def unprintable : CharSet :=
  (CharSet.unions [unassigned, categoriesOf ["cc", "cf", "co", "zl", "zp", "zs"]]).sdiff
    (.single 0x20)

end Alerting.Unicode

namespace Alerting.Unicode

/-! ## Case -/

/-- The numbers that a text of the tables writes; `n` is what was read of the next one. -/
def numbers (n : Nat) : List Char → List Nat
  | [] => []
  | c :: cs =>
    if c.isUpper then (n * 26 + (c.toNat - 'A'.toNat)) :: numbers 0 cs
    else numbers (n * 26 + (c.toNat - 'a'.toNat)) cs

def runningSums (n : Nat) : List Nat → List Nat
  | [] => []
  | m :: ns => (n + m) :: runningSums (n + m) ns

/-- Groups of characters, in at most `fuel` steps, where the group before them starts at `last`. -/
def groupsFrom : Nat → Nat → List Nat → List (List Nat)
  | 0, _, _ => []
  | fuel + 1, last, size :: first :: rest =>
    ((last + first) :: runningSums (last + first) (rest.take (size - 1))) ::
      groupsFrom fuel (last + first) (rest.drop (size - 1))
  | _ + 1, _, _ => []

/-- The groups of characters that differ in case only. -/
def caseGroups : List (List Nat) :=
  let ns := numbers 0 (Tables.caseGroups.flatMap String.toList)
  groupsFrom ns.length 0 ns

/-- The set with every character that differs in case only from one of its own. -/
def foldCase (s : CharSet) : CharSet :=
  let added := (caseGroups.filter fun g => g.any s.contains).flatten
  s.union (.unions (added.map .single))

/-- The ASCII letters of a set in both cases. -/
def foldAsciiCase (s : CharSet) : CharSet :=
  let upper := s.inter (.range 'A'.toNat 'Z'.toNat)
  let lower := s.inter (.range 'a'.toNat 'z'.toNat)
  .unions [s, ⟨upper.changes.map (· + 32)⟩, ⟨lower.changes.map (· - 32)⟩]

end Alerting.Unicode
