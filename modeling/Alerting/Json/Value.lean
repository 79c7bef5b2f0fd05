/-!
# JSON values

A value of JSON text. An object keeps its members in the order of the text, repeated names
included.
-/

namespace Alerting

/-- A number: a natural number below 2^64 written without a sign, fraction or exponent, or any other
decimal. -/
inductive Number where
  | natural (n : Nat)
  | decimal (negative : Bool) (significand : Nat) (exponent : Int)
  deriving DecidableEq

inductive Json where
  | null
  | bool (b : Bool)
  | number (n : Number)
  | text (s : String)
  | list (items : List Json)
  | object (members : List (String × Json))

namespace Json

def natural (n : Nat) : Json := .number (.natural n)

def ofTexts (entries : List (String × String)) : Json :=
  .object (entries.map fun e => (e.1, .text e.2))

/-- The first member of an object with a name. -/
def member? (name : String) : Json → Option Json
  | .object members => members.lookup name
  | _ => none

def text? : Json → Option String
  | .text s => some s
  | _ => none

def natural? : Json → Option Nat
  | .number (.natural n) => some n
  | _ => none

/-- The natural number of a member, or else a default. -/
def wordOr (name : String) (default : UInt64) (j : Json) : UInt64 :=
  (((j.member? name).bind natural?).map UInt64.ofNat).getD default

/-- The items of a list; none for any other value. -/
def items : Json → List Json
  | .list items => items
  | _ => []

/-- The members of an object that are texts, in their order. -/
def texts : Json → List (String × String)
  | .object members => members.filterMap fun m => m.2.text?.map (m.1, ·)
  | _ => []

end Json

end Alerting
