import Alerting.Json.Reader

/-!
# Reading JSON

A whole text as a value. Lists and objects are nested at most 127 deep.
-/

namespace Alerting.Json

/-- The levels of nesting that a text may have. -/
def depthLimit : Nat := 127

/-- A word, a number or a text. -/
def scalar (fuel : Nat) : Reader Json
  | [] => .error (.malformed .endInValue 0)
  | c :: rest =>
    if c = 'n' then (word "ull".toList rest).map fun r => (.null, r.2)
    else if c = 't' then (word "rue".toList rest).map fun r => (.bool true, r.2)
    else if c = 'f' then (word "alse".toList rest).map fun r => (.bool false, r.2)
    else if c = '"' then (quotedText fuel rest).map fun r => (.text r.1, r.2)
    else if c = '-' ∨ c.isDigit then (readNumber (c :: rest)).map fun r => (.number r.1, r.2)
    else .error (.next .expectedValue (c :: rest))

/-- The next member of an object, from its colon on. -/
def anyMember (value : Reader Json) (members : List (String × Json)) (name : String) :
    Reader (List (String × Json)) := fun cs =>
  match colon cs with
  | .error e => .error e
  | .ok (_, rest) => (value rest).map fun r => ((name, r.1) :: members, r.2)

/-- A value whose items and members are read by `inner`; without it brackets are refused. -/
def valueWith (fuel : Nat) (inner : Option (Reader Json)) : Reader Json := fun cs =>
  match skipSpace cs, inner with
  | '[' :: rest, some value => (listItems value fuel [] rest).map fun r => (.list r.1, r.2)
  | '\x7b' :: rest, some value =>
    (objectMembers (anyMember value) fuel fuel true [] rest).map fun r =>
      (.object r.1.reverse, r.2)
  | '[' :: rest, none => .error (.next .tooDeep ('[' :: rest))
  | '\x7b' :: rest, none => .error (.next .tooDeep ('\x7b' :: rest))
  | cs, _ => scalar fuel cs

/-- A value with at most `depth` levels of nesting. -/
def anyValue (fuel : Nat) : Nat → Reader Json
  | 0 => valueWith fuel none
  | depth + 1 => valueWith fuel (some (anyValue fuel depth))

/-- Reads a whole text; only white space may follow what `read` reads. -/
def whole {α : Type} (read : Nat → Reader α) (cs : List Char) : Except Fault α :=
  match read (cs.length + 1) cs with
  | .error e => .error e
  | .ok (a, rest) =>
    match skipSpace rest with
    | [] => .ok a
    | rest => .error (.next .trailingCharacters rest)

theorem whole_eq_ok_iff {α : Type} {read : Nat → Reader α} {cs : List Char} {a : α} :
    whole read cs = .ok a ↔
      ∃ rest, read (cs.length + 1) cs = .ok (a, rest) ∧ skipSpace rest = [] := by
  unfold whole
  cases read (cs.length + 1) cs with
  | error e => simp
  | ok r =>
    obtain ⟨b, rest⟩ := r
    simp only [Except.ok.injEq, Prod.mk.injEq, and_assoc, exists_and_left, exists_eq_left']
    cases skipSpace rest <;> simp

def ofChars (cs : List Char) : Except Fault Json := whole (fun fuel => anyValue fuel depthLimit) cs

def ofString (s : String) : Except Fault Json := ofChars s.toList

end Alerting.Json
