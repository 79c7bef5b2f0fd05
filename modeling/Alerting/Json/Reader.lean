import Alerting.Json.Numeral
import Alerting.Json.Quoted

/-!
# Pieces of JSON text

Reading lists and objects member by member, the words `null`, `true` and `false`, and skipping a
value. A reader of members is handed to the loops below, which look after commas and brackets. Every
loop takes a count of steps; the length of the whole text is enough for any of them, since each step
reads something.
-/

namespace Alerting.Json

def isSpace (c : Char) : Bool := c == ' ' || c == '\n' || c == '\t' || c == '\r'

def skipSpace (cs : List Char) : List Char := cs.dropWhile isSpace

/-- Reads exactly these characters. -/
def word : List Char → Reader Unit
  | [], cs => .ok ((), cs)
  | _ :: _, [] => .error (.malformed .endInValue 0)
  | c :: w, d :: cs => if c = d then word w cs else .error (.next .expectedWord (d :: cs))

/-- The text in quotes after its opening quotation mark. -/
def quotedText (fuel : Nat) : Reader String := quotedRest fuel []

/-! ## Lists -/

/-- Whether another item follows in a list, and the text from there on. The first item follows no
comma. -/
def nextItem (first : Bool) (cs : List Char) : Except Fault (Bool × List Char) :=
  match skipSpace cs with
  | [] => .error (.malformed .endInList 0)
  | ']' :: rest => .ok (false, ']' :: rest)
  | c :: rest =>
    if first then .ok (true, c :: rest)
    else if c = ',' then
      match skipSpace rest with
      | [] => .error (.malformed .endInValue 0)
      | ']' :: rest => .error (.next .trailingComma (']' :: rest))
      | rest => .ok (true, rest)
    else .error (.next .expectedListEnd (c :: rest))

/-- The end of a list whose items were all asked for. -/
def listEnd : Reader Unit := fun cs =>
  match skipSpace cs with
  | [] => .error (.malformed .endInList 0)
  | ']' :: rest => .ok ((), rest)
  | ',' :: rest =>
    match skipSpace rest with
    | ']' :: rest => .error (.next .trailingComma (']' :: rest))
    | rest => .error (.next .trailingCharacters rest)
  | rest => .error (.next .trailingCharacters rest)

/-- The items of a list after its opening bracket, in at most `fuel` steps; `read` holds those that
were read, last one first. -/
def listItems {α : Type} (item : Reader α) : Nat → List α → Reader (List α)
  | 0, _, _ => .error (.malformed .endInList 0)
  | fuel + 1, read, cs =>
    match nextItem read.isEmpty cs with
    | .error e => .error e
    | .ok (false, rest) => (listEnd rest).map fun r => (read.reverse, r.2)
    | .ok (true, rest) =>
      match item rest with
      | .error e => .error e
      | .ok (a, rest) => listItems item fuel (a :: read) rest

/-! ## Objects -/

/-- Whether another member follows in an object; if so, the text from its opening quotation mark
on has that mark read. -/
def nextMember (first : Bool) (cs : List Char) : Except Fault (Bool × List Char) :=
  let name : List Char → Except Fault (Bool × List Char)
    | [] => .error (.malformed .endInValue 0)
    | c :: rest =>
      if c = '"' then .ok (true, rest)
      else if c = '\x7d' then .error (.next .trailingComma (c :: rest))
      else .error (.next .nameNotText (c :: rest))
  match skipSpace cs with
  | [] => .error (.malformed .endInObject 0)
  | c :: rest =>
    if c = '\x7d' then .ok (false, rest)
    else if first then name (c :: rest)
    else if c = ',' then name (skipSpace rest)
    else .error (.next .expectedObjectEnd (c :: rest))

def colon : Reader Unit := fun cs =>
  match skipSpace cs with
  | [] => .error (.malformed .endInObject 0)
  | c :: rest => if c = ':' then .ok ((), rest) else .error (.next .expectedColon (c :: rest))

/-- The members of an object after its opening bracket. `member` is given what was gathered and the
next name, and reads from its colon on. -/
def objectMembers {σ : Type} (member : σ → String → Reader σ) (textFuel : Nat) :
    Nat → Bool → σ → Reader σ
  | 0, _, _, _ => .error (.malformed .endInObject 0)
  | fuel + 1, first, gathered, cs =>
    match nextMember first cs with
    | .error e => .error e
    | .ok (false, rest) => .ok (gathered, rest)
    | .ok (true, rest) =>
      match quotedText textFuel rest with
      | .error e => .error e
      | .ok (name, rest) =>
        match member gathered name rest with
        | .error e => .error e
        | .ok (gathered, rest) => objectMembers member textFuel fuel false gathered rest

/-! ## Skipping -/

inductive Bracket where
  | list
  | object
  deriving DecidableEq

/-- Where skipping stands between two pieces of a value. -/
inductive Skipping where
  /-- In front of a value. -/
  | value
  /-- In a list or an object, behind a value of it if `comma`, and else behind its bracket. -/
  | inside (comma : Bool)
  /-- In front of the name of a member. -/
  | member

def skipScalar (fuel : Nat) : Reader Unit
  | [] => .error (.malformed .endInValue 0)
  | c :: rest =>
    if c = 'n' then word "ull".toList rest
    else if c = 't' then word "rue".toList rest
    else if c = 'f' then word "alse".toList rest
    else if c = '"' then skipQuotedRest fuel rest
    else if c = '-' ∨ c.isDigit then skipNumber (c :: rest)
    else .error (.next .expectedValue (c :: rest))

def skipName (fuel : Nat) : Reader Unit := fun cs =>
  match skipSpace cs with
  | [] => .error (.malformed .endInObject 0)
  | c :: rest =>
    if c = '"' then
      match skipQuotedRest fuel rest with
      | .error e => .error e
      | .ok (_, rest) => colon rest
    else .error (.next .nameNotText (c :: rest))

def Bracket.closing : Bracket → Char
  | .list => ']'
  | .object => '\x7d'

/-- The fault of a text that ends within a bracket. -/
def Bracket.ended : Bracket → Cause
  | .list => .endInList
  | .object => .endInObject

/-- The fault of something that is neither a comma nor the closing bracket. -/
def Bracket.unended : Bracket → Cause
  | .list => .expectedListEnd
  | .object => .expectedObjectEnd

/-- Skips what is left of a value, in at most `fuel` steps. The open brackets are kept innermost
first, so nesting is not limited. -/
def skipFrom (textFuel : Nat) : Nat → Skipping → List Bracket → Reader Unit
  | 0, _, _, _ => .error (.malformed .endInValue 0)
  | fuel + 1, .value, open', cs =>
    match skipSpace cs with
    | '[' :: rest => skipFrom textFuel fuel (.inside false) (.list :: open') rest
    | '\x7b' :: rest => skipFrom textFuel fuel (.inside false) (.object :: open') rest
    | cs =>
      match skipScalar textFuel cs with
      | .error e => .error e
      | .ok (_, rest) =>
        match open' with
        | [] => .ok ((), rest)
        | _ :: _ => skipFrom textFuel fuel (.inside true) open' rest
  | _ + 1, .inside _, [], cs => .ok ((), cs)
  | fuel + 1, .inside comma, b :: open', cs =>
    match skipSpace cs with
    | [] => .error (.malformed b.ended 0)
    | c :: rest =>
      let next := if b = .object then Skipping.member else Skipping.value
      if comma ∧ c = ',' then skipFrom textFuel fuel next (b :: open') rest
      else if c = b.closing then
        match open' with
        | [] => .ok ((), rest)
        | _ :: _ => skipFrom textFuel fuel (.inside true) open' rest
      else if comma then .error (.next b.unended (c :: rest))
      else skipFrom textFuel fuel next (b :: open') (c :: rest)
  | fuel + 1, .member, open', cs =>
    match skipName textFuel cs with
    | .error e => .error e
    | .ok (_, rest) => skipFrom textFuel fuel .value open' rest

def skipValue (fuel : Nat) : Reader Unit := skipFrom fuel (2 * fuel + 2) .value []

end Alerting.Json
