import Alerting.Pattern.Expr
import Alerting.Text.Basic
import Alerting.Unicode.Property

/-!
# Small parts of a pattern

Numbers, escapes, flags and names of groups. In verbose mode blanks and comments may stand between
any two characters of these but for names and flags; a comment runs from `#` to the end of the line.
-/

namespace Alerting.Pattern

open Text

/-- Drops blanks and comments; `comment` tells whether the text starts within a comment. -/
def skipVerbose (comment : Bool) : List Char → List Char
  | [] => []
  | c :: cs =>
    if comment then skipVerbose (c != '\n') cs
    else if isBlank c then skipVerbose false cs
    else if c = '#' then skipVerbose true cs
    else c :: cs

/-- Drops what does not count in front. -/
def skip (verbose : Bool) (cs : List Char) : List Char :=
  if verbose then skipVerbose false cs else cs

/-- Drops digits in front, each with what does not count behind it, in at most `fuel` steps. -/
def digitsThrough (verbose : Bool) : Nat → List Char → List Char × List Char
  | 0, cs => ([], cs)
  | _ + 1, [] => ([], [])
  | fuel + 1, c :: cs =>
    if c.isDigit then
      let r := digitsThrough verbose fuel (skip verbose cs)
      (c :: r.1, r.2)
    else ([], c :: cs)

/-- Drops blanks, each with what does not count behind it, in at most `fuel` steps. -/
def blanksThrough (verbose : Bool) : Nat → List Char → List Char
  | 0, cs => cs
  | _ + 1, [] => []
  | fuel + 1, c :: cs =>
    if isBlank c then blanksThrough verbose fuel (skip verbose cs) else c :: cs

/-- A number below 2^32 with blanks around it. -/
def number? (verbose : Bool) (cs : List Char) : Option (Nat × List Char) :=
  match digitsThrough verbose cs.length (trimFront cs) with
  | ([], _) => none
  | (digits, rest) =>
    let n := digitsValue digits
    if n < Nat.pow 2 32 then some (n, blanksThrough verbose rest.length rest) else none

/-- The closing brace behind both bounds of a counted repetition. -/
def closeBounds? (low high : Nat) : List Char → Option ((Nat × Option Nat) × List Char)
  | '\x7d' :: rest => if low ≤ high then some ((low, some high), rest) else none
  | _ => none

/-- The upper bound of a counted repetition, which may be left out, and its closing brace. -/
def upper? (verbose : Bool) (low : Nat) : List Char → Option ((Nat × Option Nat) × List Char)
  | '\x7d' :: rest => some ((low, none), rest)
  | cs => (number? verbose cs).bind fun r => closeBounds? low r.1 r.2

/-- The bounds of a counted repetition after its brace, and what follows the closing one. -/
def bounds? (verbose : Bool) (cs : List Char) : Option ((Nat × Option Nat) × List Char) := do
  let (low, cs) ← number? verbose (skip verbose cs)
  match cs with
  | '\x7d' :: rest => some ((low, some low), rest)
  | ',' :: rest => upper? verbose low (skip verbose rest)
  | _ => none

/-! ## Escapes -/

/-- The characters that have a meaning outside or inside classes. -/
def metaCharacters : List Char :=
  ['\\', '.', '+', '*', '?', '(', ')', '|', '[', ']', '\x7b', '\x7d', '^', '$', '#', '&', '-', '~']

/-- The character stands for itself after a backslash. -/
def isEscapable (c : Char) : Bool :=
  metaCharacters.contains c ||
    (c.toNat < 0x80 && !c.isAlpha && !c.isDigit && c != '<' && c != '>')

/-- The character of a code point, if it is one. -/
def scalar? (n : Nat) : Option Char := if n.isValidChar then some (Char.ofNat n) else none

def hexNumber (digits : List Nat) : Nat := digits.foldl (fun n d => n * 16 + d) 0

/-- Exactly `count` hexadecimal digits; there is at least one of them. -/
def hexFixed? (verbose : Bool) : Nat → List Nat → List Char → Option (Nat × List Char)
  | 0, read, cs => some (hexNumber read.reverse, cs)
  | _ + 1, _, [] => none
  | count + 1, read, c :: cs =>
    match hexValue? c with
    | some d => hexFixed? verbose count (d :: read) (skip verbose cs)
    | none => none

/-- Hexadecimal digits up to the closing brace, in at most `fuel` steps. -/
def hexBraced? (verbose : Bool) : Nat → List Nat → List Char → Option (Nat × List Char)
  | 0, _, _ => none
  | _ + 1, _, [] => none
  | fuel + 1, read, c :: cs =>
    if c = '\x7d' then if read.isEmpty then none else some (hexNumber read.reverse, cs)
    else
      match hexValue? c with
      | some d => hexBraced? verbose fuel (d :: read) (skip verbose cs)
      | none => none

/-- A number in braces, or one of so many digits, and whether it is of two digits without braces. -/
def hexDigits? (verbose : Bool) (digits : Nat) : List Char → Option ((Nat × Bool) × List Char)
  | '\x7b' :: rest =>
    (hexBraced? verbose (rest.length + 1) [] (skip verbose rest)).map fun r => ((r.1, false), r.2)
  | cs => (hexFixed? verbose digits [] cs).map fun r => ((r.1, digits = 2), r.2)

/-- A character by its number: after `x`, `u` and `U` two, four and eight digits, or any in
braces. -/
def hexEscape? (verbose : Bool) (digits : Nat) (cs : List Char) : Option (Literal × List Char) :=
  (hexDigits? verbose digits (skip verbose cs)).bind fun r =>
    (scalar? r.1.1).map fun c => (⟨c, r.1.2⟩, r.2)

/-- The characters up to the closing brace, in at most `fuel` steps. -/
def braced? (verbose : Bool) : Nat → List Char → List Char → Option (List Char × List Char)
  | 0, _, _ => none
  | _ + 1, _, [] => none
  | fuel + 1, read, c :: cs =>
    if c = '\x7d' then some (read.reverse, cs)
    else braced? verbose fuel (c :: read) (skip verbose cs)

/-- The parts of a text around the first place where it has `mark`. -/
def splitAt? (mark : List Char) : List Char → Option (List Char × List Char)
  | [] => none
  | c :: cs =>
    if mark.isPrefixOf (c :: cs) then some ([], (c :: cs).drop mark.length)
    else (splitAt? mark cs).map fun r => (c :: r.1, r.2)

/-- A property by its name in braces, perhaps with a value. -/
def propertyOf (negated : Bool) (cs : List Char) : SetExpr :=
  let valued (r : List Char × List Char) : SetExpr :=
    .property negated (String.ofList r.1) (some (String.ofList r.2))
  match splitAt? ['!', '='] cs with
  | some r => valued r
  | none =>
    match splitAt? [':'] cs with
    | some r => valued r
    | none =>
      match splitAt? ['='] cs with
      | some r => valued r
      | none => .property negated (String.ofList cs) none

/-- The name of a property, in braces or of one character, as what it stands for. -/
def propertyName? (verbose negated : Bool) : List Char → Option (SetExpr × List Char)
  | [] => none
  | '\x7b' :: rest =>
    (braced? verbose (rest.length + 1) [] (skip verbose rest)).map fun r =>
      (propertyOf negated r.1, r.2)
  | c :: rest => if c = '\\' then none else some (.property negated c.toString none, rest)

/-- A property after its letter. -/
def property? (verbose negated : Bool) (cs : List Char) : Option (SetExpr × List Char) :=
  propertyName? verbose negated (skip verbose cs)

inductive Escape where
  | char (c : Literal)
  | set (s : SetExpr)
  | anchor (a : Anchor)

/-- A special word boundary by its name in braces, after the opening one. -/
def namedBoundary? (verbose : Bool) (cs : List Char) : Option (Anchor × List Char) :=
  (braced? verbose (cs.length + 1) [] cs).bind fun r =>
    if r.1 = "start".toList then some (.wordStart, r.2)
    else if r.1 = "end".toList then some (.wordEnd, r.2)
    else if r.1 = "start-half".toList then some (.wordStartHalf, r.2)
    else if r.1 = "end-half".toList then some (.wordEndHalf, r.2)
    else none

/-- A word boundary after its letter: a name in braces makes it a special one. -/
def wordBoundary? (verbose : Bool) (cs : List Char) : Option (Anchor × List Char) :=
  match cs with
  | '\x7b' :: rest =>
    match skip verbose rest with
    | [] => none
    | c :: inside =>
      if c.isAlpha ∨ c = '-' then namedBoundary? verbose (c :: inside)
      -- The braces are left to be read as a count.
      else some (.wordBoundary, cs)
  | cs => some (.wordBoundary, cs)

/-- What the first character of an escape announces. -/
inductive EscapeForm where
  /-- Nothing more. -/
  | plain (e : Escape)
  /-- A number of so many digits, or one in braces. -/
  | hex (digits : Nat)
  | property (negated : Bool)
  | wordBoundary

def EscapeForm.ofChar? (c : Char) : Option EscapeForm :=
  let char (d : Char) : Option EscapeForm := some (.plain (.char ⟨d, false⟩))
  let letter (negated : Bool) (l : LetterClass) : Option EscapeForm :=
    some (.plain (.set (.letter negated l)))
  let anchor (a : Anchor) : Option EscapeForm := some (.plain (.anchor a))
  if isEscapable c then char c
  else
    match c with
    | 'x' => some (.hex 2)
    | 'u' => some (.hex 4)
    | 'U' => some (.hex 8)
    | 'p' => some (.property false)
    | 'P' => some (.property true)
    | 'd' => letter false .digit
    | 'D' => letter true .digit
    | 's' => letter false .space
    | 'S' => letter true .space
    | 'w' => letter false .word
    | 'W' => letter true .word
    | 'a' => char '\x07'
    | 'f' => char '\x0c'
    | 't' => char '\t'
    | 'n' => char '\n'
    | 'r' => char '\r'
    | 'v' => char '\x0b'
    | 'A' => anchor .textStart
    | 'z' => anchor .textEnd
    | 'b' => some .wordBoundary
    | 'B' => anchor .notWordBoundary
    | '<' => anchor .wordStart
    | '>' => anchor .wordEnd
    | _ => none

def EscapeForm.read? (verbose : Bool) (cs : List Char) : EscapeForm → Option (Escape × List Char)
  | .plain e => some (e, cs)
  | .hex digits => (hexEscape? verbose digits cs).map fun r => (.char r.1, r.2)
  | .property negated => (property? verbose negated cs).map fun r => (.set r.1, r.2)
  | .wordBoundary => (wordBoundary? verbose cs).map fun r => (.anchor r.1, r.2)

def escape? (verbose : Bool) : List Char → Option (Escape × List Char)
  | [] => none
  | c :: rest => (EscapeForm.ofChar? c).bind (·.read? verbose rest)

/-! ## Groups -/

inductive Opening where
  /-- A change of flags up to the end of the group around it. -/
  | directive (f : FlagChange)
  /-- A group, perhaps with a name. -/
  | group (f : FlagChange) (captures : Bool) (name : Option (List Char))

/-- Flags up to a colon or a closing parenthesis, which is not read. `off` tells whether a hyphen
was read. -/
def flagChange? (on off : List Flag) (hyphen last : Bool) :
    List Char → Option (FlagChange × List Char)
  | [] => none
  | c :: cs =>
    if c = ':' ∨ c = ')' then
      if last then none else some (⟨on.reverse, off.reverse⟩, c :: cs)
    else if c = '-' then
      if hyphen then none else flagChange? on off true true cs
    else
      match Flag.ofChar? c with
      | none => none
      | some f =>
        if f ∈ on ∨ f ∈ off then none
        else if hyphen then flagChange? on (f :: off) true false cs
        else flagChange? (f :: on) off false false cs

def startsName (c : Char) : Bool := c == '_' || Unicode.alphabetic.contains c.toNat

def followsInName (c : Char) : Bool :=
  c == '_' || c == '.' || c == '[' || c == ']' || Unicode.alphanumeric.contains c.toNat

/-- The name of a group up to its angle bracket. -/
def groupName? (cs : List Char) : Option (List Char × List Char) :=
  let name := cs.takeWhile (· != '>')
  match name, cs.dropWhile (· != '>') with
  | first :: more, _ :: rest =>
    if startsName first ∧ more.all followsInName then some (name, rest) else none
  | _, _ => none

/-- The mark of a look at what stands ahead or behind. -/
def isLookMark (c : Option Char) : Bool := c == some '=' || c == some '!'

/-- A look at what stands ahead or behind, which is not supported. -/
def looksAround (cs : List Char) : Bool :=
  isLookMark cs.head? || (cs.head? == some '<' && isLookMark cs.tail.head?)

/-- What follows the mark in front of a name. -/
def nameMark? (cs : List Char) : Option (List Char) :=
  if cs.head? = some '<' then some cs.tail
  else if cs.head? = some 'P' ∧ cs.tail.head? = some '<' then some cs.tail.tail
  else none

/-- What flags belong to: a parenthesis ends the change, a colon opens a group. -/
def flagsEnd? (f : FlagChange) : List Char → Option (Opening × List Char)
  | [] => none
  | c :: rest =>
    if c = ')' then if f = .keep then none else some (.directive f, rest)
    else some (.group f false none, rest)

/-- A change of flags, or a group with one. -/
def flagged? (cs : List Char) : Option (Opening × List Char) :=
  (flagChange? [] [] false false cs).bind fun r => flagsEnd? r.1 r.2

/-- The opening of a group after its parenthesis. -/
def opening? (verbose : Bool) (cs : List Char) : Option (Opening × List Char) :=
  match skip verbose cs with
  | '?' :: rest =>
    if looksAround rest then none
    else
      match nameMark? rest with
      | some rest => (groupName? rest).map fun r => (.group .keep true (some r.1), r.2)
      | none => flagged? rest
  | cs => some (.group .keep true none, cs)

end Alerting.Pattern
