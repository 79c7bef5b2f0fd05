import Alerting.Text.Basic
import Alerting.Time.Calendar
import Alerting.Toml.Table

/-!
# Scalars of TOML text

Texts in four kinds of quotes, names, numbers, dates and times, and the blanks, comments and line
ends around them. A reader takes something off the front of a text. Where a number, a date or a time
stops, nothing of it may follow, so it does not matter where exactly a wrong one is noticed.
-/

namespace Alerting.Toml

open Text

/-- Reads something off the front of a text. -/
abbrev Reader (α : Type) := List Char → Option (α × List Char)

/-! ## Between values -/

def isGap (c : Char) : Bool := c == ' ' || c == '\t'

def skipGap (cs : List Char) : List Char := cs.dropWhile isGap

/-- A character that may stand in comments and, as it is, in texts. -/
def isPlain (c : Char) : Bool := c == '\t' || (0x20 ≤ c.toNat && c.toNat ≠ 0x7F)

/-- What follows a line break. -/
def lineBreak? : List Char → Option (List Char)
  | '\n' :: rest => some rest
  | '\r' :: '\n' :: rest => some rest
  | _ => none

/-- What follows the end of a line, which may have a comment. -/
def lineEnd? (cs : List Char) : Option (List Char) :=
  let rest := match skipGap cs with
    | '#' :: rest => rest.dropWhile isPlain
    | rest => rest
  if rest.isEmpty then some [] else lineBreak? rest

/-- Drops gaps, line breaks and comments in front of something that must follow. `comment` tells
whether the text starts inside a comment. -/
def skipLines? (comment : Bool) : List Char → Option (List Char)
  | [] => none
  | '\n' :: rest => skipLines? false rest
  | '\r' :: '\n' :: rest => skipLines? false rest
  | c :: rest =>
    if comment then if isPlain c then skipLines? true rest else none
    else if isGap c then skipLines? false rest
    else if c = '#' then skipLines? true rest
    else some (c :: rest)

/-! ## Texts -/

def hexEscape? (width : Nat) : Reader Char := fun cs => do
  let digits ← (cs.take width).mapM hexValue?
  let n := digits.foldl (fun n d => 16 * n + d) 0
  if digits.length = width ∧ n.isValidChar then some (Char.ofNat n, cs.drop width) else none

def escape? : Reader Char
  | [] => none
  | c :: rest =>
    if c = 'b' then some ('\x08', rest)
    else if c = 'f' then some ('\x0c', rest)
    else if c = 'n' then some ('\n', rest)
    else if c = 'r' then some ('\r', rest)
    else if c = 't' then some ('\t', rest)
    else if c = '"' ∨ c = '\\' then some (c, rest)
    else if c = 'u' then hexEscape? 4 rest
    else if c = 'U' then hexEscape? 8 rest
    else none

/-- The rest of a text in quotation marks, in at most `fuel` steps; `read` holds the characters that
were read, last one first. -/
def quotedRest? : Nat → List Char → Reader String
  | fuel + 1, read, c :: rest =>
    if c = '"' then some (String.ofList read.reverse, rest)
    else if c = '\\' then
      match escape? rest with
      | some (c, rest) => quotedRest? fuel (c :: read) rest
      | none => none
    else if isPlain c then quotedRest? fuel (c :: read) rest
    else none
  | _, _, _ => none

/-- The rest of a text in apostrophes. -/
def literalRest? : Reader String := fun cs =>
  let inside := fun c => c != '\'' && isPlain c
  match cs.dropWhile inside with
  | '\'' :: rest => some (String.ofList (cs.takeWhile inside), rest)
  | _ => none

/-- Drops gaps and line breaks in front. -/
def skipBreaks : List Char → List Char
  | [] => []
  | '\r' :: '\n' :: rest => skipBreaks rest
  | c :: rest => if isGap c ∨ c = '\n' then skipBreaks rest else c :: rest

/-- Drops line breaks and gaps, if there is a line break after the gap in front. -/
def foldedBreak? (cs : List Char) : Option (List Char) :=
  (lineBreak? (skipGap cs)).map skipBreaks

/-- The rest of a text in three marks, in at most `fuel` steps. Of up to five marks in a row the
last three close it. -/
def multilineRest? (mark : Char) : Nat → List Char → Reader String
  | fuel + 1, read, c :: rest =>
    let marks := ((c :: rest).takeWhile (· = mark)).length
    if 3 ≤ marks then
      let kept := min (marks - 3) 2
      some (String.ofList (List.replicate kept mark ++ read).reverse, (c :: rest).drop (kept + 3))
    else if c = '\\' ∧ mark = '"' then
      match foldedBreak? rest with
      | some rest => multilineRest? mark fuel read rest
      | none =>
        match escape? rest with
        | some (c, rest) => multilineRest? mark fuel (c :: read) rest
        | none => none
    else
      match lineBreak? (c :: rest) with
      | some rest => multilineRest? mark fuel ('\n' :: read) rest
      | none => if isPlain c then multilineRest? mark fuel (c :: read) rest else none
  | _, _, _ => none

/-- A text on one line, from its opening mark on. -/
def lineText? (fuel : Nat) : Reader String
  | '"' :: rest => quotedRest? fuel [] rest
  | '\'' :: rest => literalRest? rest
  | _ => none

/-- A text of any kind. A line break right after three marks is no part of it. -/
def text? (fuel : Nat) : Reader String := fun cs =>
  let multiline (mark : Char) (rest : List Char) :=
    multilineRest? mark fuel [] ((lineBreak? rest).getD rest)
  match cs with
  | '"' :: '"' :: '"' :: rest => multiline '"' rest
  | '\'' :: '\'' :: '\'' :: rest => multiline '\'' rest
  | cs => lineText? fuel cs

/-! ## Names -/

/-- A character of a name without marks. -/
def isBare (c : Char) : Bool := c.isAlphanum || c == '-' || c == '_'

def name? (fuel : Nat) : Reader String := fun cs =>
  match cs.takeWhile isBare with
  | [] => lineText? fuel cs
  | bare => some (String.ofList bare, cs.dropWhile isBare)

/-- Names with dots between them and gaps around them, in at most `fuel` steps. -/
def names? (textFuel : Nat) : Nat → Reader (List String)
  | 0, _ => none
  | fuel + 1, cs => do
    let (name, rest) ← name? textFuel (skipGap cs)
    match skipGap rest with
    | '.' :: rest => (names? textFuel fuel rest).map fun r => (name :: r.1, r.2)
    | rest => some ([name], rest)

/-- The number of names that a key may not reach. -/
def keyLimit : Nat := 80

/-- A key and the gap behind it. -/
def key? (fuel : Nat) : Reader Key := fun cs => do
  let (names, rest) ← names? fuel fuel cs
  if names.length < keyLimit then
    match names.reverse with
    | [] => none
    | name :: path => some (⟨path.reverse, name⟩, rest)
  else none

/-! ## Numbers -/

/-- Digits, each of which may have a low line in front. -/
def digitRun (isDigit : Char → Bool) : List Char → List Char × List Char
  | [] => ([], [])
  | [c] => if isDigit c then ([c], []) else ([], [c])
  | c :: d :: rest =>
    if isDigit c then
      let r := digitRun isDigit (d :: rest)
      (c :: r.1, r.2)
    else if c = '_' ∧ isDigit d then
      let r := digitRun isDigit rest
      (d :: r.1, r.2)
    else ([], c :: d :: rest)

/-- One digit and more of them. -/
def digits? (isDigit : Char → Bool) : Reader (List Char)
  | [] => none
  | c :: rest => if isDigit c then some (digitRun isDigit (c :: rest)) else none

/-- A zero alone, or digits that do not start with one. -/
def wholeDigits? : Reader (List Char)
  | '0' :: rest => some (['0'], rest)
  | cs => digits? Char.isDigit cs

/-- Whether there is a minus sign in front, and what follows the sign. -/
def sign : List Char → Bool × List Char
  | '-' :: rest => (true, rest)
  | '+' :: rest => (false, rest)
  | cs => (false, cs)

/-- An integer within the range of 64 bits. -/
def integerOf? (negative : Bool) (magnitude : Nat) : Option Value :=
  let n : Int := if negative then -magnitude else magnitude
  if -(Nat.pow 2 63 : Nat) ≤ n ∧ n < (Nat.pow 2 63 : Nat) then some (.integer n) else none

/-- The digits of the base that a letter after a zero stands for. -/
def base? (c : Char) : Option (Nat × (Char → Bool)) :=
  if c = 'x' then some (16, fun c => (hexValue? c).isSome)
  else if c = 'o' then some (8, fun c => '0' ≤ c && c ≤ '7')
  else if c = 'b' then some (2, fun c => c == '0' || c == '1')
  else none

/-- An integer: with a base and without a sign, or decimal. -/
def integer? : Reader Value := fun cs =>
  let decimal := do
    let (negative, cs) := sign cs
    let (digits, rest) ← wholeDigits? cs
    (integerOf? negative (digitsValue digits)).map (·, rest)
  match cs with
  | '0' :: c :: rest =>
    match base? c with
    | some (base, isDigit) => do
      let (digits, rest) ← digits? isDigit rest
      let n := digits.foldl (fun n d => base * n + (hexValue? d).getD 0) 0
      (integerOf? false n).map (·, rest)
    | none => decimal
  | _ => decimal

/-- The fraction with its point, as its digits; none where there is no point. -/
def fraction? : Reader (Option (List Char))
  | '.' :: rest => (digits? Char.isDigit rest).map fun r => (some r.1, r.2)
  | cs => some (none, cs)

/-- The exponent; none where there is no letter for it. -/
def exponent? : Reader (Option Int)
  | [] => some (none, [])
  | c :: rest =>
    if c = 'e' ∨ c = 'E' then do
      let (negative, rest) := sign rest
      let (digits, rest) ← digits? Char.isDigit rest
      let n : Int := digitsValue digits
      some (some (if negative then -n else n), rest)
    else some (none, c :: rest)

/-- `digits` times a power of ten rounds to infinity in 64-bit floating point. -/
def IsInfinite (digits : List Char) (exponent : Int) : Prop :=
  let digits := digits.dropWhile (· = '0')
  let size := digits.length + exponent
  digits ≠ [] ∧ 300 < size ∧
    (310 < size ∨
      (Nat.pow 2 1024 - Nat.pow 2 970) * Nat.pow 10 (-exponent).toNat ≤
        digitsValue digits * Nat.pow 10 exponent.toNat)

instance (digits : List Char) (exponent : Int) : Decidable (IsInfinite digits exponent) :=
  inferInstanceAs (Decidable (_ ∧ _ ∧ (_ ∨ _)))

/-- What `rest` leaves of a text that ends in it. -/
def consumed (cs rest : List Char) : List Char := cs.take (cs.length - rest.length)

/-- A float: with a fraction or an exponent, or one of the words for infinity and no number. Only
downwards it may be too large. -/
def float? : Reader Value := fun cs =>
  let (negative, unsigned) := sign cs
  match unsigned with
  | 'i' :: 'n' :: 'f' :: rest => some (.float (consumed cs rest), rest)
  | 'n' :: 'a' :: 'n' :: rest => some (.float (consumed cs rest), rest)
  | _ => do
    let (whole, rest) ← wholeDigits? unsigned
    let (fraction, rest) ← fraction? rest
    let (exponent, rest) ← exponent? rest
    let places := fraction.getD []
    if fraction.isNone ∧ exponent.isNone then none
    else if ¬negative ∧ IsInfinite (whole ++ places) (exponent.getD 0 - places.length) then none
    else some (.float (consumed cs rest), rest)

/-! ## Dates and times -/

/-- A number of exactly so many digits. -/
def fixed? (width : Nat) : Reader Nat := fun cs =>
  let digits := cs.take width
  if digits.length = width ∧ digits.all Char.isDigit then some (digitsValue digits, cs.drop width)
  else none

/-- What follows a character. -/
def mark? (c : Char) : List Char → Option (List Char)
  | [] => none
  | d :: rest => if d = c then some rest else none

def date? (cs : List Char) : Option (List Char) := do
  let (year, rest) ← fixed? 4 cs
  let (month, rest) ← fixed? 2 (← mark? '-' rest)
  let (day, rest) ← fixed? 2 (← mark? '-' rest)
  if (Date.mk year month day).IsValid then some rest else none

def hoursMinutes? (cs : List Char) : Option (List Char) := do
  let (hour, rest) ← fixed? 2 cs
  let (minute, rest) ← fixed? 2 (← mark? ':' rest)
  if hour ≤ 23 ∧ minute ≤ 59 then some rest else none

/-- A time of day, which may have a fraction. -/
def time? (cs : List Char) : Option (List Char) := do
  let rest ← hoursMinutes? cs
  let (second, rest) ← fixed? 2 (← mark? ':' rest)
  if second ≤ 60 then
    match rest with
    | '.' :: c :: rest =>
      if c.isDigit then some (rest.dropWhile Char.isDigit) else some ('.' :: c :: rest)
    | rest => some rest
  else none

/-- Drops an offset in front, if there is one. -/
def skipOffset : List Char → List Char
  | [] => []
  | c :: rest =>
    if c = 'Z' ∨ c = 'z' then rest
    else if c = '+' ∨ c = '-' then (hoursMinutes? rest).getD (c :: rest)
    else c :: rest

/-- Drops the time behind a date with its offset, if there is one. -/
def skipTime : List Char → List Char
  | [] => []
  | c :: rest =>
    if c = 'T' ∨ c = 't' ∨ c = ' ' then
      match time? rest with
      | some rest => skipOffset rest
      | none => c :: rest
    else c :: rest

/-- A date, perhaps with a time and an offset, or a time alone. -/
def moment? : Reader Value := fun cs =>
  let rest := match date? cs with
    | some rest => some (skipTime rest)
    | none => time? cs
  rest.map fun rest => (.moment (consumed cs rest), rest)

end Alerting.Toml
