import Alerting.Text.Basic
import Alerting.Time.Instant

/-!
# Instants as text

What is read is a date, one of `T`, `t` and a blank, a time of day and an offset. Blanks are allowed in
front of every number and mark, but for the sign of the year. The year takes four digits, or any number
of them after a sign; the fraction counts to nine digits and drops the rest; the offset is `Z`, `UTC` or
a signed count of hours and minutes.

What is written is universal time, with three, six or nine digits of fraction, the fewest that lose
nothing, and no point for a whole second. A year beyond 0 to 9999 takes a sign. A leap second is the
second 60.
-/

namespace Alerting.Instant

/-! ## Reading -/

open Text

/-- The longest run of at most `width` digits in front, and the rest. -/
def spanDigits : Nat → List Char → List Char × List Char
  | 0, cs => ([], cs)
  | _ + 1, [] => ([], [])
  | width + 1, c :: cs =>
    if c.isDigit then ((c :: (spanDigits width cs).1), (spanDigits width cs).2) else ([], c :: cs)

/-- A number of one to `width` digits. -/
def number? (width : Nat) (cs : List Char) : Option (Nat × List Char) :=
  match spanDigits width cs with
  | ([], _) => none
  | (digits, rest) => some (digitsValue digits, rest)

/-- A number after blanks. -/
def field? (width : Nat) (cs : List Char) : Option (Nat × List Char) := number? width (trimFront cs)

/-- A mark after blanks. -/
def mark? (c : Char) (cs : List Char) : Option (List Char) :=
  match trimFront cs with
  | [] => none
  | d :: rest => if d = c then some rest else none

/-- The year: four digits at most, or a sign and any number of them. -/
def year? (cs : List Char) : Option (Int × List Char) :=
  match trimFront cs with
  | '-' :: rest => (number? rest.length rest).map fun r => (-(r.1 : Int), r.2)
  | '+' :: rest => (number? rest.length rest).map fun r => ((r.1 : Int), r.2)
  | rest => (number? 4 rest).map fun r => ((r.1 : Int), r.2)

def date? (cs : List Char) : Option (Date × List Char) := do
  let (year, cs) ← year? cs
  let cs ← mark? '-' cs
  let (month, cs) ← field? 2 cs
  let cs ← mark? '-' cs
  let (day, cs) ← field? 2 cs
  some (⟨year, month, day⟩, cs)

/-- The nanoseconds of the fraction; none is written without a point. -/
def fraction? : List Char → Option (Nat × List Char)
  | '.' :: cs =>
    match spanDigits 9 cs with
    | ([], _) => none
    | (digits, rest) =>
      some (digitsValue digits * Nat.pow 10 (9 - digits.length), rest.dropWhile Char.isDigit)
  | cs => some (0, cs)

/-- The seconds of the day and the nanoseconds; the second 60 is a leap second. -/
def timeOfDay? (cs : List Char) : Option ((Nat × Nat) × List Char) := do
  let (hour, cs) ← field? 2 cs
  let cs ← mark? ':' cs
  let (minute, cs) ← field? 2 cs
  let cs ← mark? ':' cs
  let (second, cs) ← field? 2 cs
  let (nanos, cs) ← fraction? cs
  if hour ≤ 23 ∧ minute ≤ 59 ∧ second ≤ 60 then
    let before := hour * 3600 + minute * 60
    if second = 60 then some ((before + 59, Span.second + nanos), cs)
    else some ((before + second, nanos), cs)
  else none

def twoDigits? : List Char → Option (Nat × List Char)
  | a :: b :: rest => if a.isDigit ∧ b.isDigit then some (digitsValue [a, b], rest) else none
  | _ => none

/-- Hours and minutes in seconds, with any colons and blanks between them. -/
def hoursMinutes? (cs : List Char) : Option (Nat × List Char) := do
  let (hours, cs) ← twoDigits? cs
  let (minutes, cs) ← twoDigits? (cs.dropWhile fun c => c == ':' || isBlank c)
  if minutes ≤ 59 then some (hours * 3600 + minutes * 60, cs) else none

/-- The offset from universal time in seconds. -/
def offset? : List Char → Option (Int × List Char)
  | 'Z' :: rest | 'z' :: rest => some (0, rest)
  | '+' :: rest => (hoursMinutes? rest).map fun r => ((r.1 : Int), r.2)
  | '-' :: rest | '−' :: rest => (hoursMinutes? rest).map fun r => (-(r.1 : Int), r.2)
  | a :: b :: c :: rest =>
    if (a = 'U' ∨ a = 'u') ∧ (b = 'T' ∨ b = 't') ∧ (c = 'C' ∨ c = 'c') then some (0, rest) else none
  | _ => none

/-- The instant of a local date and time of day with an offset. The local date and the instant must
both lie in the calendar's range. -/
def ofLocal? (date : Date) (second nanos : Nat) (offset : Int) : Option Instant :=
  if date.IsValid ∧ offset.natAbs < 86400 ∧ -262143 ≤ date.year ∧ date.year ≤ 262142 then
    of? (date.toDays * 86400 + second - offset) nanos
  else none

def ofChars? (cs : List Char) : Option Instant := do
  let (date, cs) ← date? cs
  let cs ← match cs with
    | 'T' :: rest | 't' :: rest | ' ' :: rest => some rest
    | _ => none
  let ((second, nanos), cs) ← timeOfDay? cs
  let (offset, cs) ← offset? (trimFront cs)
  if (trimFront cs).isEmpty then ofLocal? date second nanos offset else none

def ofString? (s : String) : Option Instant := ofChars? s.toList

/-! ## Writing -/

/-- Four digits, or a sign and at least four digits. -/
def printYear (year : Int) : List Char :=
  if 0 ≤ year ∧ year ≤ 9999 then paddedDecimal 4 year.toNat
  else (if year < 0 then '-' else '+') :: paddedDecimal 4 year.natAbs

def printFraction (nanos : Nat) : List Char :=
  if nanos = 0 then []
  else if nanos % 1000000 = 0 then '.' :: paddedDecimal 3 (nanos / 1000000)
  else if nanos % 1000 = 0 then '.' :: paddedDecimal 6 (nanos / 1000)
  else '.' :: paddedDecimal 9 nanos

/-- The characters of an instant up to its whole second. -/
def printSecond (t : Instant) : List Char :=
  let date := Date.ofDays (t.seconds / 86400)
  let ofDay := (t.seconds % 86400).toNat
  let second := ofDay % 60 + t.nanos / Span.second
  printYear date.year ++ '-' :: paddedDecimal 2 date.month ++ '-' :: paddedDecimal 2 date.day ++
    'T' :: paddedDecimal 2 (ofDay / 3600) ++ ':' :: paddedDecimal 2 (ofDay / 60 % 60) ++
    ':' :: paddedDecimal 2 second

def print (t : Instant) : List Char :=
  t.printSecond ++ printFraction (t.nanos % Span.second) ++ ['Z']

def toText (t : Instant) : String := String.ofList t.print

/-- The text of an instant to the microsecond, always with six digits of fraction. -/
def stamp (t : Instant) : String :=
  String.ofList
    (t.printSecond ++ '.' :: paddedDecimal 6 (t.nanos % Span.second / 1000) ++ ['Z'])

end Alerting.Instant
