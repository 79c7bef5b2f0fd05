import Alerting.Json.Fault
import Alerting.Json.Value

/-!
# Numerals

A numeral is a sign, whole digits without a leading zero, a fraction and an exponent. A natural
number below 2^64 is kept as it is. Any other one must be within the range of 64-bit floating point:
as many of its digits as stay below 2^64 are rounded to 53 bits and multiplied by the rounded power
of ten, and the product must not round to infinity.
-/

namespace Alerting.Json

open Text

/-- `n` rounded to 53 significant bits, to even on a tie. -/
def round53 (n : Nat) : Nat :=
  if n < Nat.pow 2 53 then n
  else
    let unit := Nat.pow 2 (n.log2 - 52)
    let q := n / unit
    let r := n % unit
    if unit < 2 * r ∨ (2 * r = unit ∧ q % 2 = 1) then (q + 1) * unit else q * unit

/-- A significand and an exponent of ten that are beyond the range of floating point. -/
def TooLarge (significand : Nat) (exponent : Int) : Prop :=
  0 < significand ∧ 0 ≤ exponent ∧
    (308 < exponent ∨
      Nat.pow 2 1024 - Nat.pow 2 970 ≤
        round53 significand * round53 (Nat.pow 10 exponent.toNat))

instance (significand : Nat) (exponent : Int) : Decidable (TooLarge significand exponent) :=
  inferInstanceAs (Decidable (_ ∧ _ ∧ (_ ∨ _)))

/-- Takes digits after `n` while the number stays below 2^64; the digits left out are returned. -/
def extend64 : Nat → List Char → Nat × List Char
  | n, [] => (n, [])
  | n, c :: cs =>
    if 10 * n + digitValue c < Nat.pow 2 64 then extend64 (10 * n + digitValue c) cs
    else (n, c :: cs)

/-- The written parts of a number. -/
structure Numeral where
  negative : Bool
  whole : List Char
  fraction : Option (List Char)
  /-- The exponent: whether it is negative, and its digits. -/
  exponent : Option (Bool × List Char)

namespace Numeral

/-- The digits that count, as a number and the exponent of ten that goes with it. -/
def scaled (n : Numeral) : Nat × Int :=
  let whole := extend64 0 n.whole
  let fraction := n.fraction.getD []
  let both := extend64 whole.1 fraction
  (both.1, whole.2.length - (fraction.length - both.2.length : Nat))

def exponentLimit : Nat := 2147483647

def writtenExponent (n : Numeral) : Int :=
  match n.exponent with
  | none => 0
  | some (negative, digits) => if negative then -(digitsValue digits) else digitsValue digits

/-- The value of a numeral, or none where it is out of range. -/
def value? (n : Numeral) : Option Number :=
  let digits := digitsValue n.whole
  if n.negative = false ∧ n.fraction = none ∧ n.exponent = none ∧ digits < Nat.pow 2 64 then
    some (.natural digits)
  else
    let exponent := n.scaled.2 + n.writtenExponent
    if TooLarge n.scaled.1 exponent then none
    else some (.decimal n.negative n.scaled.1 exponent)

/-- How many digits of the exponent are beyond the one with which it passes its limit. -/
def unreadDigits (n : Numeral) : Nat :=
  match n.exponent with
  | none => 0
  | some (_, digits) =>
    digits.length -
      ((List.range (digits.length + 1)).find? fun k =>
        exponentLimit < digitsValue (digits.take k)).getD digits.length

end Numeral

/-- The whole digits of a numeral: a zero alone, or digits that do not start with one. -/
def wholeDigits : Reader (List Char)
  | [] => .error (.malformed .endInValue 0)
  | c :: rest =>
    if c = '0' then
      match rest with
      | d :: _ => if d.isDigit then .error (.next .invalidNumber rest) else .ok ([c], rest)
      | [] => .ok ([c], [])
    else if c.isDigit then .ok (c :: rest.takeWhile Char.isDigit, rest.dropWhile Char.isDigit)
    else .error (.next .invalidNumber (c :: rest))

def fractionDigits : Reader (Option (List Char))
  | '.' :: rest =>
    match rest with
    | [] => .error (.malformed .endInValue 0)
    | d :: _ =>
      if d.isDigit then .ok (some (rest.takeWhile Char.isDigit), rest.dropWhile Char.isDigit)
      else .error (.next .invalidNumber rest)
  | rest => .ok (none, rest)

/-- The digits of an exponent after its sign. -/
def exponentDigits (negative : Bool) : Reader (Option (Bool × List Char))
  | [] => .error (.malformed .endInValue 0)
  | d :: rest =>
    if d.isDigit then
      .ok (some (negative, d :: rest.takeWhile Char.isDigit), rest.dropWhile Char.isDigit)
    else .error (.next .invalidNumber (d :: rest))

def exponentPart : Reader (Option (Bool × List Char))
  | 'e' :: '+' :: rest | 'E' :: '+' :: rest => exponentDigits false rest
  | 'e' :: '-' :: rest | 'E' :: '-' :: rest => exponentDigits true rest
  | 'e' :: rest | 'E' :: rest => exponentDigits false rest
  | rest => .ok (none, rest)

/-- A numeral after its sign. -/
def unsigned (negative : Bool) : Reader Numeral := fun cs => do
  let (whole, cs) ← wholeDigits cs
  let (fraction, cs) ← fractionDigits cs
  let (exponent, cs) ← exponentPart cs
  .ok (⟨negative, whole, fraction, exponent⟩, cs)

def readNumber : Reader Number := fun cs => do
  let (n, rest) ← match cs with
    | '-' :: cs => unsigned true cs
    | cs => unsigned false cs
  match n.value? with
  | some v => .ok (v, rest)
  | none => .error (.malformed .numberOutOfRange (byteLength rest + n.unreadDigits))

/-- Skips a numeral without asking for its value. A numeral that ends too early is malformed. -/
def skipNumber : Reader Unit := fun cs =>
  let read := match cs with
    | '-' :: cs => unsigned true cs
    | cs => unsigned false cs
  match read with
  | .ok (_, rest) => .ok ((), rest)
  | .error (.malformed _ left) => .error (.malformed .invalidNumber left)
  | .error e => .error e

end Alerting.Json
