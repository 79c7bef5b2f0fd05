import Alerting.Unicode.Property

/-!
# Texts

Blank characters, numbers as decimal and hexadecimal digits and back, UTF-8, and the form in which
messages show a text that may hold anything: in quotation marks, with characters that cannot be seen
by themselves as numbers.
-/

namespace Alerting.Text

/-! ## Blank characters -/

/-- The characters with the property White_Space. -/
def isBlank (c : Char) : Bool :=
  let n := c.toNat
  (9 ≤ n && n ≤ 13) || n == 0x20 || n == 0x85 || n == 0xA0 || n == 0x1680 ||
    (0x2000 ≤ n && n ≤ 0x200A) || n == 0x2028 || n == 0x2029 || n == 0x202F || n == 0x205F ||
    n == 0x3000

def trimFront (cs : List Char) : List Char := cs.dropWhile isBlank

/-- Drops the blank characters at both ends. -/
def trim (cs : List Char) : List Char :=
  (trimFront (trimFront cs).reverse).reverse

/-! ## Digits and bytes -/

def decimal (n : Nat) : List Char := Nat.toDigits 10 n

/-- The decimal digits of `n`, with zeros in front up to `width` places. -/
def paddedDecimal (width n : Nat) : List Char :=
  List.replicate (width - (decimal n).length) '0' ++ decimal n

/-- The hexadecimal digits of `n` in lower case, with zeros in front up to `width` places. -/
def paddedHex (width n : Nat) : List Char :=
  let digits := Nat.toDigits 16 n
  List.replicate (width - digits.length) '0' ++ digits

def digitValue (c : Char) : Nat := c.toNat - '0'.toNat

/-- The number that a list of decimal digits writes. -/
def digitsValue (cs : List Char) : Nat := cs.foldl (fun n c => 10 * n + digitValue c) 0

/-- The value of a hexadecimal digit of either case. -/
def hexValue? (c : Char) : Option Nat :=
  if '0' ≤ c ∧ c ≤ '9' then some (c.toNat - '0'.toNat)
  else if 'a' ≤ c ∧ c ≤ 'f' then some (c.toNat - 'a'.toNat + 10)
  else if 'A' ≤ c ∧ c ≤ 'F' then some (c.toNat - 'A'.toNat + 10)
  else none

def byteLength (cs : List Char) : Nat := cs.foldl (fun n c => n + c.utf8Size) 0

def bytes (cs : List Char) : List UInt8 := cs.flatMap String.utf8EncodeChar

/-! ## Quotation marks -/

/-- The character is not seen by itself. -/
def isHidden (c : Char) : Bool :=
  if c.toNat < 0x80 then c.toNat < 0x20 || c.toNat == 0x7F
  else Unicode.graphemeExtenders.contains c.toNat || Unicode.unprintable.contains c.toNat

def quotedChar (c : Char) : List Char :=
  if c = '\x00' then ['\\', '0']
  else if c = '\t' then ['\\', 't']
  else if c = '\n' then ['\\', 'n']
  else if c = '\r' then ['\\', 'r']
  else if c = '\\' then ['\\', '\\']
  else if c = '"' then ['\\', '"']
  else if isHidden c then
    '\\' :: 'u' :: '\x7b' :: Nat.toDigits 16 c.toNat ++ ['\x7d']
  else [c]

def quoted (s : String) : String :=
  String.ofList ('"' :: s.toList.flatMap quotedChar ++ ['"'])

end Alerting.Text
