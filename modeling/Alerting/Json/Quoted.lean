import Alerting.Json.Fault

/-!
# Texts in quotes

In quotes a quotation mark, a backslash and the characters below U+0020 are escaped and all else
stands for itself. Reading takes every escape of JSON; a pair of surrogate escapes is one character
and a single one is refused. Skipping checks the escapes one by one and does not pair them.
-/

namespace Alerting.Json

open Text

def escape (c : Char) : List Char :=
  if c = '"' then ['\\', '"']
  else if c = '\\' then ['\\', '\\']
  else if c = '\x08' then ['\\', 'b']
  else if c = '\t' then ['\\', 't']
  else if c = '\n' then ['\\', 'n']
  else if c = '\x0c' then ['\\', 'f']
  else if c = '\r' then ['\\', 'r']
  else if c.toNat < 0x20 then '\\' :: 'u' :: paddedHex 4 c.toNat
  else [c]

def quote (s : String) : List Char := '"' :: s.toList.flatMap escape ++ ['"']

/-- The character of an escape of one letter. -/
def shortEscape? (c : Char) : Option Char :=
  if c = '"' then some '"'
  else if c = '\\' then some '\\'
  else if c = '/' then some '/'
  else if c = 'b' then some '\x08'
  else if c = 'f' then some '\x0c'
  else if c = 'n' then some '\n'
  else if c = 'r' then some '\r'
  else if c = 't' then some '\t'
  else none

/-- The number that four hexadecimal digits write. -/
def hexValue4? (a b c d : Char) : Option Nat := do
  let a ← hexValue? a
  let b ← hexValue? b
  let c ← hexValue? c
  let d ← hexValue? d
  some (((a * 16 + b) * 16 + c) * 16 + d)

/-- The four hexadecimal digits of an escape. With fewer than four bytes left the text ends too
early, whatever they are. -/
def codeUnit : Reader Nat := fun cs =>
  if byteLength cs < 4 then .error (.malformed .endInText 0)
  else
    let bad := .error (.malformed .invalidEscape (byteLength cs - 4))
    match cs with
    | a :: b :: c :: d :: rest =>
      match hexValue4? a b c d with
      | some n => .ok (n, rest)
      | none => bad
    | _ => bad

def hexEscape : Reader Char := fun cs => do
  let (high, rest) ← codeUnit cs
  if 0xDC00 ≤ high ∧ high ≤ 0xDFFF then .error (.here .loneSurrogate rest)
  else if 0xD800 ≤ high ∧ high ≤ 0xDBFF then
    match rest with
    | '\\' :: 'u' :: rest =>
      let (low, rest) ← codeUnit rest
      if 0xDC00 ≤ low ∧ low ≤ 0xDFFF then
        .ok (Char.ofNat ((high - 0xD800) * 0x400 + (low - 0xDC00) + 0x10000), rest)
      else .error (.here .loneSurrogate rest)
    | [] | ['\\'] => .error (.malformed .endInText 0)
    | '\\' :: rest | rest => .error (.next .brokenSurrogatePair rest)
  else .ok (Char.ofNat high, rest)

/-- The character of an escape, after its backslash. -/
def escaped : Reader Char
  | [] => .error (.malformed .endInText 0)
  | c :: rest =>
    if c = 'u' then hexEscape rest
    else
      match shortEscape? c with
      | some d => .ok (d, rest)
      | none => .error (.next .invalidEscape (c :: rest))

/-- The next character in quotes, or none at the closing quotation mark. -/
def quotedChar : Reader (Option Char)
  | [] => .error (.malformed .endInText 0)
  | c :: rest =>
    if c = '"' then .ok (none, rest)
    else if c = '\\' then do
      let (d, rest) ← escaped rest
      .ok (some d, rest)
    else if c.toNat < 0x20 then .error (.here .controlCharacter rest)
    else .ok (some c, rest)

/-- The rest of a text in quotes, in at most `fuel` steps; `read` holds what was read, last
character first. -/
def quotedRest : Nat → List Char → Reader String
  | 0, _, _ => .error (.malformed .endInText 0)
  | fuel + 1, read, cs =>
    match quotedChar cs with
    | .error e => .error e
    | .ok (none, rest) => .ok (String.ofList read.reverse, rest)
    | .ok (some c, rest) => quotedRest fuel (c :: read) rest

def skipEscaped : Reader Unit
  | [] => .error (.malformed .endInText 0)
  | c :: rest =>
    if c = 'u' then (codeUnit rest).map fun r => ((), r.2)
    else if (shortEscape? c).isSome then .ok ((), rest)
    else .error (.next .invalidEscape (c :: rest))

/-- Skips the rest of a text in quotes, in at most `fuel` steps. -/
def skipQuotedRest : Nat → Reader Unit
  | 0, _ => .error (.malformed .endInText 0)
  | _ + 1, [] => .error (.malformed .endInText 0)
  | fuel + 1, c :: rest =>
    if c = '"' then .ok ((), rest)
    else if c = '\\' then
      match skipEscaped rest with
      | .error e => .error e
      | .ok (_, rest) => skipQuotedRest fuel rest
    else if c.toNat < 0x20 then .error (.here .controlCharacter rest)
    else skipQuotedRest fuel rest

end Alerting.Json
