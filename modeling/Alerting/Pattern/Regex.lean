import Alerting.Pattern.Expr
import Alerting.Unicode.Property

/-!
# Regular expressions

What an expression stands for once its flags are settled: sets of characters and assertions,
composed. Settling goes from left to right, and a change of flags holds up to the end of its group,
alternatives included. Without Unicode a class may hold ASCII characters only, since any other would
match parts of characters.
-/

namespace Alerting.Pattern

/-- Assertions about a place in the text; `unicode` tells which characters make words. -/
inductive Look where
  | textStart
  | textEnd
  | lineStart
  | lineEnd
  /-- Lines that end in a carriage return, a line feed or both. -/
  | crlfStart
  | crlfEnd
  | wordBoundary (unicode : Bool)
  | notWordBoundary (unicode : Bool)
  | wordStart (unicode : Bool)
  | wordEnd (unicode : Bool)
  | wordStartHalf (unicode : Bool)
  | wordEndHalf (unicode : Bool)
  deriving DecidableEq

inductive Regex where
  | empty
  | chars (s : CharSet)
  | look (l : Look)
  | capture (r : Regex)
  | cat (r₁ r₂ : Regex)
  | or (r₁ r₂ : Regex)
  | repeated (low : Nat) (high : Option Nat) (r : Regex)

/-! ## Classes -/

namespace AsciiClass

def ranges : AsciiClass → List (Nat × Nat)
  | .alnum => [(0x30, 0x39), (0x41, 0x5A), (0x61, 0x7A)]
  | .alpha => [(0x41, 0x5A), (0x61, 0x7A)]
  | .ascii => [(0x00, 0x7F)]
  | .blank => [(0x09, 0x09), (0x20, 0x20)]
  | .cntrl => [(0x00, 0x1F), (0x7F, 0x7F)]
  | .digit => [(0x30, 0x39)]
  | .graph => [(0x21, 0x7E)]
  | .lower => [(0x61, 0x7A)]
  | .print => [(0x20, 0x7E)]
  | .punct => [(0x21, 0x2F), (0x3A, 0x40), (0x5B, 0x60), (0x7B, 0x7E)]
  | .space => [(0x09, 0x0D), (0x20, 0x20)]
  | .upper => [(0x41, 0x5A)]
  | .word => [(0x30, 0x39), (0x41, 0x5A), (0x5F, 0x5F), (0x61, 0x7A)]
  | .xdigit => [(0x30, 0x39), (0x41, 0x46), (0x61, 0x66)]

def set (c : AsciiClass) : CharSet := .ofRanges c.ranges

end AsciiClass

namespace LetterClass

def toAscii : LetterClass → AsciiClass
  | .digit => .digit
  | .space => .space
  | .word => .word

def set (unicode : Bool) (c : LetterClass) : CharSet :=
  if unicode then
    match c with
    | .digit => Unicode.digits
    | .space => Unicode.spaces
    | .word => Unicode.wordCharacters
  else c.toAscii.set

end LetterClass

def isAscii (s : CharSet) : Bool := (s.inter (.range 0x80 0x10FFFF)).changes.isEmpty

/-- A set under the flags: without Unicode it must be ASCII. -/
def allowed? (flags : Flags) (s : CharSet) : Option CharSet :=
  if flags.unicode || isAscii s then some s else none

/-- A set made blind to case where the flags ask for it. -/
def folded (flags : Flags) (s : CharSet) : CharSet :=
  if flags.ignoreCase then
    if flags.unicode then Unicode.foldCase s else Unicode.foldAsciiCase s
  else s

/-- A set, blind to case where the flags ask for it, and then negated where it is written so. -/
def foldedNegated (flags : Flags) (negated : Bool) (s : CharSet) : Option CharSet :=
  let s := folded flags s
  allowed? flags (if negated then s.compl else s)

/-- A character as it may stand in a class. -/
def Literal.inClass? (flags : Flags) (l : Literal) : Option Nat :=
  if flags.unicode ∨ l.char.toNat < 0x80 then some l.char.toNat else none

def SetOp.apply : SetOp → CharSet → CharSet → CharSet
  | .inter => .inter
  | .diff => .sdiff
  | .symmDiff => .symmDiff

def propertySet? (name : String) (value : Option String) : Option CharSet :=
  match value with
  | none => Unicode.set? name
  | some v => Unicode.valueSet? name v

def SetExpr.settle? (flags : Flags) : SetExpr → Option CharSet
  | .empty => some ∅
  | .char c => (c.inClass? flags).map .single
  | .range low high => do
    let low ← low.inClass? flags
    let high ← high.inClass? flags
    some (.range low high)
  | .ascii negated c => foldedNegated flags negated c.set
  | .letter negated c =>
    let s := c.set flags.unicode
    allowed? flags (if negated then s.compl else s)
  | .property negated name value =>
    if flags.unicode then (propertySet? name value).bind (foldedNegated flags negated) else none
  | .bracketed negated s => (s.settle? flags).bind (foldedNegated flags negated)
  | .union s t => do
    let s ← s.settle? flags
    let t ← t.settle? flags
    some (s.union t)
  | .op o s t => do
    let s ← s.settle? flags
    let t ← t.settle? flags
    some (o.apply (folded flags s) (folded flags t))

/-! ## Expressions -/

def Anchor.settle (flags : Flags) : Anchor → Look
  | .lineStart =>
    if flags.multiLine then if flags.crlf then .crlfStart else .lineStart else .textStart
  | .lineEnd => if flags.multiLine then if flags.crlf then .crlfEnd else .lineEnd else .textEnd
  | .textStart => .textStart
  | .textEnd => .textEnd
  | .wordBoundary => .wordBoundary flags.unicode
  | .notWordBoundary => .notWordBoundary flags.unicode
  | .wordStart => .wordStart flags.unicode
  | .wordEnd => .wordEnd flags.unicode
  | .wordStartHalf => .wordStartHalf flags.unicode
  | .wordEndHalf => .wordEndHalf flags.unicode

def dotSet (flags : Flags) : CharSet :=
  if flags.dotAll then .all
  else if flags.crlf then (CharSet.ofRanges [(0x0A, 0x0A), (0x0D, 0x0D)]).compl
  else (CharSet.single 0x0A).compl

/-- What a character stands for. Without Unicode two digits of `\x` must write an ASCII character,
and case is known of ASCII characters only. -/
def Literal.settle? (flags : Flags) (l : Literal) : Option Regex :=
  let n := l.char.toNat
  if flags.unicode then some (.chars (folded flags (.single n)))
  else if 0x80 ≤ n ∧ (l.byte ∨ flags.ignoreCase) then none
  else some (.chars (folded flags (.single n)))

/-- The regular expression of an expression, and the flags behind it. -/
def Expr.settle? (flags : Flags) : Expr → Option (Regex × Flags)
  | .empty => some (.empty, flags)
  | .char c => (c.settle? flags).map (·, flags)
  | .dot => if flags.unicode then some (.chars (dotSet flags), flags) else none
  | .anchor a => some (.look (a.settle flags), flags)
  | .set s => (s.settle? flags).map fun s => (.chars s, flags)
  | .flags f => some (.empty, flags.change f)
  | .group f captures e => do
    let (r, _) ← e.settle? (flags.change f)
    some (if captures then .capture r else r, flags)
  | .cat e₁ e₂ => do
    let (r₁, flags) ← e₁.settle? flags
    let (r₂, flags) ← e₂.settle? flags
    some (.cat r₁ r₂, flags)
  | .or e₁ e₂ => do
    let (r₁, flags) ← e₁.settle? flags
    let (r₂, flags) ← e₂.settle? flags
    some (.or r₁ r₂, flags)
  | .repeated low high e => do
    let (r, flags) ← e.settle? flags
    some (.repeated low high r, flags)

end Alerting.Pattern
