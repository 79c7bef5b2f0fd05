import Alerting.Pattern.Flags

/-!
# Expressions

A pattern as it is written. Sequences, alternatives and the items of a class are chained to the
right, so a chain is one level of nesting however long it is.
-/

namespace Alerting.Pattern

/-- A character as written; `byte` tells the form of `\x` with two digits, which without Unicode
stands for a byte. -/
structure Literal where
  char : Char
  byte : Bool
  deriving DecidableEq

/-- Assertions about a place in the text, as written. -/
inductive Anchor where
  | lineStart
  | lineEnd
  | textStart
  | textEnd
  | wordBoundary
  | notWordBoundary
  | wordStart
  | wordEnd
  | wordStartHalf
  | wordEndHalf
  deriving DecidableEq

inductive AsciiClass where
  | alnum | alpha | ascii | blank | cntrl | digit | graph
  | lower | print | punct | space | upper | word | xdigit
  deriving DecidableEq

inductive LetterClass where
  | digit
  | space
  | word
  deriving DecidableEq

/-- Operators between the parts of a class. -/
inductive SetOp where
  | inter
  | diff
  | symmDiff
  deriving DecidableEq

inductive SetExpr where
  | empty
  | char (c : Literal)
  | range (low high : Literal)
  | ascii (negated : Bool) (c : AsciiClass)
  | letter (negated : Bool) (c : LetterClass)
  /-- A property, or a property with a value. -/
  | property (negated : Bool) (name : String) (value : Option String)
  | bracketed (negated : Bool) (s : SetExpr)
  | union (s t : SetExpr)
  | op (o : SetOp) (s t : SetExpr)

inductive Expr where
  | empty
  | char (c : Literal)
  | dot
  | anchor (a : Anchor)
  | set (s : SetExpr)
  /-- A change of flags up to the end of the group. -/
  | flags (f : FlagChange)
  | group (f : FlagChange) (captures : Bool) (e : Expr)
  | cat (e₁ e₂ : Expr)
  | or (e₁ e₂ : Expr)
  | repeated (low : Nat) (high : Option Nat) (e : Expr)

namespace SetExpr

def ofItems : List SetExpr → SetExpr
  | [] => .empty
  | [s] => s
  | s :: rest => .union s (ofItems rest)

def isUnion : SetExpr → Bool
  | .union _ _ => true
  | _ => false

def depth : SetExpr → Nat
  | .bracketed _ s => s.depth + 1
  | .union s t => max (s.depth + 1) (if t.isUnion then t.depth else t.depth + 1)
  | .op _ s t => max s.depth t.depth + 1
  | _ => 0

end SetExpr

namespace Expr

def ofSequence : List Expr → Expr
  | [] => .empty
  | [e] => e
  | e :: rest => .cat e (ofSequence rest)

/-- Alternatives; the last one stands apart, since there is always one. -/
def ofAlternatives : List Expr → Expr → Expr
  | [], last => last
  | e :: rest, last => .or e (ofAlternatives rest last)

def isCat : Expr → Bool
  | .cat _ _ => true
  | _ => false

def isOr : Expr → Bool
  | .or _ _ => true
  | _ => false

/-- The expression cannot be repeated: it is nothing, or a change of flags. -/
def isUnrepeatable : Expr → Bool
  | .empty => true
  | .flags _ => true
  | _ => false

def depth : Expr → Nat
  | .set s => s.depth
  | .group _ _ e => e.depth + 1
  | .cat e₁ e₂ => max (e₁.depth + 1) (if e₂.isCat then e₂.depth else e₂.depth + 1)
  | .or e₁ e₂ => max (e₁.depth + 1) (if e₂.isOr then e₂.depth else e₂.depth + 1)
  | .repeated _ _ e => e.depth + 1
  | _ => 0

end Expr

end Alerting.Pattern
