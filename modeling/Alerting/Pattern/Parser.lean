import Alerting.Pattern.Lexis

/-!
# Reading patterns

A pattern is read from left to right. A class reads up to its closing bracket, a group up to its
closing parenthesis, and verbose mode lasts to the end of the group that switches it on. Each step
reads at least one character, so the length of the pattern bounds their number.
-/

namespace Alerting.Pattern

open Text

/-! ## Classes -/

def AsciiClass.ofName? (name : String) : Option AsciiClass :=
  match name with
  | "alnum" => some .alnum
  | "alpha" => some .alpha
  | "ascii" => some .ascii
  | "blank" => some .blank
  | "cntrl" => some .cntrl
  | "digit" => some .digit
  | "graph" => some .graph
  | "lower" => some .lower
  | "print" => some .print
  | "punct" => some .punct
  | "space" => some .space
  | "upper" => some .upper
  | "word" => some .word
  | "xdigit" => some .xdigit
  | _ => none

/-- A caret in front, which negates. -/
def caret : List Char → Bool × List Char
  | '^' :: rest => (true, rest)
  | cs => (false, cs)

/-- What follows the end of an ASCII class. -/
def asciiEnd? : List Char → Option (List Char)
  | ':' :: ']' :: rest => some rest
  | _ => none

/-- An ASCII class such as `[:alpha:]` after its opening bracket. -/
def asciiClass? : List Char → Option (SetExpr × List Char)
  | ':' :: cs =>
    let (negated, rest) := caret cs
    (asciiEnd? (rest.dropWhile (· != ':'))).bind fun after =>
      (AsciiClass.ofName? (String.ofList (rest.takeWhile (· != ':')))).map fun c =>
        (.ascii negated c, after)
  | _ => none

/-- Hyphens in front, each with what does not count behind it, in at most `fuel` steps. -/
def hyphens (verbose : Bool) : Nat → List SetExpr → List Char → List SetExpr × List Char
  | fuel + 1, items, '-' :: rest =>
    hyphens verbose fuel (.char ⟨'-', false⟩ :: items) (skip verbose rest)
  | _, items, cs => (items, cs)

/-- What stands for itself at the start of a class: the hyphens there, or else a closing bracket. -/
def leadingItems? (verbose : Bool) (hyphens : List SetExpr) : List Char →
    Option (List SetExpr × List Char)
  | [] => none
  | c :: rest =>
    if hyphens.isEmpty ∧ c = ']' then
      match skip verbose rest with
      | [] => none
      | d :: rest => some ([.char ⟨']', false⟩], d :: rest)
    else some (hyphens, c :: rest)

/-- The hyphens or the closing bracket that stand for themselves at the start of a class. -/
def leading? (verbose : Bool) (cs : List Char) : Option (List SetExpr × List Char) :=
  let start := hyphens verbose cs.length [] cs
  leadingItems? verbose start.1 start.2

/-- The start of a class after its opening bracket: whether it is negated, and what stands for itself
there. -/
def openClass? (verbose : Bool) (cs : List Char) : Option ((Bool × List SetExpr) × List Char) :=
  match caret (skip verbose cs) with
  | (true, rest) => (leading? verbose (skip verbose rest)).map fun r => ((true, r.1), r.2)
  | (false, rest) => (leading? verbose rest).map fun r => ((false, r.1), r.2)

/-- What an escape stands for in a class: no anchor may stand there. -/
def Escape.toSet? : Escape → Option SetExpr
  | .char l => some (.char l)
  | .set s => some s
  | .anchor _ => none

/-- A character, an escape or a property in a class. -/
def classItem? (verbose : Bool) : List Char → Option (SetExpr × List Char)
  | [] => none
  | c :: rest =>
    if c = '\\' then (escape? verbose rest).bind fun e => e.1.toSet?.map (·, e.2)
    else some (.char ⟨c, false⟩, rest)

/-- What stands past blanks, and past the mark of a comment but not the comment. -/
def pastBlanks (cs : List Char) : List Char :=
  match cs.dropWhile isBlank with
  | '#' :: comment => comment.dropWhile isBlank
  | rest => rest

/-- The character that comes next, where verbose mode looks past blanks if something stands there. -/
def peekAfter (verbose : Bool) (rest : List Char) : Option Char :=
  if verbose then (pastBlanks rest).head?.or rest.head? else rest.head?

/-- The hyphen in front of this stands for itself. -/
def isPlainHyphen (verbose : Bool) (rest : List Char) : Bool :=
  peekAfter verbose rest == some ']' || peekAfter verbose rest == some '-'

/-- The end of a range after its hyphen. -/
def rangeEnd? (verbose : Bool) (first : SetExpr) (cs : List Char) :
    Option (SetExpr × List Char) :=
  (classItem? verbose cs).bind fun last =>
    match first, last.1 with
    | .char low, .char high =>
      if low.char ≤ high.char then some (.range low high, last.2) else none
    | _, _ => none

/-- What may follow an item of a class: a hyphen and the end of a range. -/
def rangeRest? (verbose : Bool) (first : SetExpr) : List Char → Option (SetExpr × List Char)
  | [] => none
  | c :: rest =>
    if c = '-' ∧ ¬isPlainHyphen verbose rest then rangeEnd? verbose first (skip verbose rest)
    else some (first, c :: rest)

/-- An item of a class, or a range of two characters. -/
def classRange? (verbose : Bool) (cs : List Char) : Option (SetExpr × List Char) :=
  (classItem? verbose cs).bind fun first => rangeRest? verbose first.1 (skip verbose first.2)

/-- The operator that a character writes twice. -/
def SetOp.ofChar? (c : Char) : Option SetOp :=
  if c = '&' then some .inter
  else if c = '-' then some .diff
  else if c = '~' then some .symmDiff
  else none

def setOp? : List Char → Option (SetOp × List Char)
  | c :: d :: rest => if c = d then (SetOp.ofChar? c).map (·, rest) else none
  | _ => none

/-- What was read of a class: the operator that waits for its second operand, and the items of that
operand, last one first. -/
def closeClass (waiting : Option (SetOp × SetExpr)) (items : List SetExpr) : SetExpr :=
  match waiting with
  | none => .ofItems items.reverse
  | some (o, s) => .op o s (.ofItems items.reverse)

/-- The rest of a class up to its closing bracket, in at most `fuel` steps. -/
def classRest? (verbose : Bool) : Nat → Option (SetOp × SetExpr) → List SetExpr → List Char →
    Option (SetExpr × List Char)
  | 0, _, _, _ => none
  | fuel + 1, waiting, items, cs =>
    match skip verbose cs with
    | [] => none
    | ']' :: rest => some (closeClass waiting items, rest)
    | '[' :: rest =>
      match asciiClass? rest with
      | some (s, rest) => classRest? verbose fuel waiting (s :: items) rest
      | none =>
        (openClass? verbose rest).bind fun start =>
          (classRest? verbose fuel none start.1.2 start.2).bind fun inner =>
            classRest? verbose fuel waiting (.bracketed start.1.1 inner.1 :: items) inner.2
    | cs =>
      match setOp? cs with
      | some (o, rest) => classRest? verbose fuel (some (o, closeClass waiting items)) [] rest
      | none =>
        (classRange? verbose cs).bind fun item =>
          classRest? verbose fuel waiting (item.1 :: items) item.2

def class? (verbose : Bool) (cs : List Char) : Option (SetExpr × List Char) :=
  (openClass? verbose cs).bind fun start =>
    (classRest? verbose (start.2.length + 1) none start.1.2 start.2).map fun r =>
      (.bracketed start.1.1 r.1, r.2)

/-! ## Expressions -/

/-- What reading carries along: verbose mode, and the names of the groups so far. -/
structure Mode where
  verbose : Bool
  names : List (List Char)

/-- What was read of a group: the alternatives before the current one and the items of that, each
last one first. -/
structure Pending where
  alternatives : List Expr
  items : List Expr

namespace Pending

def start : Pending := ⟨[], []⟩

def push (p : Pending) (e : Expr) : Pending := { p with items := e :: p.items }

def next (p : Pending) : Pending := ⟨.ofSequence p.items.reverse :: p.alternatives, []⟩

/-- The last item repeated, if there is one that can be. -/
def repeat? (p : Pending) (low : Nat) (high : Option Nat) : Option Pending :=
  match p.items with
  | [] => none
  | e :: rest =>
    if e.isUnrepeatable then none else some { p with items := .repeated low high e :: rest }

def close (p : Pending) : Expr :=
  .ofAlternatives p.alternatives.reverse (.ofSequence p.items.reverse)

end Pending

/-- The mark that makes a repetition lazy is dropped. -/
def skipLazy : List Char → List Char
  | '?' :: rest => rest
  | cs => cs

/-- The bounds of a repetition, if one comes next. -/
def repetition? (verbose : Bool) : List Char → Option (Option ((Nat × Option Nat) × List Char))
  | '?' :: rest => some (some ((0, some 1), skipLazy rest))
  | '*' :: rest => some (some ((0, none), skipLazy rest))
  | '+' :: rest => some (some ((1, none), skipLazy rest))
  | '\x7b' :: rest =>
    some ((bounds? verbose rest).map fun r => (r.1, skipLazy (skip verbose r.2)))
  | _ => none

/-- What an escape stands for outside classes. -/
def Escape.toExpr : Escape → Expr
  | .char l => .char l
  | .set s => .set s
  | .anchor a => .anchor a

/-- An escape, an anchor, a dot or a character. -/
def atom? (verbose : Bool) : List Char → Option (Expr × List Char)
  | [] => none
  | c :: rest =>
    if c = '\\' then (escape? verbose rest).map fun e => (e.1.toExpr, e.2)
    else if c = '.' then some (.dot, rest)
    else if c = '^' then some (.anchor .lineStart, rest)
    else if c = '$' then some (.anchor .lineEnd, rest)
    else some (.char ⟨c, false⟩, rest)

/-- A repetition of the last item, or one more item. -/
def Pending.item? (p : Pending) (verbose : Bool) (cs : List Char) : Option (Pending × List Char) :=
  match repetition? verbose cs with
  | some bounds =>
    bounds.bind fun bounds => (p.repeat? bounds.1.1 bounds.1.2).map fun p => (p, bounds.2)
  | none => (atom? verbose cs).map fun atom => (p.push atom.1, atom.2)

/-- What comes next if it is no parenthesis: the bar in front of another alternative, a class, a
repetition or an item. -/
def Pending.read? (p : Pending) (verbose : Bool) : List Char → Option (Pending × List Char)
  | [] => none
  | c :: rest =>
    if c = '|' then some (p.next, rest)
    else if c = '[' then (class? verbose rest).map fun set => (p.push (.set set.1), set.2)
    else p.item? verbose (c :: rest)

/-- What follows a closing parenthesis. -/
def closed? : List Char → Option (List Char)
  | [] => none
  | c :: rest => if c = ')' then some rest else none

/-- Reading the rest of a group, of which something was read. -/
abbrev GroupReader : Type := Mode → Pending → List Char → Option ((Expr × Mode) × List Char)

/-- The rest of a group behind a change of flags, or behind the opening of a group within it. No two
groups have the same name. -/
def openedRest? (groupRest? : GroupReader) (mode : Mode) (pending : Pending) (cs : List Char) :
    Opening → Option ((Expr × Mode) × List Char)
  | .directive f =>
    groupRest? ⟨f.apply .verbose mode.verbose, mode.names⟩ (pending.push (.flags f)) cs
  | .group f captures name =>
    if name.any (mode.names.contains ·) then none
    else
      let inner : Mode := ⟨f.apply .verbose mode.verbose, name.toList ++ mode.names⟩
      (groupRest? inner .start cs).bind fun body =>
        (closed? body.2).bind fun rest =>
          groupRest? ⟨mode.verbose, body.1.2.names⟩ (pending.push (.group f captures body.1.1)) rest

/-- The rest of a group up to its closing parenthesis, which is not read, or to the end of the
pattern, in at most `fuel` steps. -/
def groupRest? : Nat → GroupReader
  | 0, _, _, _ => none
  | fuel + 1, mode, pending, cs =>
    match skip mode.verbose cs with
    | [] => some ((pending.close, mode), [])
    | ')' :: rest => some ((pending.close, mode), ')' :: rest)
    | '(' :: rest =>
      (opening? mode.verbose rest).bind fun opening =>
        openedRest? (groupRest? fuel) mode pending opening.2 opening.1
    | cs => (pending.read? mode.verbose cs).bind fun r => groupRest? fuel mode r.1 r.2

/-- What a text starts with: an expression that ends with the text, or in front of a closing
parenthesis. -/
def reading? (cs : List Char) : Option ((Expr × Mode) × List Char) :=
  groupRest? (cs.length + 1) ⟨false, []⟩ .start cs

/-- The levels of nesting that a pattern may have. -/
def depthLimit : Nat := 250

def Expr.ofChars? (cs : List Char) : Option Expr :=
  match reading? cs with
  | some ((e, _), []) => if e.depth ≤ depthLimit then some e else none
  | _ => none

end Alerting.Pattern
