/-!
# Sets of characters

A set of code points is kept as the rising list of the points where membership changes, starting
outside. Sets are combined by one sweep over both lists.
-/

namespace Alerting

/-- A set of code points, as the points where membership changes. -/
structure CharSet where
  changes : List Nat
  deriving DecidableEq

namespace CharSet

instance : EmptyCollection CharSet := ⟨⟨[]⟩⟩

def range (low high : Nat) : CharSet := ⟨[low, high + 1]⟩

def single (c : Nat) : CharSet := range c c

/-- Membership after the changes up to `c`, where it is `inside` before the first of them. -/
def membership (inside : Bool) (c : Nat) : List Nat → Bool
  | [] => inside
  | p :: rest => if p ≤ c then membership (!inside) c rest else inside

def contains (s : CharSet) (c : Nat) : Bool := membership false c s.changes

/-- The changes of a combination of two sets, where `a` and `b` tell what holds before the first
change of each. -/
def sweep (op : Bool → Bool → Bool) (a b : Bool) : List Nat → List Nat → List Nat
  | [], [] => []
  | p :: ps, [] => point p (op a b) (op (!a) b) (sweep op (!a) b ps [])
  | [], q :: qs => point q (op a b) (op a (!b)) (sweep op a (!b) [] qs)
  | p :: ps, q :: qs =>
    if p < q then point p (op a b) (op (!a) b) (sweep op (!a) b ps (q :: qs))
    else if q < p then point q (op a b) (op a (!b)) (sweep op a (!b) (p :: ps) qs)
    else point p (op a b) (op (!a) (!b)) (sweep op (!a) (!b) ps qs)
  termination_by ps qs => ps.length + qs.length
where
  /-- A point is kept if membership changes there. -/
  point (p : Nat) (before after : Bool) (rest : List Nat) : List Nat :=
    if before = after then rest else p :: rest

/-- The set of what `op` says of membership in `s` and in `t`. -/
def combine (op : Bool → Bool → Bool) (s t : CharSet) : CharSet :=
  ⟨sweep op false false s.changes t.changes⟩

def union : CharSet → CharSet → CharSet := combine fun a b => a || b

def inter : CharSet → CharSet → CharSet := combine fun a b => a && b

/-- The code points of the first set that are not in the second. -/
def sdiff : CharSet → CharSet → CharSet := combine fun a b => a && !b

def symmDiff : CharSet → CharSet → CharSet := combine fun a b => a != b

def compl (s : CharSet) : CharSet :=
  match s.changes with
  | 0 :: rest => ⟨rest⟩
  | changes => ⟨0 :: changes⟩

def unions (sets : List CharSet) : CharSet := sets.foldl union ∅

def all : CharSet := ⟨[0]⟩

/-- The set of the ranges from the first to the second number. -/
def ofRanges (ranges : List (Nat × Nat)) : CharSet :=
  unions (ranges.map fun r => range r.1 r.2)

/-- Pairs of changes as ranges; the last one reaches to the last code point. -/
def pairs : List Nat → List (Nat × Nat)
  | [] => []
  | [low] => [(low, 0x10FFFF)]
  | low :: next :: rest => (low, next - 1) :: pairs rest

def ranges (s : CharSet) : List (Nat × Nat) := pairs s.changes

/-- The code points of characters, which leave out the surrogates. -/
def scalars : CharSet := ⟨[0, 0xD800, 0xE000, 0x110000]⟩

/-! ## Sets as text

A set is written as the distances between its changes. A distance is a number to the base 26 whose
last digit is a capital letter, so no separators are needed.
-/

/-- The changes that follow `last`; `n` is what was read of the next distance. -/
def changesFrom (n last : Nat) : List Char → List Nat
  | [] => []
  | c :: cs =>
    if c.isUpper then
      let p := last + (n * 26 + (c.toNat - 'A'.toNat))
      p :: changesFrom 0 p cs
    else changesFrom (n * 26 + (c.toNat - 'a'.toNat)) last cs

/-- The set that lines of text write. -/
def ofLines (lines : List String) : CharSet := ⟨changesFrom 0 0 (lines.flatMap String.toList)⟩

end CharSet

end Alerting
