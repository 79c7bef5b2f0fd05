import Alerting.Pattern.Regex

/-!
# Size

The memory that a regular expression would take as an automaton over UTF-8 bytes, run forwards or
backwards. Patterns beyond a limit are refused; counted repetitions of large classes reach it. A
state takes 32 bytes, a branch 4 more for each of its targets, and a choice between ranges of bytes
8 more for each range.
-/

namespace Alerting.Pattern

abbrev ByteRange := Nat × Nat

/-! ## Ranges of characters as sequences of ranges of bytes -/

def utf8 (c : Nat) : List Nat :=
  if c < 0x80 then [c]
  else if c < 0x800 then [0xC0 + c / 0x40, 0x80 + c % 0x40]
  else if c < 0x10000 then [0xE0 + c / 0x1000, 0x80 + c / 0x40 % 0x40, 0x80 + c % 0x40]
  else
    [0xF0 + c / 0x40000, 0x80 + c / 0x1000 % 0x40, 0x80 + c / 0x40 % 0x40, 0x80 + c % 0x40]

/-- The first place where the range from `low` to `high` has to be cut, in front of the number. -/
def cut? (low high : Nat) : Option Nat :=
  let crossing (limit : Nat) : Option Nat :=
    if low < limit ∧ limit ≤ high then some limit else none
  -- A byte may take several values only if those behind it take all of theirs.
  let aligned (unit : Nat) : Option Nat :=
    if high < 0x80 ∨ low / unit = high / unit then none
    else if low % unit ≠ 0 then some ((low / unit + 1) * unit)
    else if high % unit ≠ unit - 1 then some (high / unit * unit)
    else none
  [crossing 0xD800, crossing 0xE000, crossing 0x80, crossing 0x800, crossing 0x10000,
    aligned 0x40, aligned 0x1000, aligned 0x40000].findSome? id

/-- The sequences of ranges of bytes that encode a range of code points, in at most `fuel` cuts on
any path. -/
def byteSequences : Nat → Nat → Nat → List (List ByteRange)
  | 0, _, _ => []
  | fuel + 1, low, high =>
    match cut? low high with
    | some c => byteSequences fuel low (c - 1) ++ byteSequences fuel c high
    | none => [(utf8 low).zip (utf8 high)]

def sequencesOf (s : CharSet) : List (List ByteRange) :=
  (s.inter .scalars).ranges.flatMap fun r => byteSequences 32 r.1 r.2

/-! ## Automata for sets of characters -/

/-- The sequences grouped by their first range, in their order. -/
def groupByFirst : List (List ByteRange) → List (ByteRange × List (List ByteRange))
  | [] => []
  | [] :: rest => groupByFirst rest
  | (r :: tail) :: rest =>
    match groupByFirst rest with
    | (r', tails) :: groups =>
      if r = r' then (r, tail :: tails) :: groups else (r, [tail]) :: (r', tails) :: groups
    | [] => [(r, [tail])]

/-- The states of the forward automaton so far, each with its ranges and their targets. State 0 is
the end. -/
abbrev States := List (List (ByteRange × Nat))

/-- Adds the states for sequences of at most `length` ranges; equal states are shared. -/
def addStates : Nat → List (List ByteRange) → States → Nat × States
  | 0, _, states => (0, states)
  | length + 1, seqs, states =>
    if seqs.all List.isEmpty then (0, states)
    else
      let (targets, states) := (groupByFirst seqs).foldl
        (fun (acc : List (ByteRange × Nat) × States) g =>
          let (target, states) := addStates length g.2 acc.2
          (acc.1 ++ [(g.1, target)], states))
        ([], states)
      match states.idxOf? targets with
      | some i => (states.length - i, states)
      | none => (states.length + 1, targets :: states)

/-- The distinct beginnings of sequences: the states of a tree of them. -/
def beginnings : Nat → List (List ByteRange) → Nat
  | 0, _ => 0
  | length + 1, seqs =>
    (groupByFirst seqs).foldl (fun n g => n + (1 + beginnings length g.2)) 0

def stateSize : Nat := 32

def setSize (backwards : Bool) (s : CharSet) : Nat :=
  let seqs := sequencesOf s
  match seqs with
  | [] => stateSize
  | [bytes] =>
    if bytes.all fun r => r.1 = r.2 then stateSize * bytes.length
    else 2 * stateSize + 8 + (bytes.length - 1) * (stateSize + 8)
  | _ =>
    if isAscii s then 2 * stateSize + 8 * seqs.length
    else if backwards then stateSize * (2 + beginnings 4 seqs) + 4 * seqs.length
    else
      let states := (addStates 4 seqs []).2
      stateSize * (1 + states.length) + 8 * states.foldl (fun n s => n + s.length) 0

/-! ## Automata for expressions -/

def Regex.minLength : Regex → Nat
  | .empty => 0
  | .chars _ => 1
  | .look _ => 0
  | .capture r => r.minLength
  | .cat r₁ r₂ => r₁.minLength + r₂.minLength
  | .or r₁ r₂ => min r₁.minLength r₂.minLength
  | .repeated low _ r => low * r.minLength

/-- The expression matches nothing but the empty text. -/
def Regex.isWeightless : Regex → Bool
  | .empty => true
  | .chars _ => false
  | .look _ => true
  | .capture r => r.isWeightless
  | .cat r₁ r₂ => r₁.isWeightless && r₂.isWeightless
  | .or r₁ r₂ => r₁.isWeightless && r₂.isWeightless
  | .repeated _ high r => high == some 0 || r.isWeightless

/-- The memory of a repetition of something that takes `size`. -/
def repeatedSize (size low : Nat) (high : Option Nat) (mayBeEmpty : Bool) : Nat :=
  let branch := stateSize + 8
  match high with
  | none =>
    if low = 0 then if mayBeEmpty then size + 2 * branch + stateSize else size + branch
    else low * size + branch
  | some high =>
    if high = 0 then stateSize
    else if low = 0 ∧ high = 1 then size + branch + stateSize
    else if low = high then low * size
    else max stateSize (low * size) + stateSize + (high - low) * (size + branch)

/-- The memory of a regular expression. Something that matches the empty text only is repeated at
most once. -/
def Regex.size (backwards : Bool) : Regex → Nat
  | .empty => stateSize
  | .chars s => setSize backwards s
  | .look _ => stateSize
  | .capture r => r.size backwards + (if backwards then 0 else 2 * stateSize)
  | .cat r₁ r₂ => r₁.size backwards + r₂.size backwards
  | .or r₁ r₂ => r₁.size backwards + r₂.size backwards + 2 * stateSize + 8
  | .repeated low high r =>
    if r.isWeightless then
      repeatedSize (r.size backwards) (min low 1) (some (min (high.getD 1) 1)) true
    else repeatedSize (r.size backwards) low high (r.minLength = 0)

def sizeLimit : Nat := 10 * Nat.pow 2 20

def Regex.IsTooLarge (r : Regex) : Prop := sizeLimit < r.size false ∨ sizeLimit < r.size true

instance (r : Regex) : Decidable r.IsTooLarge := inferInstanceAs (Decidable (_ ∨ _))

end Alerting.Pattern
