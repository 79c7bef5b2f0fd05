import Alerting.Pattern.Regex

/-!
# Search

Whether a regular expression matches somewhere in a text. The places of a text are numbered from 0
in front of it to its length behind it, and a set of places is a number with their bits. Each part
of an expression takes the places where it may start to those where it may end, so a search takes
time in the size of the text and never backtracks.
-/

namespace Alerting.Pattern

def isWord (unicode : Bool) (c : Option Char) : Bool :=
  match c with
  | none => false
  | some c => (LetterClass.word.set unicode).contains c.toNat

/-- The assertion holds between two characters; the ends of the text have none. -/
def Look.holds (before after : Option Char) : Look → Bool
  | .textStart => before.isNone
  | .textEnd => after.isNone
  | .lineStart => before.isNone || before == some '\n'
  | .lineEnd => after.isNone || after == some '\n'
  | .crlfStart =>
    before.isNone || before == some '\n' || (before == some '\r' && after != some '\n')
  | .crlfEnd =>
    after.isNone || after == some '\r' || (after == some '\n' && before != some '\r')
  | .wordBoundary unicode => isWord unicode before != isWord unicode after
  | .notWordBoundary unicode => isWord unicode before == isWord unicode after
  | .wordStart unicode => !isWord unicode before && isWord unicode after
  | .wordEnd unicode => isWord unicode before && !isWord unicode after
  | .wordStartHalf unicode => !isWord unicode before
  | .wordEndHalf unicode => !isWord unicode after

/-- The places between whose neighbours `p` holds; the number of the first place is `place`. -/
def placesWhere (p : Option Char → Option Char → Bool) (place : Nat) (before : Option Char) :
    List Char → Nat
  | [] => if p before none then 1 <<< place else 0
  | c :: cs =>
    (if p before (some c) then 1 <<< place else 0) ||| placesWhere p (place + 1) (some c) cs

/-- A regular expression over the places of one text. -/
inductive Route where
  | stay
  /-- One place on, from these places. -/
  | step (places : Nat)
  /-- No place on, at these places. -/
  | gate (places : Nat)
  | cat (r₁ r₂ : Route)
  | or (r₁ r₂ : Route)
  | repeated (low : Nat) (high : Option Nat) (r : Route)

/-- The places of a text at which the parts of an expression apply. -/
def Regex.route (text : List Char) : Regex → Route
  | .empty => .stay
  | .chars s =>
    .step (placesWhere (fun _ after => after.any fun c => s.contains c.toNat) 0 none text)
  | .look l => .gate (placesWhere (fun before after => l.holds before after) 0 none text)
  | .capture r => r.route text
  | .cat r₁ r₂ => .cat (r₁.route text) (r₂.route text)
  | .or r₁ r₂ => .or (r₁.route text) (r₂.route text)
  | .repeated low high r => .repeated low high (r.route text)

/-- `f` applied `n` times; nothing more happens once it changes nothing. -/
def times (f : Nat → Nat) : Nat → Nat → Nat
  | 0, places => places
  | n + 1, places =>
    let next := f places
    if next = places then places else times f n next

/-- The places reached from `from` along a route, in a text of `length` characters. -/
def Route.follow (length : Nat) : Route → Nat → Nat
  | .stay, places => places
  | .step at', places => (places &&& at') <<< 1
  | .gate at', places => places &&& at'
  | .cat r₁ r₂, places => r₂.follow length (r₁.follow length places)
  | .or r₁ r₂, places => r₁.follow length places ||| r₂.follow length places
  | .repeated low high r, places =>
    let least := times (r.follow length) low places
    -- Each round finds a new place or is the last one.
    let more := match high with
      | some high => high - low
      | none => length + 1
    times (fun places => places ||| r.follow length places) more least

def Regex.matchesIn (r : Regex) (text : List Char) : Bool :=
  (r.route text).follow text.length (Nat.pow 2 (text.length + 1) - 1) != 0

end Alerting.Pattern
