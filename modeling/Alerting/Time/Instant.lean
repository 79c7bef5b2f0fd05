import Alerting.Time.Calendar

/-!
# Spans and instants

A span is a whole number of nanoseconds. A grace period is kept as configured while its length in
milliseconds fits 63 bits; a longer one becomes a hundred years of 365 days.

An instant is a point in universal time, to the nanosecond. A leap second is the second `:59` of its
minute with more than a whole second of nanoseconds, so it lies after `:59.999999999` and before the next
minute. Instants reach from the first day of the year -262143 to the last one of 262142.
-/

namespace Alerting

/-! ## Spans -/

structure Span where
  nanoseconds : Nat
  deriving DecidableEq

namespace Span

/-- The nanoseconds of a second. -/
def second : Nat := 1000000000

def ofSeconds (n : Nat) : Span := ⟨n * second⟩

def seconds (s : Span) : Nat := s.nanoseconds / second

/-- What a span has beyond its whole seconds. -/
def fraction (s : Span) : Nat := s.nanoseconds % second

instance : LE Span := ⟨fun s t => s.nanoseconds ≤ t.nanoseconds⟩

instance (s t : Span) : Decidable (s ≤ t) := Nat.decLe _ _

/-- The longest span that is kept as configured: the 63-bit limit on milliseconds. -/
def longest : Span := ⟨9223372036854775807 * 1000000⟩

/-- What stands in for a longer one. -/
def century : Span := ofSeconds (36500 * 86400)

/-- The grace period of a configured span. -/
def grace (configured : Span) : Span := if configured ≤ longest then configured else century

end Span

/-! ## Instants -/

structure Instant where
  /-- Seconds from 1970-01-01T00:00:00, without leap seconds. -/
  seconds : Int
  /-- Nanoseconds in the second; from a whole second on they lie in a leap second. -/
  nanos : Nat
  seconds_ge : -8334601228800 ≤ seconds
  seconds_le : seconds ≤ 8210266876799
  nanos_lt : nanos < 2000000000
  leap : 1000000000 ≤ nanos → seconds % 60 = 59
  deriving DecidableEq

namespace Instant

/-- The instant of a number of seconds and nanoseconds, if there is one. -/
def of? (seconds : Int) (nanos : Nat) : Option Instant :=
  if h : (-8334601228800 ≤ seconds ∧ seconds ≤ 8210266876799) ∧ nanos < 2000000000 ∧
      (1000000000 ≤ nanos → seconds % 60 = 59) then
    some ⟨seconds, nanos, h.1.1, h.1.2, h.2.1, h.2.2⟩
  else none

/-- 1970-01-01T00:00:00. -/
def epoch : Instant := ⟨0, 0, by decide, by decide, by decide, by decide⟩

def latest : Instant := ⟨8210266876799, 999999999, by decide, by decide, by decide, by decide⟩

instance : LT Instant where
  lt a b := a.seconds < b.seconds ∨ a.seconds = b.seconds ∧ a.nanos < b.nanos

instance (a b : Instant) : Decidable (a < b) :=
  inferInstanceAs (Decidable (a.seconds < b.seconds ∨ a.seconds = b.seconds ∧ a.nanos < b.nanos))

instance : LE Instant where
  le a b := a.seconds < b.seconds ∨ a.seconds = b.seconds ∧ a.nanos ≤ b.nanos

instance (a b : Instant) : Decidable (a ≤ b) :=
  inferInstanceAs (Decidable (a.seconds < b.seconds ∨ a.seconds = b.seconds ∧ a.nanos ≤ b.nanos))

theorem not_lt {a b : Instant} : ¬a < b ↔ b ≤ a := by
  change ¬(_ ∨ _ ∧ _) ↔ (_ ∨ _ ∧ _)
  omega

theorem le_refl (a : Instant) : a ≤ a := .inr ⟨rfl, Nat.le_refl _⟩

theorem le_of_lt {a b : Instant} (h : a < b) : a ≤ b := by
  change _ ∨ _ ∧ _ at h
  change _ ∨ _ ∧ _
  omega

theorem le_trans {a b c : Instant} (h₁ : a ≤ b) (h₂ : b ≤ c) : a ≤ c := by
  change _ ∨ _ ∧ _ at h₁ h₂
  change _ ∨ _ ∧ _
  omega

theorem lt_of_lt_of_le {a b c : Instant} (h₁ : a < b) (h₂ : b ≤ c) : a < c := by
  change _ ∨ _ ∧ _ at h₁ h₂
  change _ ∨ _ ∧ _
  omega

theorem le_antisymm {a b : Instant} (h₁ : a ≤ b) (h₂ : b ≤ a) : a = b := by
  change _ ∨ _ ∧ _ at h₁ h₂
  cases a
  cases b
  simp only [mk.injEq] at *
  omega

def InLeapSecond (t : Instant) : Prop := Span.second ≤ t.nanos

instance (t : Instant) : Decidable t.InLeapSecond := Nat.decLe _ _

/-- The instant `s` after a point given in seconds and nanoseconds, where the nanoseconds lie in no
leap second. -/
def shift? (seconds : Int) (nanos : Nat) (s : Span) : Option Instant :=
  let n := nanos + s.nanoseconds
  of? (seconds + n / Span.second) (n % Span.second)

/-- The instant `s` after `t`, if there is one. -/
def add? (t : Instant) (s : Span) : Option Instant :=
  if t.InLeapSecond then
    -- A longer span counts the leap second as the second before it.
    if t.nanos + s.nanoseconds < 2 * Span.second then of? t.seconds (t.nanos + s.nanoseconds)
    else shift? t.seconds (t.nanos - Span.second) s
  else shift? t.seconds t.nanos s

/-- The instant `s` after `t`, or the last instant where that lies beyond it. -/
def addCapped (t : Instant) (s : Span) : Instant := (t.add? s).getD latest

def later (a b : Instant) : Instant := if a < b then b else a

theorem le_later_left (a b : Instant) : a ≤ a.later b := by
  unfold later
  split
  · rename_i h
    exact le_of_lt h
  · exact le_refl a

theorem le_later_right (a b : Instant) : b ≤ a.later b := by
  unfold later
  split
  · exact le_refl b
  · rename_i h
    exact not_lt.1 h

end Instant

end Alerting
