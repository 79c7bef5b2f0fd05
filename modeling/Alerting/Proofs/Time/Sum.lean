import Alerting.Proofs.Time.Deadline
import Alerting.Proofs.Time.Instant

/-!
# Sums by the calendar

The instant after a span, computed on the date and the time of day: the nanoseconds carry into the
second, the second carries into the date, and every number has to fit its width. No span that may be
stored overflows these widths, and the calendar comes to the same instant as the count of seconds.
-/

namespace Alerting

/-- A number, if it fits so many bits with a sign. -/
def fit? (bits : Nat) (n : Int) : Option Int :=
  if -2 ^ (bits - 1) ≤ n ∧ n < 2 ^ (bits - 1) then some n else none

namespace Date

/-- The date so many days later. Their number has 32 bits, and the years end with 262142. -/
def later? (d : Date) (days : Int) : Option Date := do
  let days ← fit? 32 days
  let later := ofDays (d.toDays + days)
  if -262143 ≤ later.year ∧ later.year ≤ 262142 then some later else none

theorem year_ofDays_of_lt {days : Int} (h : 95026236 < days) : 262142 < (ofDays days).year := by
  obtain ⟨year, month, day, heq, hplaced⟩ := ofDays_placed days
  have hsum := hplaced.sum
  have hin := hplaced.inYear
  have hinMonth := hplaced.inMonth
  have hday := hplaced.day_pos
  rw [heq, year_ofSpring]
  unfold daysBeforeMonth at hsum hinMonth
  unfold epochDay at hsum hin
  have hend : daysBeforeYear 262142 = 95745399 := rfl
  rcases Int.lt_or_le year 262142 with hlow | hlow
  · have hbefore := daysBeforeYear_mono (show year + 1 ≤ 262142 by omega)
    omega
  by_cases hlastYear : year = 262142
  · subst hlastYear
    split <;> omega
  split <;> omega

end Date

/-- A point in universal time by the calendar. -/
structure Civil where
  date : Date
  second : Nat
  nanos : Nat

/-- The date and the time of day of an instant. -/
def Instant.civil (t : Instant) : Civil :=
  ⟨.ofDays (t.seconds / 86400), (t.seconds % 86400).toNat, t.nanos⟩

/-- What comes after a span, if there is such a date; nothing at all if a number overflows on the
way. -/
def Civil.plus? (c : Civil) (s : Span) : Option (Option Civil) :=
  if Span.second ≤ c.nanos ∧ s.seconds = 0 ∧ c.nanos + s.fraction < 2 * Span.second then
    (fit? 32 (c.nanos + s.fraction : Nat)).map fun nanos => some { c with nanos := nanos.toNat }
  else do
    let nanos ← fit? 32 (c.nanos % Span.second + s.fraction : Nat)
    let seconds ← fit? 64 (c.second + s.seconds + nanos.toNat / Span.second : Nat)
    some ((c.date.later? (seconds / 86400)).map fun date =>
      ⟨date, (seconds % 86400).toNat, nanos.toNat % Span.second⟩)

namespace Instant

theorem later?_ofDays {days more : Int} (hdays : -96465292 ≤ days) (hmore : 0 ≤ more) :
    (Date.ofDays days).later? more =
      if days + more ≤ 95026236 then some (.ofDays (days + more)) else none := by
  unfold Date.later? fit?
  rw [Date.toDays_ofDays]
  by_cases hlast : days + more ≤ 95026236
  · rw [if_pos ⟨by omega, by omega⟩, if_pos hlast]
    exact if_pos (Date.year_ofDays_mem (by omega) hlast)
  · have hyear := Date.year_ofDays_of_lt (Int.not_le.1 hlast)
    rw [if_neg hlast]
    split
    · exact if_neg fun h => absurd h.2 (Int.not_le.2 hyear)
    · rfl

theorem civil_plus?_within {t : Instant} {s : Span} (ht : t.InLeapSecond)
    (hs : t.nanos + s.nanoseconds < 2 * Span.second) :
    t.civil.plus? s = some ((t.add? s).map civil) := by
  obtain ⟨t', ht', hseconds, hnanos⟩ := add?_within ht hs
  unfold InLeapSecond Span.second at *
  have hsum : s.nanoseconds = s.seconds * 1000000000 + s.fraction := (Nat.div_add_mod' _ _).symm
  have hwithin : 1000000000 ≤ t.nanos ∧ s.seconds = 0 ∧ t.nanos + s.fraction < 2 * 1000000000 := by
    omega
  have hfits : fit? 32 (t.nanos + s.fraction : Nat) = some (t'.nanos : Int) := by
    rw [show t.nanos + s.fraction = t'.nanos by omega]
    exact if_pos ⟨by omega, by omega⟩
  unfold Civil.plus? civil Span.second
  rw [if_pos hwithin, hfits, ht', Option.map_some, Option.map_some, hseconds]
  rfl

theorem civil_plus?_beyond {t : Instant} {s : Span} (hs : s ≤ .longest)
    (h : ¬(t.InLeapSecond ∧ t.nanos + s.nanoseconds < 2 * Span.second)) :
    t.civil.plus? s = some ((t.add? s).map civil) := by
  have hsum : s.nanoseconds = s.seconds * 1000000000 + s.fraction := (Nat.div_add_mod' _ _).symm
  have hfraction : s.fraction < 1000000000 := Nat.mod_lt _ (by decide)
  have hlongest : s.nanoseconds ≤ 9223372036854775807 * 1000000 := hs
  have hlow := t.seconds_ge
  have hhigh := t.seconds_le
  rw [add?_beyond h]
  unfold InLeapSecond Span.second at h
  have hbeyond : ¬(1000000000 ≤ t.nanos ∧ s.seconds = 0 ∧
      t.nanos + s.fraction < 2 * 1000000000) := by
    omega
  unfold Civil.plus? civil Span.second
  rw [if_neg hbeyond]
  -- the nanoseconds carry at most one second, and the seconds carry into the date
  generalize hn : t.nanos % 1000000000 + s.fraction = n
  generalize hc : (t.seconds % 86400).toNat + s.seconds + n / 1000000000 = c
  have hn32 : fit? 32 (n : Int) = some (n : Int) := if_pos ⟨by omega, by omega⟩
  have hc64 : fit? 64 (c : Int) = some (c : Int) := if_pos ⟨by omega, by omega⟩
  have hwhole : (t.nanos % 1000000000 + s.nanoseconds) / 1000000000 = s.seconds + n / 1000000000 := by
    omega
  have hrest : (t.nanos % 1000000000 + s.nanoseconds) % 1000000000 = n % 1000000000 := by omega
  rw [hn32, Option.bind_eq_bind, Option.bind_some, Int.toNat_natCast, hc, hc64, Option.bind_some]
  dsimp only
  rw [later?_ofDays (by omega) (by omega), Option.some.injEq]
  obtain ⟨t', ht', hseconds, hnanos⟩ | ⟨hnone, hpast⟩ := shift?_cases hlow (t.nanos % 1000000000) s
  · rw [hwhole] at hseconds
    rw [hrest] at hnanos
    have hhigh' := t'.seconds_le
    rw [ht', if_pos (by omega), Option.map_some, Option.map_some, Option.some.injEq, Civil.mk.injEq]
    exact ⟨congrArg Date.ofDays (by omega), by omega, by omega⟩
  · rw [hwhole] at hpast
    have hlatest : latest.seconds = 8210266876799 := rfl
    rw [hnone, if_neg (by omega)]
    rfl

/-- The calendar comes to the same sum, and no number overflows on the way. -/
theorem civil_plus? (t : Instant) {s : Span} (hs : s ≤ .longest) :
    t.civil.plus? s = some ((t.add? s).map civil) := by
  by_cases h : t.InLeapSecond ∧ t.nanos + s.nanoseconds < 2 * Span.second
  · exact civil_plus?_within h.1 h.2
  · exact civil_plus?_beyond hs h

end Instant

end Alerting
