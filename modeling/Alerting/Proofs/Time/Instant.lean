import Alerting.Proofs.Text.Basic
import Alerting.Proofs.Time.Calendar
import Alerting.Time.Codec

/-!
# Instants as text

An instant is read back from its text: each part that is written is read by the reader of that part,
up to where the next part starts.
-/

namespace Alerting

namespace Instant

open Text

/-! ## Numbers -/

/-- What follows a run of digits: nothing, or no digit. -/
def EndsDigits (cs : List Char) : Prop := ∀ c ∈ cs.head?, c.isDigit = false

theorem spanDigits_append {digits rest : List Char} {width : Nat}
    (hdigits : ∀ c ∈ digits, c.isDigit = true) (hlength : digits.length ≤ width)
    (hrest : digits.length = width ∨ EndsDigits rest) :
    spanDigits width (digits ++ rest) = (digits, rest) := by
  induction width generalizing digits with
  | zero =>
    obtain rfl := List.eq_nil_of_length_eq_zero (Nat.le_zero.1 hlength)
    rfl
  | succ width ih =>
    cases digits with
    | nil =>
      cases rest with
      | nil => rfl
      | cons c rest =>
        have hc : c.isDigit = false := (hrest.resolve_left (by simp)) c rfl
        simp [spanDigits, hc]
    | cons d digits =>
      have hd := hdigits d List.mem_cons_self
      rw [List.length_cons] at hlength hrest
      have hrec := ih (fun c hc => hdigits c (List.mem_cons_of_mem _ hc)) (by omega)
        (hrest.imp_left fun h => by omega)
      simp [spanDigits, hd, hrec]

theorem number?_append {digits rest : List Char} {width : Nat} (hne : digits ≠ [])
    (hdigits : ∀ c ∈ digits, c.isDigit = true) (hlength : digits.length ≤ width)
    (hrest : digits.length = width ∨ EndsDigits rest) :
    number? width (digits ++ rest) = some (digitsValue digits, rest) := by
  rw [number?, spanDigits_append hdigits hlength hrest]
  cases digits with
  | nil => exact absurd rfl hne
  | cons d digits => rfl

theorem number?_padded {width n : Nat} (rest : List Char) (hwidth : 0 < width)
    (hn : n < 10 ^ width) : number? width (paddedDecimal width n ++ rest) = some (n, rest) := by
  have hlength := length_paddedDecimal hwidth hn
  rw [number?_append (paddedDecimal_ne_nil width n) (fun _ => isDigit_of_mem_paddedDecimal)
    hlength.le (.inl hlength), digitsValue_paddedDecimal]

theorem trimFront_padded (width n : Nat) (rest : List Char) :
    trimFront (paddedDecimal width n ++ rest) = paddedDecimal width n ++ rest := by
  obtain ⟨d, digits, h⟩ := List.exists_cons_of_ne_nil (paddedDecimal_ne_nil width n)
  have hd : d.isDigit = true := isDigit_of_mem_paddedDecimal (h ▸ List.mem_cons_self)
  rw [h, List.cons_append, trimFront_cons _ (isBlank_of_isDigit hd)]

theorem field?_padded {n : Nat} (rest : List Char) (hn : n < 100) :
    field? 2 (paddedDecimal 2 n ++ rest) = some (n, rest) := by
  rw [field?, trimFront_padded, number?_padded rest (by decide) hn]

theorem mark?_cons {c : Char} (rest : List Char) (h : isBlank c = false) :
    mark? c (c :: rest) = some rest := by
  rw [mark?, trimFront_cons rest h]
  exact if_pos rfl

/-! ## Dates -/

theorem number?_signed (n : Nat) {rest : List Char} (hrest : EndsDigits rest) :
    number? (paddedDecimal 4 n ++ rest).length (paddedDecimal 4 n ++ rest) = some (n, rest) := by
  rw [number?_append (paddedDecimal_ne_nil 4 n) (fun _ => isDigit_of_mem_paddedDecimal)
    (by rw [List.length_append]; omega) (.inr hrest), digitsValue_paddedDecimal]

theorem isDigit_of_padded_eq {width n : Nat} {c : Char} {rest cs : List Char}
    (h : paddedDecimal width n ++ rest = c :: cs) : c.isDigit = true := by
  obtain ⟨d, digits, hd⟩ := List.exists_cons_of_ne_nil (paddedDecimal_ne_nil width n)
  rw [hd, List.cons_append, List.cons.injEq] at h
  rw [← h.1]
  exact isDigit_of_mem_paddedDecimal (hd ▸ List.mem_cons_self)

theorem year?_printYear (year : Int) {rest : List Char} (hrest : EndsDigits rest) :
    year? (printYear year ++ rest) = some (year, rest) := by
  unfold printYear
  split
  · rename_i h
    obtain ⟨n, rfl⟩ := Int.eq_ofNat_of_zero_le h.1
    rw [Int.toNat_natCast, year?, trimFront_padded]
    split
    · rename_i hsign
      exact absurd (isDigit_of_padded_eq hsign) (by decide)
    · rename_i hsign
      exact absurd (isDigit_of_padded_eq hsign) (by decide)
    · rw [number?_padded rest (by decide) (by omega)]
      rfl
  · rename_i h
    by_cases hneg : year < 0
    · rw [if_pos hneg, List.cons_append, year?, trimFront_cons _ (by decide)]
      simp only [number?_signed _ hrest, Option.map_some]
      rw [Int.ofNat_natAbs_of_nonpos hneg.le, Int.neg_neg]
    · rw [if_neg hneg, List.cons_append, year?, trimFront_cons _ (by decide)]
      simp only [number?_signed _ hrest, Option.map_some]
      rw [Int.natAbs_of_nonneg (by omega)]

theorem endsDigits_cons {c : Char} (cs : List Char) (h : c.isDigit = false) :
    EndsDigits (c :: cs) := by
  rintro d hd
  rwa [← Option.some.inj hd]

theorem date?_print (date : Date) (rest : List Char) (hmonth : date.month < 100)
    (hday : date.day < 100) :
    date? (printYear date.year ++ '-' :: paddedDecimal 2 date.month ++ '-' ::
      paddedDecimal 2 date.day ++ rest) = some (date, rest) := by
  simp only [List.append_assoc, List.cons_append]
  simp only [date?, year?_printYear _ (endsDigits_cons _ (show '-'.isDigit = false by decide)),
    mark?_cons _ (show isBlank '-' = false by decide), field?_padded _ hmonth, field?_padded _ hday,
    Option.bind_eq_bind, Option.bind_some]

/-! ## Times of day -/

theorem fraction?_digits {digits rest : List Char} (hne : digits ≠ [])
    (hdigits : ∀ c ∈ digits, c.isDigit = true) (hlength : digits.length ≤ 9)
    (hrest : EndsDigits rest) :
    fraction? ('.' :: digits ++ rest) =
      some (digitsValue digits * 10 ^ (9 - digits.length), rest) := by
  have hkept : rest.dropWhile Char.isDigit = rest := by
    cases rest with
    | nil => rfl
    | cons c rest => exact List.dropWhile_cons_of_neg (by simp [hrest c rfl])
  rw [List.cons_append]
  simp only [fraction?, spanDigits_append hdigits hlength (.inr hrest), hkept]
  cases digits with
  | nil => exact absurd rfl hne
  | cons d digits => rfl

theorem fraction?_padded {width n : Nat} {rest : List Char} (hwidth : 0 < width)
    (hlimit : width ≤ 9) (hn : n < 10 ^ width) (hrest : EndsDigits rest) :
    fraction? ('.' :: paddedDecimal width n ++ rest) = some (n * 10 ^ (9 - width), rest) := by
  have hlength := length_paddedDecimal hwidth hn
  rw [fraction?_digits (paddedDecimal_ne_nil width n) (fun _ => isDigit_of_mem_paddedDecimal)
    (by omega) hrest, digitsValue_paddedDecimal, hlength]

theorem fraction?_printFraction {nanos : Nat} (h : nanos < Span.second) (rest : List Char) :
    fraction? (printFraction nanos ++ 'Z' :: rest) = some (nanos, 'Z' :: rest) := by
  have hrest : EndsDigits ('Z' :: rest) := endsDigits_cons _ (by decide)
  unfold Span.second at h
  unfold printFraction
  split
  · rename_i hzero
    rw [hzero]
    rfl
  split
  · rw [fraction?_padded (by decide) (by decide) (by omega) hrest]
    congr 2
    omega
  split
  · rw [fraction?_padded (by decide) (by decide) (by omega) hrest]
    congr 2
    omega
  · rw [fraction?_padded (by decide) (by decide) (by omega) hrest]
    congr 2
    omega

theorem timeOfDay?_print {hour minute second nanos : Nat} (rest : List Char) (hhour : hour ≤ 23)
    (hminute : minute ≤ 59) (hsecond : second ≤ 60) (hnanos : nanos < Span.second) :
    timeOfDay? (paddedDecimal 2 hour ++ ':' :: paddedDecimal 2 minute ++
      ':' :: paddedDecimal 2 second ++ (printFraction nanos ++ 'Z' :: rest)) =
    some (if second = 60 then (hour * 3600 + minute * 60 + 59, Span.second + nanos)
      else (hour * 3600 + minute * 60 + second, nanos), 'Z' :: rest) := by
  have hcolon : isBlank ':' = false := by decide
  simp only [List.append_assoc, List.cons_append]
  simp only [timeOfDay?, field?_padded _ (show hour < 100 by omega),
    field?_padded _ (show minute < 100 by omega), field?_padded _ (show second < 100 by omega),
    mark?_cons _ hcolon, fraction?_printFraction hnanos, Option.bind_eq_bind, Option.bind_some]
  rw [if_pos ⟨hhour, hminute, hsecond⟩]
  split <;> rfl

/-! ## Instants -/

theorem of?_seconds_nanos (t : Instant) : of? t.seconds t.nanos = some t :=
  dif_pos ⟨⟨t.seconds_ge, t.seconds_le⟩, t.nanos_lt, t.leap⟩

theorem ofLocal?_seconds (t : Instant) :
    ofLocal? (Date.ofDays (t.seconds / 86400)) (t.seconds % 86400).toNat t.nanos 0 = some t := by
  have hlow := t.seconds_ge
  have hhigh := t.seconds_le
  have hyear := @Date.year_ofDays_mem (t.seconds / 86400) (by omega) (by omega)
  have hseconds : t.seconds / 86400 * 86400 + (t.seconds % 86400).toNat - 0 = t.seconds := by omega
  rw [ofLocal?, if_pos ⟨Date.ofDays_isValid _, by decide, hyear⟩, Date.toDays_ofDays, hseconds,
    of?_seconds_nanos]

/-- The second that is written is the second 60 within a leap second, and the written fraction is
what goes beyond the second. -/
theorem second_nanos_eq (t : Instant) {ofDay : Nat} (hday : ofDay = (t.seconds % 86400).toNat) :
    (if ofDay % 60 + t.nanos / Span.second = 60 then
      (ofDay / 3600 * 3600 + ofDay / 60 % 60 * 60 + 59, Span.second + t.nanos % Span.second)
    else (ofDay / 3600 * 3600 + ofDay / 60 % 60 * 60 + (ofDay % 60 + t.nanos / Span.second),
      t.nanos % Span.second)) = ((t.seconds % 86400).toNat, t.nanos) := by
  have hleap := t.leap
  have hlt := t.nanos_lt
  unfold Span.second
  split
  · rw [Prod.mk.injEq]
    omega
  · rw [Prod.mk.injEq]
    omega

theorem ofChars?_append {date : Date} {second nanos : Nat} {written time : List Char}
    (hdate : ∀ rest, date? (written ++ rest) = some (date, rest))
    (htime : timeOfDay? time = some ((second, nanos), ['Z'])) :
    ofChars? (written ++ 'T' :: time) = ofLocal? date second nanos 0 := by
  simp only [ofChars?, hdate, htime, Option.bind_eq_bind, Option.bind_some]
  rfl

theorem ofChars?_print (t : Instant) : ofChars? t.print = some t := by
  obtain ⟨hmonth, hmonth', hday, hday'⟩ := Date.ofDays_isValid (t.seconds / 86400)
  have hmax := hday'.trans (Date.daysInMonth_le _ _)
  have hlt := t.nanos_lt
  have hleap := t.leap
  have hsecond : (t.seconds % 86400).toNat % 60 + t.nanos / Span.second ≤ 60 := by
    unfold Span.second
    omega
  have hdate := fun rest => date?_print (Date.ofDays (t.seconds / 86400)) rest (by omega) (by omega)
  have htime := @timeOfDay?_print ((t.seconds % 86400).toNat / 3600)
    ((t.seconds % 86400).toNat / 60 % 60) _ _ [] (by omega) (by omega) hsecond
    (Nat.mod_lt t.nanos (show 0 < Span.second by decide))
  rw [second_nanos_eq t rfl] at htime
  rw [← ofLocal?_seconds t, ← ofChars?_append hdate htime]
  simp only [print, printSecond, List.append_assoc, List.cons_append]

/-- **Instants as text.** The text of an instant is read as that instant. -/
theorem ofString?_toText (t : Instant) : ofString? t.toText = some t := by
  rw [ofString?, toText, String.toList_ofList, ofChars?_print]

end Instant

end Alerting
