import Alerting.Time.Instant

/-!
# Deadlines

A deadline is not before the instant that it is counted from, and it is not before that of a shorter
span. Both hold up to the last instant. In the leap second behind it neither does: a deadline that is
still within that second lies behind the last instant, which stands for all deadlines beyond.
-/

namespace Alerting

/-- Graces are in the order of the configured spans, unless the longer span alone counts as a
century that the other one exceeds. -/
theorem Span.grace_le_grace {s s' : Span} (hle : s ≤ s')
    (h : s' ≤ .longest ∨ ¬s ≤ .longest ∨ s ≤ .century) : s.grace ≤ s'.grace := by
  unfold grace
  split
  · split
    · exact hle
    · rename_i hs hs'
      exact (h.resolve_left hs').resolve_left (not_not_intro hs)
  · split
    · rename_i hs hs'
      exact absurd (Nat.le_trans hle hs') hs
    · exact Nat.le_refl _

theorem Span.grace_le_longest (s : Span) : s.grace ≤ .longest := by
  unfold grace
  split
  · assumption
  · decide

namespace Instant

theorem le_iff {a b : Instant} :
    a ≤ b ↔ a.seconds < b.seconds ∨ a.seconds = b.seconds ∧ a.nanos ≤ b.nanos := Iff.rfl

theorem later_le {a b c : Instant} (ha : a ≤ c) (hb : b ≤ c) : a.later b ≤ c := by
  unfold later
  split
  · exact hb
  · exact ha

theorem shift?_cases {seconds : Int} (h : -8334601228800 ≤ seconds) (nanos : Nat) (s : Span) :
    (∃ t, shift? seconds nanos s = some t ∧
      t.seconds = seconds + ((nanos + s.nanoseconds) / 1000000000 : Nat) ∧
      t.nanos = (nanos + s.nanoseconds) % 1000000000) ∨
    shift? seconds nanos s = none ∧
      latest.seconds < seconds + ((nanos + s.nanoseconds) / 1000000000 : Nat) := by
  have hrest : (nanos + s.nanoseconds) % 1000000000 < 1000000000 := Nat.mod_lt _ (by decide)
  unfold shift? of? Span.second
  dsimp only
  split
  · exact .inl ⟨_, rfl, rfl, rfl⟩
  · rename_i hout
    have hfar : ¬seconds + ((nanos + s.nanoseconds) / 1000000000 : Nat) ≤ 8210266876799 :=
      fun hle => hout ⟨⟨by omega, by omega⟩, by omega, by omega⟩
    exact .inr ⟨rfl, Int.not_le.1 hfar⟩

theorem shift?_le {seconds : Int} (h : -8334601228800 ≤ seconds) (nanos : Nat) {s s' : Span}
    (hs : s ≤ s') :
    (shift? seconds nanos s).getD latest ≤ (shift? seconds nanos s').getD latest := by
  have hs : s.nanoseconds ≤ s'.nanoseconds := hs
  have hlast : ∀ t : Instant, t.nanos < 1000000000 → t ≤ latest := fun t ht => by
    have hle := t.seconds_le
    rw [le_iff]
    simp only [latest]
    omega
  obtain ⟨t, ht, hsec, hnanos⟩ | ⟨hnone, hpast⟩ := shift?_cases h nanos s <;>
    obtain ⟨t', ht', hsec', hnanos'⟩ | ⟨hnone', hpast'⟩ := shift?_cases h nanos s'
  · rw [ht, ht', Option.getD_some, Option.getD_some, le_iff]
    omega
  · rw [ht, hnone', Option.getD_some, Option.getD_none]
    exact hlast t (by omega)
  · have hle := t'.seconds_le
    simp only [latest] at hpast
    omega
  · rw [hnone, hnone']
    exact le_refl _

theorem le_shift? {t : Instant} (ht : t ≤ latest) {nanos : Nat} {s : Span}
    (h : t.nanos ≤ nanos + s.nanoseconds ∨ Span.second ≤ nanos + s.nanoseconds) :
    t ≤ (shift? t.seconds nanos s).getD latest := by
  unfold Span.second at h
  obtain ⟨t', ht', hsec, hnanos⟩ | ⟨hnone, -⟩ := shift?_cases t.seconds_ge nanos s
  · rw [ht', Option.getD_some, le_iff]
    omega
  · rwa [hnone]

/-- A span that ends in the leap second that it begins in is added as it stands. -/
theorem add?_within {t : Instant} (ht : t.InLeapSecond) {s : Span}
    (hs : t.nanos + s.nanoseconds < 2 * Span.second) :
    ∃ t', t.add? s = some t' ∧ t'.seconds = t.seconds ∧ t'.nanos = t.nanos + s.nanoseconds := by
  have hleap : t.seconds % 60 = 59 := t.leap ht
  have hof : of? t.seconds (t.nanos + s.nanoseconds) =
      some ⟨_, _, t.seconds_ge, t.seconds_le, hs, fun _ => hleap⟩ :=
    dif_pos ⟨⟨t.seconds_ge, t.seconds_le⟩, hs, fun _ => hleap⟩
  rw [add?, if_pos ht, if_pos hs, hof]
  exact ⟨_, rfl, rfl, rfl⟩

/-- Any other span is counted from the second that the instant begins in. -/
theorem add?_beyond {t : Instant} {s : Span}
    (h : ¬(t.InLeapSecond ∧ t.nanos + s.nanoseconds < 2 * Span.second)) :
    t.add? s = shift? t.seconds (t.nanos % Span.second) s := by
  have hlt := t.nanos_lt
  by_cases ht : t.InLeapSecond
  · have hnanos : t.nanos - Span.second = t.nanos % Span.second := by
      unfold InLeapSecond Span.second at *
      omega
    rw [add?, if_pos ht, if_neg fun hs => h ⟨ht, hs⟩, hnanos]
  · rw [add?, if_neg ht, Nat.mod_eq_of_lt (Nat.not_le.1 ht)]

theorem addCapped_within {t : Instant} (ht : t.InLeapSecond) {s : Span}
    (hs : t.nanos + s.nanoseconds < 2 * Span.second) :
    (t.addCapped s).seconds = t.seconds ∧ (t.addCapped s).nanos = t.nanos + s.nanoseconds := by
  obtain ⟨t', ht', heqs⟩ := add?_within ht hs
  rw [addCapped, ht']
  exact heqs

theorem addCapped_beyond {t : Instant} {s : Span}
    (h : ¬(t.InLeapSecond ∧ t.nanos + s.nanoseconds < 2 * Span.second)) :
    t.addCapped s = (shift? t.seconds (t.nanos % Span.second) s).getD latest := by
  rw [addCapped, add?_beyond h]

theorem le_addCapped {t : Instant} (ht : t ≤ latest) (s : Span) : t ≤ t.addCapped s := by
  have hlt := t.nanos_lt
  by_cases h : t.InLeapSecond ∧ t.nanos + s.nanoseconds < 2 * Span.second
  · obtain ⟨hsec, hnanos⟩ := addCapped_within h.1 h.2
    rw [le_iff]
    omega
  · rw [addCapped_beyond h]
    refine le_shift? ht ?_
    unfold InLeapSecond Span.second at *
    omega

theorem addCapped_le_addCapped {t : Instant} (ht : t ≤ latest) {s s' : Span} (hs : s ≤ s') :
    t.addCapped s ≤ t.addCapped s' := by
  have hlt := t.nanos_lt
  have hs' : s.nanoseconds ≤ s'.nanoseconds := hs
  by_cases h : t.InLeapSecond ∧ t.nanos + s.nanoseconds < 2 * Span.second
  · obtain ⟨hsec, hnanos⟩ := addCapped_within h.1 h.2
    by_cases h' : t.nanos + s'.nanoseconds < 2 * Span.second
    · obtain ⟨hsec', hnanos'⟩ := addCapped_within h.1 h'
      rw [le_iff]
      omega
    · -- The longer span leaves the leap second, which cannot be the one behind the last instant.
      have hend : t.addCapped s ≤ latest := by
        have hleap := h.1
        simp only [le_iff, latest] at ht ⊢
        unfold InLeapSecond Span.second at hleap
        omega
      rw [addCapped_beyond (s := s') fun hw => h' hw.2, ← hsec]
      refine le_shift? hend (.inr ?_)
      have hleap := h.1
      unfold InLeapSecond Span.second at *
      omega
  · have h' : ¬(t.InLeapSecond ∧ t.nanos + s'.nanoseconds < 2 * Span.second) := fun hw =>
      h ⟨hw.1, by omega⟩
    rw [addCapped_beyond h, addCapped_beyond h']
    exact shift?_le t.seconds_ge _ hs

end Instant

end Alerting
