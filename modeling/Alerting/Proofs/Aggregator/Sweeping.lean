import Alerting.Proofs.Aggregator.Eviction
import Alerting.Proofs.Time.Deadline
import Mathlib.Algebra.GroupWithZero.Nat

/-!
# Sweeps in a row

Sweeps that come late, more than once or in the wrong order do no harm: in a row they leave and
evict what the one with the latest time does alone, and call no receiver. A sweep in between may
force an aggregation to count as sent, or evict it, but only where the latest sweep would have done
so too.
-/

namespace Alerting

namespace Instant

theorem le_later_iff {a b c : Instant} : a ≤ b.later c ↔ a ≤ b ∨ a ≤ c := by
  constructor
  · unfold later
    split
    · exact .inr
    · exact .inl
  · rintro (h | h)
    · exact le_trans h (le_later_left b c)
    · exact le_trans h (le_later_right b c)

theorem later_lt_iff {a b c : Instant} : a.later b < c ↔ a < c ∧ b < c := by
  rw [← Decidable.not_iff_not, not_and_or, not_lt, not_lt, not_lt, le_later_iff]

theorem later_comm (a b : Instant) : a.later b = b.later a :=
  le_antisymm (later_le (le_later_right b a) (le_later_left b a))
    (later_le (le_later_right a b) (le_later_left a b))

theorem later_self (a : Instant) : a.later a = a := by
  unfold later
  split <;> rfl

instance : Std.Associative later where
  assoc a b c := by
    refine le_antisymm (later_le (later_le ?_ ?_) ?_) (later_le ?_ (later_le ?_ ?_)) <;>
      simp [le_later_iff, le_refl]

end Instant

attribute [ext] Aggregation

namespace Aggregator

open Aggregation

/-! ## One aggregation -/

theorem Remains.eq {now : Instant} {a b c : Aggregation} (hb : Remains now a b)
    (hc : Remains now a c) : b = c := by
  have hevents : b.events = c.events := hb.events_eq.trans hc.events_eq.symm
  have hdispatch : b.dispatch = c.dispatch := by rw [hb.dispatch_eq, hc.dispatch_eq, hevents]
  exact Aggregation.ext (hb.fingerprint_eq.trans hc.fingerprint_eq.symm)
    (hb.rule_eq.trans hc.rule_eq.symm) hevents (hb.endsAt_eq.trans hc.endsAt_eq.symm) hdispatch

/-- What remains of what remained is what remains at the later of both times. -/
theorem Remains.trans {t u : Instant} {a b c : Aggregation} (hb : Remains t a b)
    (hc : Remains u b c) : Remains (t.later u) a c where
  fingerprint_eq := hc.fingerprint_eq.trans hb.fingerprint_eq
  rule_eq := hc.rule_eq.trans hb.rule_eq
  endsAt_eq := hc.endsAt_eq.trans hb.endsAt_eq
  events_eq := by
    rw [hc.events_eq, hb.events_eq, List.filter_filter]
    refine List.filter_congr fun e _ => ?_
    rw [← Bool.decide_and, decide_eq_decide, Instant.later_lt_iff, and_comm]
  dispatch_eq := by
    have hb_nil : a.events = [] → b.events = [] := fun h => by rw [hb.events_eq, h, List.filter_nil]
    have hc_nil : b.events = [] → c.events = [] := fun h => by rw [hc.events_eq, h, List.filter_nil]
    rw [hc.dispatch_eq, hb.dispatch_eq]
    by_cases ha : a.events = []
    · simp [ha, hb_nil ha]
    · by_cases hb : b.events = []
      · simp [ha, hb, hc_nil hb]
      · simp [ha, hb]

theorem tidy_tidy (a : Aggregation) (t u : Instant) : (a.tidy t).tidy u = a.tidy (t.later u) :=
  ((remains_tidy t a).trans (remains_tidy u (a.tidy t))).eq (remains_tidy (t.later u) a)

theorem isSpent_mono {a : Aggregation} {t u : Instant} (h : a.IsSpent t) (htu : t ≤ u) :
    a.IsSpent u :=
  ⟨fun e he => Instant.le_trans (h.1 e he) htu, Instant.le_trans h.2 htu⟩

/-- What a sweep spares is spent at another time if and only if it is spent at the later of both. -/
theorem isSpent_tidy_iff {a : Aggregation} {t : Instant} (h : ¬a.IsSpent t) (u : Instant) :
    (a.tidy t).IsSpent u ↔ a.IsSpent (t.later u) := by
  have hdue : (∀ e ∈ (a.tidy t).events, e.createdAt ≤ u) ↔
      ∀ e ∈ a.events, e.createdAt ≤ t.later u := by
    simp only [events_tidy, List.mem_filter, decide_eq_true_eq, and_imp, Instant.le_later_iff]
    refine forall₂_congr fun e _ => ?_
    rw [or_iff_not_imp_left, ← Instant.not_lt (a := t), not_not]
  unfold IsSpent
  rw [hdue, endsAt_tidy]
  refine and_congr_right fun hall => ⟨fun hend => Instant.le_later_iff.2 (.inr hend), fun hend => ?_⟩
  refine (Instant.le_later_iff.1 hend).elim (fun hend => ?_) id
  -- Its end has come by the first time, so what kept it is an event that is due only later.
  have hlate : t < u := by
    refine Decidable.not_not.1 fun hle => h ⟨?_, hend⟩
    rwa [Instant.later, if_neg hle] at hall
  exact Instant.le_trans hend (Instant.le_of_lt hlate)

theorem swept_of_spent {now : Instant} {a : Aggregation} (h : a.IsSpent now) : swept now a = none :=
  (swept_eq_none_iff now a).2 h

theorem swept_of_not_spent {now : Instant} {a : Aggregation} (h : ¬a.IsSpent now) :
    swept now a = some (a.tidy now) := by
  rw [swept, if_neg (mt (isExpired_tidy_iff a now).1 h)]

theorem swept_swept (a : Aggregation) (t u : Instant) :
    (swept t a).bind (swept u) = swept (t.later u) a := by
  by_cases hfirst : a.IsSpent t
  · rw [swept_of_spent hfirst, swept_of_spent (isSpent_mono hfirst (Instant.le_later_left t u)),
      Option.bind_none]
  rw [swept_of_not_spent hfirst, Option.bind_some]
  by_cases hboth : a.IsSpent (t.later u)
  · rw [swept_of_spent hboth, swept_of_spent ((isSpent_tidy_iff hfirst u).2 hboth)]
  · rw [swept_of_not_spent hboth, swept_of_not_spent (mt (isSpent_tidy_iff hfirst u).1 hboth),
      tidy_tidy]

/-! ## The table -/

theorem sweptTable_eq_filterMap (now : Instant) (t : Table) :
    sweptTable now t = t.filterMap fun entry => (swept now entry.2).map (entry.1, ·) := by
  induction t with
  | nil => rfl
  | cons entry rest ih =>
    rw [sweptTable_cons, List.filterMap_cons, ih]
    cases swept now entry.2 <;> rfl

theorem sweptTable_sweptTable (t u : Instant) (table : Table) :
    sweptTable u (sweptTable t table) = sweptTable (t.later u) table := by
  simp only [sweptTable_eq_filterMap, List.filterMap_filterMap, ← swept_swept]
  refine List.filterMap_congr fun entry _ => ?_
  cases swept t entry.2 <;> rfl

theorem length_sweptTable_le (now : Instant) (t : Table) : (sweptTable now t).length ≤ t.length := by
  simpa using (sublist_sweptTable now t).length_le

theorem evictions_sweep (g : Aggregator) (t u : Instant) :
    g.evictions t + (g.sweep t).evictions u = g.evictions (t.later u) := by
  have hfirst := length_sweptTable_le t g.table
  have hsecond := length_sweptTable_le u (sweptTable t g.table)
  simp only [evictions, sweep, gauge, sweptTable_sweptTable] at *
  omega

/-! ## The aggregator -/

def countSweeps (n : Nat) (g : Aggregator) : Aggregator :=
  { g with counters := { g.counters with sweeps := g.counters.sweeps + .ofNat n } }

theorem countSweeps_zero (g : Aggregator) : g.countSweeps 0 = g := by
  have hsweeps : g.counters.sweeps + .ofNat 0 = g.counters.sweeps := UInt64.add_zero _
  rw [countSweeps, hsweeps]

theorem countSweeps_countSweeps (g : Aggregator) (m n : Nat) :
    (g.countSweeps m).countSweeps n = g.countSweeps (m + n) := by
  simp only [countSweeps, UInt64.ofNat_add, UInt64.add_assoc]

theorem sweep_sweep (g : Aggregator) (t u : Instant) :
    (g.sweep t).sweep u = (g.sweep (t.later u)).countSweeps 1 := by
  have hevictions := evictions_sweep g t u
  simp only [sweep, countSweeps, gauge, evictions, sweptTable_sweptTable] at *
  rw [← hevictions, UInt64.ofNat_add, UInt64.add_assoc]
  rfl

variable {σ : Type}

theorem performAll_sweeps (r : Receiver σ) (g : Aggregator) (w : σ) (t : Instant)
    (ts : List Instant) :
    let latest := ts.foldl Instant.later t
    let run := performAll r g w ((t :: ts).map .sweep)
    run.aggregator = (g.sweep latest).countSweeps ts.length ∧ run.receiver = w ∧
      Effect.calls run.effects = [] ∧
      ∃ evicted : List Nat, run.result = evicted.map .swept ∧ evicted.sum = g.evictions latest := by
  induction ts generalizing g t with
  | nil => exact ⟨(countSweeps_zero _).symm, rfl, rfl, [g.evictions t], rfl, rfl⟩
  | cons u ts ih =>
    obtain ⟨haggregator, hreceiver, hcalls, evicted, hresult, hsum⟩ := ih (g.sweep t) u
    have hlatest : (u :: ts).foldl Instant.later t = t.later (ts.foldl Instant.later u) :=
      List.foldl_assoc
    dsimp only
    rw [hlatest, ← evictions_sweep, ← hsum]
    refine ⟨?_, hreceiver, hcalls, g.evictions t :: evicted, ?_, rfl⟩
    · calc (performAll r g w ((t :: u :: ts).map .sweep)).aggregator
        _ = ((g.sweep t).sweep (ts.foldl Instant.later u)).countSweeps ts.length := haggregator
        _ = _ := by rw [sweep_sweep, countSweeps_countSweeps, Nat.add_comm, List.length_cons]
    · exact congrArg (Outcome.swept (g.evictions t) :: ·) hresult

/-- **Sweeps in a row.** Sweeps in any order leave every aggregation as the latest one does alone,
and evict as many. -/
theorem sweeps_as_latest (r : Receiver σ) (g : Aggregator) (w : σ) :
    (∀ t ts,
      let once := g.perform r w (.sweep (ts.foldl Instant.later t))
      let run := performAll r g w ((t :: ts).map .sweep)
      run.aggregator = once.aggregator.countSweeps ts.length ∧ run.receiver = once.receiver ∧
        Effect.calls run.effects = [] ∧
        ∃ evicted : List Nat, run.result = evicted.map .swept ∧ once.result = .swept evicted.sum) ∧
    (∀ t u,
      ((g.sweep t).sweep u).table = (g.sweep (t.later u)).table ∧
        g.evictions t + (g.sweep t).evictions u = g.evictions (t.later u)) ∧
    (∀ t u, (g.sweep t).sweep u = (g.sweep u).sweep t) ∧
    ∀ t, ((g.sweep t).sweep t).table = (g.sweep t).table ∧ (g.sweep t).evictions t = 0 := by
  have htable : ∀ t u, ((g.sweep t).sweep u).table = (g.sweep (t.later u)).table := fun t u =>
    sweptTable_sweptTable t u g.table
  refine ⟨fun t ts => ?_, fun t u => ⟨htable t u, evictions_sweep g t u⟩, fun t u => ?_,
    fun t => ?_⟩
  · obtain ⟨haggregator, hreceiver, hcalls, evicted, hresult, hsum⟩ := performAll_sweeps r g w t ts
    exact ⟨haggregator, hreceiver, hcalls, evicted, hresult, congrArg Outcome.swept hsum.symm⟩
  · rw [sweep_sweep, sweep_sweep, Instant.later_comm]
  · have hevictions := evictions_sweep g t t
    rw [Instant.later_self] at hevictions
    refine ⟨?_, by omega⟩
    rw [htable, Instant.later_self]

end Aggregator

end Alerting
