import Alerting.Proofs.Aggregator.Eviction

/-!
# Grouping does not hear the answers

Whatever a receiver answers, the same events end up in the same aggregations under the same rules, and
these are evicted by the same sweeps. Answers decide nothing but whether a notification is still to be
sent, and the three counters of what came of sending.
-/

namespace Alerting

/-- The aggregation without what answers decide. -/
def Aggregation.veiled (a : Aggregation) : Aggregation := { a with dispatch := .unsent }

/-- The counters without those that answers move. -/
def Counters.veiled (c : Counters) : Counters := { c with sent := 0, deferred := 0, dropped := 0 }

namespace Aggregation

theorem veiled_send {σ : Type} (r : Receiver σ) (w : σ) (a : Aggregation) :
    (a.send r w).aggregation.veiled = a.veiled := by
  obtain ⟨d, hd⟩ := exists_dispatch_send r w a
  rw [hd]
  rfl

theorem veiled_tidy (a : Aggregation) (now : Instant) :
    (a.tidy now).veiled = (a.veiled.tidy now).veiled := by
  simp only [veiled, fingerprint_tidy, rule_tidy, events_tidy, endsAt_tidy]

theorem isExpired_tidy_veiled (a : Aggregation) (now : Instant) :
    (a.veiled.tidy now).IsExpired now ↔ (a.tidy now).IsExpired now := by
  rw [isExpired_tidy_iff, isExpired_tidy_iff]
  rfl

end Aggregation

namespace Table

def veiled (t : Table) : Table := t.map fun entry => (entry.1, entry.2.veiled)

theorem veiled_cons (entry : Fingerprint × Aggregation) (rest : Table) :
    veiled (entry :: rest) = (entry.1, entry.2.veiled) :: veiled rest := rfl

theorem veiled_append (t₁ t₂ : Table) : veiled (t₁ ++ t₂) = veiled t₁ ++ veiled t₂ := List.map_append

theorem length_veiled (t : Table) : t.veiled.length = t.length := List.length_map ..

theorem get?_veiled (t : Table) (f : Fingerprint) :
    t.veiled.get? f = (t.get? f).map Aggregation.veiled := by
  induction t with
  | nil => rfl
  | cons entry rest ih =>
    rw [veiled_cons, get?_cons, get?_cons, ih]
    split <;> rfl

theorem veiled_put (f : Fingerprint) (a : Aggregation) (t : Table) :
    (put f a t).veiled = put f a.veiled t.veiled := by
  induction t with
  | nil => rfl
  | cons entry rest ih =>
    rw [veiled_cons, put, put]
    split
    · rfl
    · rw [veiled_cons, ih]

end Table

namespace Aggregator

open Aggregation

variable {σ τ : Type} {r : Receiver σ} {s : Receiver τ}

theorem veiled_sweptTable (now : Instant) (t : Table) :
    (sweptTable now t).veiled = (sweptTable now t.veiled).veiled := by
  induction t with
  | nil => rfl
  | cons entry rest ih =>
    have hswept : (swept now entry.2.veiled).map veiled = (swept now entry.2).map veiled := by
      simp only [swept, isExpired_tidy_veiled]
      split
      · rfl
      · exact congrArg some (veiled_tidy entry.2 now).symm
    rw [Table.veiled_cons, sweptTable_cons, sweptTable_cons, Table.veiled_append,
      Table.veiled_append, ih]
    congr 1
    cases h : swept now entry.2 <;> cases h' : swept now entry.2.veiled <;> simp_all [Table.veiled]

/-- Two aggregators that differ in nothing but what answers decide. -/
structure Alike (g h : Aggregator) : Prop where
  rules_eq : g.rules = h.rules
  grace_eq : g.grace = h.grace
  table_eq : g.table.veiled = h.table.veiled
  counters_eq : g.counters.veiled = h.counters.veiled

namespace Alike

variable {g h : Aggregator}

theorem put (f : Fingerprint) {a b : Aggregation} (ha : a.veiled = b.veiled) (hgh : Alike g h) :
    Alike { g with table := g.table.put f a } { h with table := h.table.put f b } where
  rules_eq := hgh.rules_eq
  grace_eq := hgh.grace_eq
  table_eq := by rw [Table.veiled_put, Table.veiled_put, ha, hgh.table_eq]
  counters_eq := hgh.counters_eq

theorem count (f : Counters → Counters) (hg : (f g.counters).veiled = f g.counters.veiled)
    (hh : (f h.counters).veiled = f h.counters.veiled) (hgh : Alike g h) :
    Alike { g with counters := f g.counters } { h with counters := f h.counters } where
  rules_eq := hgh.rules_eq
  grace_eq := hgh.grace_eq
  table_eq := hgh.table_eq
  counters_eq := hg.trans ((congrArg f hgh.counters_eq).trans hh.symm)

theorem reach (f : Fingerprint) (rule : SharedRule) (now : Instant) (hgh : Alike g h) :
    Alike (g.reach f rule now).aggregator (h.reach f rule now).aggregator ∧
      (g.reach f rule now).aggregation.veiled = (h.reach f rule now).aggregation.veiled := by
  have hget : (g.table.get? f).map veiled = (h.table.get? f).map veiled := by
    rw [← Table.get?_veiled, hgh.table_eq, Table.get?_veiled]
  unfold Aggregator.reach
  cases hg : g.table.get? f with
  | none =>
    rw [hg, eq_comm, Option.map_none, Option.map_eq_none_iff] at hget
    rw [hget]
    exact ⟨hgh.count (fun c => { c with created := c.created + 1 }) rfl rfl, rfl⟩
  | some a =>
    rw [hg, eq_comm, Option.map_some, Option.map_eq_some_iff] at hget
    obtain ⟨b, hb, hab⟩ := hget
    rw [hb]
    exact ⟨hgh, hab.symm⟩

theorem settle (f : Fingerprint) {x : Attempt σ} {y : Attempt τ}
    (hxy : x.aggregation.veiled = y.aggregation.veiled) (hgh : Alike g h) :
    Alike (g.settle f x) (h.settle f y) where
  rules_eq := hgh.rules_eq
  grace_eq := hgh.grace_eq
  table_eq := (hgh.put f hxy).table_eq
  counters_eq := by
    have hcount (c : Counters) (sending : Sending) : (countSending c sending).veiled = c.veiled := by
      cases sending <;> rfl
    exact (hcount _ _).trans (hgh.counters_eq.trans (hcount _ _).symm)

theorem land (rule : SharedRule) (now : Instant) (e : Event) (hgh : Alike g h) :
    Alike (g.land rule now e).aggregator (h.land rule now e).aggregator ∧
      (g.land rule now e).aggregation.veiled = (h.land rule now e).aggregation.veiled := by
  obtain ⟨hreach, ha⟩ := hgh.reach e.fingerprint rule now
  have hdeadline : g.deadline now = h.deadline now := by rw [deadline, deadline, hgh.grace_eq]
  have hland : (g.land rule now e).aggregation.veiled = (h.land rule now e).aggregation.veiled := by
    unfold Aggregator.land
    rw [← hdeadline]
    exact congrArg (fun a => (a.ingest e).extend (g.deadline now)) ha
  exact ⟨hreach.put e.fingerprint hland, hland⟩

theorem take (now : Instant) (w : σ) (v : τ) (e : Event) (hgh : Alike g h) :
    Alike (g.take r now w e).aggregator (h.take s now v e).aggregator := by
  cases hrule : SharedRule.firstMatch? g.rules e with
  | none =>
    rw [take_of_unclaimed r g w now hrule, take_of_unclaimed s h v now (hgh.rules_eq ▸ hrule)]
    exact hgh.count (fun c => { c with unmatched := c.unmatched + 1 }) rfl rfl
  | some rule =>
    rw [aggregator_take r g w now hrule, aggregator_take s h v now (hgh.rules_eq ▸ hrule)]
    obtain ⟨hland, ha⟩ := hgh.land rule now e
    apply hland.settle
    rw [veiled_send, veiled_send, ha]

theorem takeAll (now : Instant) (w : σ) (v : τ) (events : List Event) (hgh : Alike g h) :
    Alike (takeAll r now g w events).aggregator (takeAll s now h v events).aggregator := by
  induction events generalizing g h w v with
  | nil => exact hgh
  | cons e rest ih => exact ih _ _ (hgh.take now w v e)

theorem length_eq (hgh : Alike g h) : g.table.length = h.table.length := by
  rw [← Table.length_veiled, hgh.table_eq, Table.length_veiled]

theorem gauge (hgh : Alike g h) : Alike g.gauge h.gauge := by
  unfold Aggregator.gauge
  rw [← hgh.length_eq]
  exact hgh.count (fun c => { c with active := .ofNat g.table.length }) rfl rfl

theorem sweptTable_eq (now : Instant) (hgh : Alike g h) :
    (sweptTable now g.table).veiled = (sweptTable now h.table).veiled := by
  rw [veiled_sweptTable, hgh.table_eq, ← veiled_sweptTable]

theorem evictions_eq (now : Instant) (hgh : Alike g h) : g.evictions now = h.evictions now := by
  unfold evictions
  rw [hgh.length_eq, ← Table.length_veiled (sweptTable now g.table), hgh.sweptTable_eq now,
    Table.length_veiled]

theorem sweep (now : Instant) (hgh : Alike g h) : Alike (g.sweep now) (h.sweep now) := by
  have hswept : Alike { g with table := sweptTable now g.table }
      { h with table := sweptTable now h.table } :=
    ⟨hgh.rules_eq, hgh.grace_eq, hgh.sweptTable_eq now, hgh.counters_eq⟩
  unfold Aggregator.sweep
  rw [← hgh.evictions_eq now]
  apply gauge
  exact hswept.count (fun c => { c with
    sweeps := c.sweeps + 1
    evicted := c.evicted + .ofNat (g.evictions now) }) rfl rfl

/-- What an operation does and what it comes to is the same for both, whoever is told of it. -/
theorem perform (w : σ) (v : τ) (op : Operation) (hgh : Alike g h) :
    Alike (g.perform r w op).aggregator (h.perform s v op).aggregator ∧
      (g.perform r w op).result = (h.perform s v op).result := by
  cases op with
  | aggregate events now =>
    have hempty : h.rules.isEmpty = g.rules.isEmpty := by rw [hgh.rules_eq]
    by_cases hrules : g.rules.isEmpty = true
    · simp only [Aggregator.perform, aggregate, hempty, hrules, if_true, and_true]
      exact hgh
    · simp only [Aggregator.perform, aggregate, hempty, hrules, if_false, and_true,
        Bool.false_eq_true]
      apply gauge
      apply takeAll
      exact hgh.count (fun c => { c with received := c.received + .ofNat events.length }) rfl rfl
  | replaceRules rules =>
    exact ⟨⟨rfl, hgh.grace_eq, hgh.table_eq, hgh.counters_eq⟩, rfl⟩
  | sweep now => exact ⟨hgh.sweep now, congrArg Outcome.swept (hgh.evictions_eq now)⟩

theorem performAll (w : σ) (v : τ) (ops : List Operation) (hgh : Alike g h) :
    Alike (performAll r g w ops).aggregator (performAll s h v ops).aggregator ∧
      (performAll r g w ops).result = (performAll s h v ops).result := by
  induction ops generalizing g h w v with
  | nil => exact ⟨hgh, rfl⟩
  | cons op rest ih =>
    obtain ⟨hfirst, hresult⟩ := hgh.perform (r := r) (s := s) w v op
    obtain ⟨hrest, hresults⟩ := ih _ _ hfirst
    refine ⟨hrest, ?_⟩
    exact congrArg₂ List.cons hresult hresults

end Alike

/-- **Grouping.** Whatever two receivers answer, both aggregators come to the same after each
operation, but for the notifications. -/
theorem grouping_ignores_answers (r : Receiver σ) (s : Receiver τ) (g : Aggregator) (w : σ) (v : τ)
    (ops : List Operation) :
    (performAll r g w ops).result = (performAll s g v ops).result ∧
    ∀ past rest, ops = past ++ rest →
      Alike (performAll r g w past).aggregator (performAll s g v past).aggregator := by
  have hself : Alike g g := ⟨rfl, rfl, rfl, rfl⟩
  refine ⟨(hself.performAll w v ops).2, ?_⟩
  rintro past rest rfl
  exact (hself.performAll w v past).1

end Aggregator

end Alerting
