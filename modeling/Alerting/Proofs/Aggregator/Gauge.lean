import Alerting.Proofs.Aggregator.Balance

/-!
# The gauge within a batch

Aggregations are counted when a batch or a sweep ends. While the receiver is called within a batch,
those that were opened since the last counting are in the table and count as opened, but the gauge
does not tell of them yet. Whoever reads it then, or drops the batch then, has the earlier number.
So it is the size of the table only if none were opened since, as far as 64 bits can tell.
-/

namespace Alerting.Aggregator

open Aggregation

variable {σ : Type} {r : Receiver σ}

/-- The aggregations are counted at the end of the deed. -/
def Deed.counts : Deed → Bool
  | .gauge | .sweep _ => true
  | .announce _ | .take _ _ | .reject | .replaceRules _ => false

/-- The aggregator while the receiver is called at a moment. -/
def Moment.during? (m : Moment) : Option Aggregator :=
  match m.deed with
  | .take e now => m.rule?.map fun rule => (m.before.land rule now e).aggregator
  | _ => none

/-- The moments since the aggregations were last counted, after one moment more. -/
def awaitCount (later : List Moment) (m : Moment) : List Moment :=
  if m.deed.counts then [] else later ++ [m]

/-- The moments since the aggregations were last counted. -/
def uncounted (past : List Moment) : List Moment := past.foldl awaitCount []

/-- The fingerprints whose aggregations were opened since the last counting. -/
def unseen (past : List Moment) : List Fingerprint := (uncounted past).flatMap Moment.opened

/-- The table has what was opened and not evicted. The gauge tells of all but what it has not seen.
-/
structure LagsBehind (unseen : List Fingerprint) (g : Aggregator) : Prop where
  opened : g.counters.created - g.counters.evicted = .ofNat g.table.length
  active : g.counters.active + .ofNat unseen.length = .ofNat g.table.length

theorem LagsBehind.active_eq_iff {unseen : List Fingerprint} {g : Aggregator}
    (h : LagsBehind unseen g) :
    g.counters.active = .ofNat g.table.length ↔ 2 ^ 64 ∣ unseen.length := by
  rw [← h.active, eq_comm, UInt64.add_eq_left, ← UInt64.toNat_inj, UInt64.toNat_ofNat',
    Nat.dvd_iff_mod_eq_zero]
  rfl

/-! ## One moment -/

theorem unseen_snoc (past : List Moment) (m : Moment) :
    unseen (past ++ [m]) = if m.deed.counts then [] else unseen past ++ m.opened := by
  unfold unseen uncounted
  rw [List.foldl_append, List.foldl_cons, List.foldl_nil, awaitCount]
  split <;> simp

theorem countSending_eqs (c : Counters) (sending : Sending) :
    (countSending c sending).created = c.created ∧ (countSending c sending).evicted = c.evicted ∧
      (countSending c sending).active = c.active := by
  cases sending <;> exact ⟨rfl, rfl, rfl⟩

theorem active_of_counts (r : Receiver σ) (g : Aggregator) (w : σ) {d : Deed} (h : d.counts = true) :
    (g.does r w d).aggregator.counters.active = .ofNat (g.does r w d).aggregator.table.length := by
  cases d with
  | gauge | sweep _ => rfl
  | announce _ | take _ _ | reject | replaceRules _ => cases h

theorem active_of_not_counts (r : Receiver σ) (g : Aggregator) (w : σ) {d : Deed}
    (h : ¬d.counts = true) :
    (g.does r w d).aggregator.counters.active = g.counters.active := by
  cases d with
  | take e now =>
    rw [does]
    cases hrule : SharedRule.firstMatch? g.rules e with
    | none => rw [take_of_unclaimed r g w now hrule]
    | some rule => rw [counters_take r g w now hrule, (countSending_eqs _ _).2.2, counters_reach]
  | gauge | sweep _ => exact absurd rfl h
  | announce _ | reject | replaceRules _ => rfl

theorem evicted_of_not_counts (r : Receiver σ) (g : Aggregator) (w : σ) {d : Deed}
    (h : ¬d.counts = true) : (g.moment r w d).evicted = [] := by
  cases d with
  | take e now => exact evicted_take r g w e now
  | gauge | sweep _ => exact absurd rfl h
  | announce _ | reject | replaceRules _ => exact gone_of_subset (List.Subset.refl _)

theorem length_put_congr (f : Fingerprint) (a b : Aggregation) (t : Table) :
    (Table.put f a t).length = (Table.put f b t).length := by
  rw [← List.length_map (·.1), Table.map_fst_put, ← Table.map_fst_put f b, List.length_map]

theorem lagsBehind_of_take {unseen : List Fingerprint} {g : Aggregator} {w : σ} {e : Event}
    {now : Instant} {rule : SharedRule} (hrule : SharedRule.firstMatch? g.rules e = some rule)
    (h : LagsBehind unseen (g.take r now w e).aggregator) :
    LagsBehind unseen (g.land rule now e).aggregator := by
  have hlength : (g.take r now w e).aggregator.table.length =
      (g.land rule now e).aggregator.table.length := by
    rw [aggregator_take r g w now hrule, settle, land, Table.put_put]
    exact length_put_congr _ _ _ _
  have hcounters : (g.take r now w e).aggregator.counters =
      countSending (g.land rule now e).aggregator.counters _ := counters_take r g w now hrule
  obtain ⟨hcreated, hevicted, hactive⟩ := countSending_eqs (g.land rule now e).aggregator.counters
    ((g.land rule now e).aggregation.send r w).sending
  obtain ⟨hopened, hgauge⟩ := h
  rw [hlength, hcounters] at hopened hgauge
  rw [hcreated, hevicted] at hopened
  rw [hactive] at hgauge
  exact ⟨hopened, hgauge⟩

/-- What the receiver is told of is in the table by then. -/
theorem exists_during_of_call {g : Aggregator} {w : σ} {d : Deed} {c : Summary × Answer}
    {unseen : List Fingerprint} (hg : g.table.Proper) (hc : c ∈ (g.moment r w d).calls)
    (h : LagsBehind unseen (g.does r w d).aggregator) :
    ∃ during, (g.moment r w d).during? = some during ∧ LagsBehind unseen during ∧
      ∃ a, during.table.get? c.1.fingerprint = some a ∧ a.summary = c.1 := by
  cases d with
  | take e now =>
    cases hrule : SharedRule.firstMatch? g.rules e with
    | none =>
      rw [calls_moment_of_unclaimed r g w now hrule] at hc
      exact absurd hc List.not_mem_nil
    | some rule =>
      have hduring : (g.moment r w (.take e now)).during? = some (g.land rule now e).aggregator :=
        congrArg (Option.map _) hrule
      rw [calls_moment_take r w hrule rfl] at hc
      have hf := fingerprint_of_mem_calls_send hc
      refine ⟨_, hduring, lagsBehind_of_take hrule h, (g.land rule now e).aggregation, ?_, ?_⟩
      · rw [hf, fingerprint_land hg]
        exact (Table.get?_put ..).trans (if_pos rfl)
      · cases hd : (g.land rule now e).aggregation.dispatch with
        | sent =>
          rw [send_of_sent r w hd] at hc
          exact absurd hc List.not_mem_nil
        | unsent =>
          rw [calls_send_of_unsent r w hd, List.mem_singleton] at hc
          rw [hc]
  | announce _ | gauge | reject | replaceRules _ | sweep _ => exact absurd hc List.not_mem_nil

/-! ## Runs -/

theorem Trail.lagsBehind {grace : Span} {g : Aggregator} {w w' : σ} {past : List Moment}
    (h : Trail r (.new grace) w past g w') : LagsBehind (unseen past) g := by
  have htotals := h.totals
  constructor
  · rw [htotals.created, htotals.evicted, ← h.length_table, UInt64.ofNat_add]
    exact UInt64.add_sub_cancel _ _
  · clear htotals
    induction h with
    | start => rfl
    | @next past g w' d htrail ih =>
      have hdeed : (g.moment r w' d).deed = d := rfl
      rw [unseen_snoc, hdeed]
      by_cases hcounts : d.counts = true
      · rw [if_pos hcounts, active_of_counts r g w' hcounts]
        exact UInt64.add_zero _
      · have hproper := htrail.proper Table.proper_nil
        have hlength := length_add_gone hproper.distinct (proper_does r w' d hproper).distinct
        have hevicted := evicted_of_not_counts r g w' hcounts
        rw [Moment.evicted, moment] at hevicted
        rw [hevicted, List.length_nil, Nat.add_zero] at hlength
        rw [if_neg hcounts, active_of_not_counts r g w' hcounts, hlength, List.length_append,
          UInt64.ofNat_add, UInt64.ofNat_add, ← UInt64.add_assoc, ih]
        rfl

/-- **The gauge.** It tells the size of the table after each operation; within a batch it is short
of what was opened since. -/
theorem gauge_lags_within_batches (r : Receiver σ) (grace : Span) (w : σ) (ops : List Operation) :
    let start := Aggregator.new grace
    let run := history r start w ops
    let turn := performAll r start w ops
    turn.aggregator.counters.active = .ofNat turn.aggregator.table.length ∧
    Effect.calls turn.effects = run.flatMap Moment.calls ∧
    ∀ past m rest c, run = past ++ m :: rest → c ∈ m.calls →
      ∃ during, m.during? = some during ∧ LagsBehind (unseen (past ++ [m])) during ∧
        (during.counters.active = .ofNat during.table.length ↔
          2 ^ 64 ∣ (unseen (past ++ [m])).length) ∧
        ∃ a, during.table.get? c.1.fingerprint = some a ∧ a.summary = c.1 := by
  intro start run turn
  refine ⟨active_performAll r w ops rfl, calls_history r start w ops, fun past m rest c hrun hc => ?_⟩
  obtain ⟨g, w', hpast, hm⟩ := (trail_history r start w ops).at_moment hrun
  rw [hm] at hc ⊢
  obtain ⟨during, hduring, hlags, htold⟩ := exists_during_of_call (hpast.proper Table.proper_nil) hc
    (hpast.next m.deed).lagsBehind
  exact ⟨during, hduring, hlags, hlags.active_eq_iff, htold⟩

/-- Two calls of one batch, with one entry in the table and with two: the gauge says none both
times. -/
theorem gauge_misses_opened :
    let pleased : Receiver Unit := ⟨fun w _ => ⟨w, .ok (), []⟩⟩
    let db : Event := { createdAt := .epoch, labels := .ofList [("service", "db")] }
    let web : Event := { createdAt := .epoch, labels := .ofList [("service", "web")] }
    let run := history pleased (.new ⟨0⟩) () [.replaceRules [⟨0, {}⟩], .aggregate [db, web] .epoch]
    (run.filter fun m => m.calls ≠ []).map (fun m => m.during?.map fun during =>
        (during.table.length, during.counters.active,
          during.counters.created - during.counters.evicted)) =
      [some (1, 0, 1), some (2, 0, 2)] := by
  decide +kernel

end Alerting.Aggregator
