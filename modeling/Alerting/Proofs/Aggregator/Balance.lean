import Alerting.Proofs.Aggregator.Counting
import Alerting.Proofs.Aggregator.QuietPeriod

/-!
# The counters balance

After each operation the counters agree with the table, with what came in and with what the receiver
was told. The gauge tells the size of the table, which is what was opened less what was evicted.
What was received are the events of the batches that were not rejected; each of them was claimed by
no rule, or routed. The notifications that were sent, deferred and dropped are the answers of each
kind.

A lifetime brings at most one answer that settles it, so there are never more of these than
aggregations that were opened, and never more calls than events that were routed.
-/

namespace Alerting

/-- The events of a batch that was not rejected. -/
def Operation.accepted : Operation → Outcome → List Event
  | .aggregate events _, .replied (.ok ()) => events
  | _, _ => []

def Aggregation.isUnsent (a : Aggregation) : Bool := a.dispatch = .unsent

def Table.unsent (t : Table) : Nat := t.countP fun entry => entry.2.isUnsent

namespace Aggregator

open Aggregation Answer

variable {σ : Type} {r : Receiver σ}

/-! ## What came in -/

theorem map_deed_moments (r : Receiver σ) (g : Aggregator) (w : σ) (ds : List Deed) :
    (g.moments r w ds).map (·.deed) = ds := by
  induction ds generalizing g w with
  | nil => rfl
  | cons d rest ih => exact congrArg (d :: ·) (ih _ _)

theorem arrivals_deeds (r : Receiver σ) (g : Aggregator) (w : σ) (op : Operation) :
    (g.deeds op).flatMap Deed.arrivals = op.accepted (g.perform r w op).result := by
  cases op with
  | aggregate events now =>
    by_cases hrules : g.rules.isEmpty = true
    · simp only [deeds, perform, aggregate, hrules, if_true]
      rfl
    · simp only [deeds, perform, aggregate, hrules, if_false, Bool.false_eq_true]
      simp [Deed.arrivals, Operation.accepted, List.flatMap_map]
  | replaceRules rules => rfl
  | sweep now => rfl

theorem arrivals_history (r : Receiver σ) (g : Aggregator) (w : σ) (ops : List Operation) :
    (history r g w ops).flatMap (·.deed.arrivals) =
      (List.zipWith Operation.accepted ops (performAll r g w ops).result).flatten := by
  induction ops generalizing g w with
  | nil => rfl
  | cons op rest ih =>
    have hfirst : (g.moments r w (g.deeds op)).flatMap (·.deed.arrivals) =
        op.accepted (g.perform r w op).result := by
      rw [← arrivals_deeds, ← List.flatMap_map, map_deed_moments]
    rw [history, List.flatMap_append, hfirst, ih]
    rfl

theorem announced_deeds (g : Aggregator) (op : Operation) :
    ((g.deeds op).map Deed.announced).sum = ((g.deeds op).flatMap Deed.arrivals).length := by
  cases op with
  | aggregate events now =>
    by_cases hrules : g.rules.isEmpty = true
    · simp only [deeds, hrules, if_true]
      rfl
    · simp only [deeds, hrules, if_false, Bool.false_eq_true]
      simp [Deed.arrivals, Deed.announced, List.flatMap_map, Function.comp_def]
  | replaceRules rules => rfl
  | sweep now => rfl

theorem announced_history (r : Receiver σ) (g : Aggregator) (w : σ) (ops : List Operation) :
    ((history r g w ops).map (·.deed.announced)).sum =
      ((history r g w ops).flatMap (·.deed.arrivals)).length := by
  induction ops generalizing g w with
  | nil => rfl
  | cons op rest ih =>
    have hfirst := announced_deeds g op
    rw [← map_deed_moments r g w (g.deeds op), List.map_map, List.flatMap_map] at hfirst
    rw [history, List.map_append, List.sum_append, List.flatMap_append, List.length_append, ih]
    exact congrArg (· + _) hfirst

theorem length_arrivals (r : Receiver σ) (g : Aggregator) (w : σ) (d : Deed) :
    (g.moment r w d).unclaimed.length + (g.moment r w d).routed.length = d.arrivals.length := by
  cases d with
  | take e now =>
    rw [unclaimed_take]
    cases h : SharedRule.firstMatch? g.rules e with
    | none =>
      rw [routed_take_of_unclaimed r g w now h]
      rfl
    | some rule =>
      rw [routed_take r g w now h]
      rfl
  | announce _ | gauge | reject | replaceRules _ | sweep _ => rfl

theorem length_calls_le (r : Receiver σ) (g : Aggregator) (w : σ) (d : Deed) :
    (g.moment r w d).calls.length ≤ (g.moment r w d).routed.length := by
  cases d with
  | take e now =>
    cases h : SharedRule.firstMatch? g.rules e with
    | none =>
      rw [calls_moment_of_unclaimed r g w now h]
      exact Nat.zero_le _
    | some rule =>
      rw [routed_take r g w now h, calls_moment_take r w h rfl]
      cases hd : (g.land rule now e).aggregation.dispatch with
      | sent =>
        rw [send_of_sent r w hd]
        exact Nat.zero_le _
      | unsent =>
        rw [calls_send_of_unsent r w hd]
        exact Nat.le_refl 1
  | announce _ | gauge | reject | replaceRules _ | sweep _ => exact Nat.zero_le _

/-! ## What is settled -/

/-- How many of these calls settle a notification, by success or for good. -/
def settled (calls : List (Summary × Answer)) : Nat := given isSuccess calls + given isPermanent calls

theorem settled_send (r : Receiver σ) (w : σ) (a : Aggregation) :
    settled (Effect.calls (a.send r w).effects) + [(a.send r w).aggregation].countP isUnsent =
      [a].countP isUnsent := by
  cases h : a.dispatch with
  | sent =>
    rw [send_of_sent r w h]
    exact Nat.zero_add _
  | unsent =>
    rw [aggregation_send_of_unsent r w h, calls_send_of_unsent r w h]
    rcases (r.receive w a.summary).answer with (_ | _) | _ <;>
      simp [settled, given, isSuccess, isPermanent, Aggregation.settle, Sending.ofAnswer,
        Failure.isRetryable, isUnsent, h]

theorem isUnsent_of_tidy {a : Aggregation} {now : Instant} (h : (a.tidy now).isUnsent = true) :
    a.isUnsent = true := by
  rw [isUnsent, dispatch_tidy] at h
  split at h
  · cases h
  · exact h

theorem unsent_sweptTable_le (now : Instant) (t : Table) :
    (sweptTable now t).unsent ≤ t.unsent := by
  unfold Table.unsent sweptTable
  rw [List.countP_filter, List.countP_map]
  apply List.countP_mono_left
  intro entry _ hentry
  exact isUnsent_of_tidy (Bool.and_eq_true_iff.1 hentry).1

theorem unsent_land_le (r : Receiver σ) {g : Aggregator} (w : σ) {e : Event} (now : Instant)
    {rule : SharedRule} (h : SharedRule.firstMatch? g.rules e = some rule) :
    [(g.land rule now e).aggregation].countP isUnsent ≤
      (g.table.get? e.fingerprint).toList.countP isUnsent +
        (g.moment r w (.take e now)).opened.length := by
  rw [opened_take r g w now h, aggregation_land]
  cases g.table.get? e.fingerprint with
  | none => exact Nat.le_refl 1
  | some a => exact Nat.le_refl _

/-- What is settled had something to send before, or was opened just now. -/
theorem settled_moment_le (r : Receiver σ) (g : Aggregator) (w : σ) (d : Deed) :
    settled (g.moment r w d).calls + (g.does r w d).aggregator.table.unsent ≤
      g.table.unsent + (g.moment r w d).opened.length := by
  cases d with
  | take e now =>
    cases h : SharedRule.firstMatch? g.rules e with
    | none =>
      rw [calls_moment_of_unclaimed r g w now h, does, take_of_unclaimed r g w now h]
      exact (Nat.zero_add _).trans_le (Nat.le_add_right _ _)
    | some rule =>
      have hsend := settled_send r w (g.land rule now e).aggregation
      have hland := unsent_land_le r w now h
      have hput := Table.countP_put isUnsent e.fingerprint
        ((g.land rule now e).aggregation.send r w).aggregation g.table
      rw [calls_moment_take r w h rfl, does, Table.unsent, Table.unsent, table_take r g w now h]
      omega
  | sweep now =>
    have hle : (sweptTable now g.table).unsent ≤ g.table.unsent := unsent_sweptTable_le now g.table
    exact (Nat.zero_add _).trans_le (hle.trans (Nat.le_add_right _ _))
  | announce _ | gauge | reject | replaceRules _ =>
    exact (Nat.zero_add _).trans_le (Nat.le_add_right _ _)

/-! ## Runs -/

theorem given_append (kind : Answer → Bool) (l₁ l₂ : List (Summary × Answer)) :
    given kind (l₁ ++ l₂) = given kind l₁ + given kind l₂ :=
  List.countP_append

namespace Trail

variable {grace : Span} {g : Aggregator} {w w' : σ} {past : List Moment}

theorem length_table (h : Trail r (.new grace) w past g w') :
    g.table.length + (past.flatMap Moment.evicted).length = (past.flatMap Moment.opened).length := by
  induction h with
  | start => rfl
  | @next past g' w' d htrail ih =>
    have hproper := htrail.proper Table.proper_nil
    have hlength := length_add_gone hproper.distinct (proper_does r w' d hproper).distinct
    simp only [List.flatMap_append, List.flatMap_singleton, List.length_append, Moment.evicted,
      Moment.opened, moment] at ih ⊢
    omega

theorem settled_le (h : Trail r (.new grace) w past g w') :
    settled (past.flatMap Moment.calls) + g.table.unsent ≤ (past.flatMap Moment.opened).length := by
  induction h with
  | start => exact Nat.le_refl 0
  | @next past g' w' d htrail ih =>
    have hmoment := settled_moment_le r g' w' d
    simp only [List.flatMap_append, List.flatMap_singleton, List.length_append, settled,
      given_append] at ih hmoment ⊢
    omega

theorem length_routed (h : Trail r (.new grace) w past g w') :
    (past.flatMap Moment.unclaimed).length + (past.flatMap Moment.routed).length =
        (past.flatMap (·.deed.arrivals)).length ∧
      (past.flatMap Moment.calls).length ≤ (past.flatMap Moment.routed).length := by
  induction h with
  | start => exact ⟨rfl, Nat.le_refl 0⟩
  | @next past g' w' d htrail ih =>
    have harrivals := length_arrivals r g' w' d
    have hcalls := length_calls_le r g' w' d
    have hdeed : (g'.moment r w' d).deed = d := rfl
    simp only [List.flatMap_append, List.flatMap_singleton, List.length_append, hdeed] at ih ⊢
    omega

end Trail

theorem active_perform (r : Receiver σ) {g : Aggregator} (w : σ) (op : Operation)
    (h : g.counters.active = .ofNat g.table.length) :
    (g.perform r w op).aggregator.counters.active =
      .ofNat (g.perform r w op).aggregator.table.length := by
  cases op with
  | aggregate events now =>
    by_cases hrules : g.rules.isEmpty = true
    · simp only [perform, aggregate, hrules, if_true]
      exact h
    · simp only [perform, aggregate, hrules, if_false, Bool.false_eq_true]
      rfl
  | replaceRules rules => exact h
  | sweep now => rfl

theorem active_performAll (r : Receiver σ) {g : Aggregator} (w : σ) (ops : List Operation)
    (h : g.counters.active = .ofNat g.table.length) :
    (performAll r g w ops).aggregator.counters.active =
      .ofNat (performAll r g w ops).aggregator.table.length := by
  induction ops generalizing g w with
  | nil => exact h
  | cons op rest ih => exact ih _ (active_perform r w op h)

/-- **The counters.** After each operation they agree with the table, with what came in and with
what the receiver answered. -/
theorem counters_balance (r : Receiver σ) (grace : Span) (w : σ) (ops : List Operation) :
    let run := history r (.new grace) w ops
    let turn := performAll r (.new grace) w ops
    let c := turn.aggregator.counters
    let received := (List.zipWith Operation.accepted ops turn.result).flatten
    let opened := run.flatMap Moment.opened
    let calls := Effect.calls turn.effects
    (c.active = .ofNat turn.aggregator.table.length ∧ c.active = c.created - c.evicted) ∧
    (c.received = .ofNat received.length ∧
      c.received = c.unmatched + .ofNat (run.flatMap Moment.routed).length) ∧
    (c.sent + c.deferred + c.dropped = .ofNat calls.length ∧
      c.sent = .ofNat (given isSuccess calls) ∧ c.deferred = .ofNat (given isRetryable calls) ∧
      c.dropped = .ofNat (given isPermanent calls)) ∧
    c.created = .ofNat opened.length ∧
    (opened.length < 2 ^ 64 → c.sent.toNat + c.dropped.toNat ≤ c.created.toNat) ∧
    (received.length < 2 ^ 64 → calls.length ≤ c.received.toNat - c.unmatched.toNat) := by
  intro run turn c received opened calls
  have htrail := trail_history r (.new grace) w ops
  have hcalls : calls = run.flatMap Moment.calls := calls_history r _ w ops
  have harrivals : run.flatMap (·.deed.arrivals) = received := arrivals_history r _ w ops
  have htotals : Totals run c := htrail.totals
  have hreceived : c.received = .ofNat received.length := by
    rw [htotals.received, announced_history, harrivals]
  have hcreated : c.created = .ofNat opened.length := htotals.created
  have hsent : c.sent = .ofNat (given isSuccess calls) := hcalls ▸ htotals.sent
  have hdeferred : c.deferred = .ofNat (given isRetryable calls) := hcalls ▸ htotals.deferred
  have hdropped : c.dropped = .ofNat (given isPermanent calls) := hcalls ▸ htotals.dropped
  have hactive : c.active = .ofNat turn.aggregator.table.length := active_performAll r w ops rfl
  have htable : turn.aggregator.table.length + (run.flatMap Moment.evicted).length = opened.length :=
    htrail.length_table
  have hsettled : settled calls + turn.aggregator.table.unsent ≤ opened.length :=
    hcalls ▸ htrail.settled_le
  have hrouted : (run.flatMap Moment.unclaimed).length + (run.flatMap Moment.routed).length =
      received.length := harrivals ▸ htrail.length_routed.1
  have hcalled : calls.length ≤ (run.flatMap Moment.routed).length := hcalls ▸ htrail.length_routed.2
  refine ⟨⟨hactive, ?_⟩, ⟨hreceived, ?_⟩, ⟨?_, hsent, hdeferred, hdropped⟩, hcreated, fun hlt => ?_,
    fun hlt => ?_⟩
  · rw [hactive, hcreated, htotals.evicted, ← htable, UInt64.ofNat_add]
    exact (UInt64.add_sub_cancel _ _).symm
  · rw [hreceived, htotals.unmatched, ← UInt64.ofNat_add, hrouted]
  · rw [hsent, hdeferred, hdropped, length_eq_given calls, UInt64.ofNat_add, UInt64.ofNat_add]
  · unfold settled at hsettled
    rw [hsent, hdropped, hcreated, UInt64.toNat_ofNat', UInt64.toNat_ofNat', UInt64.toNat_ofNat']
    omega
  · rw [hreceived, htotals.unmatched, UInt64.toNat_ofNat', UInt64.toNat_ofNat']
    omega

end Aggregator

end Alerting
