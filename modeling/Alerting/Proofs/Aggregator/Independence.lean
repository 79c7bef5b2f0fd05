import Alerting.Proofs.Aggregator.Balance
import Alerting.Proofs.Aggregator.Rules
import Alerting.Proofs.Basic

/-!
# Fingerprints do not disturb each other

What becomes of the aggregation of a fingerprint, and what the receiver is told of it and answers,
depends on the events of that fingerprint alone, as long as the receiver looks at nothing but the
summaries. So without the events of the others it would be the same. And if events of different
fingerprints come in another order in their batches, no aggregation and no counter is different, nor
are the calls for any fingerprint.
-/

namespace Alerting

attribute [ext] Counters

/-- The answers depend on nothing but the summaries. -/
def Receiver.IsSteady {σ : Type} (r : Receiver σ) : Prop :=
  ∀ w v summary, (r.receive w summary).answer = (r.receive v summary).answer

def Operation.only (f : Fingerprint) : Operation → Operation
  | .aggregate events now => .aggregate (events.filter (·.fingerprint = f)) now
  | .replaceRules rules => .replaceRules rules
  | .sweep now => .sweep now

/-- One operation is the other one, except that events of different fingerprints may come in another
order. -/
inductive Operation.Reorders : Operation → Operation → Prop
  | aggregate {events events' : List Event} (now : Instant)
      (h : ∀ f : Fingerprint, events.filter (·.fingerprint = f) = events'.filter (·.fingerprint = f)) :
    Reorders (.aggregate events now) (.aggregate events' now)
  | same (op : Operation) : Reorders op op

namespace Operation

theorem Reorders.only_eq {op op' : Operation} (h : op.Reorders op') (f : Fingerprint) :
    op.only f = op'.only f := by
  cases h with
  | aggregate now h => exact congrArg (Operation.aggregate · now) (h f)
  | same => rfl

theorem reorders_swap {e e' : Event} (he : e.fingerprint ≠ e'.fingerprint) (front back : List Event)
    (now : Instant) :
    (aggregate (front ++ e :: e' :: back) now).Reorders (aggregate (front ++ e' :: e :: back) now) := by
  refine .aggregate now fun f => ?_
  simp only [List.filter_append, List.filter_cons, decide_eq_true_eq]
  by_cases hf : e.fingerprint = f
  · have hf' : e'.fingerprint ≠ f := fun hf' => he (hf.trans hf'.symm)
    rw [if_pos hf, if_neg hf', if_neg hf', if_pos hf]
  · rw [if_neg hf, if_neg hf]

theorem map_only_eq {ops ops' : List Operation} (h : List.Forall₂ Reorders ops ops')
    (f : Fingerprint) : ops.map (·.only f) = ops'.map (·.only f) := by
  induction h with
  | nil => rfl
  | cons hop _ ih => exact congrArg₂ List.cons (hop.only_eq f) ih

end Operation

def Effect.callsFor (f : Fingerprint) (effects : List Effect) : List (Summary × Answer) :=
  (calls effects).filter (·.1.fingerprint = f)

namespace Aggregator

open Aggregation

variable {σ : Type} {r : Receiver σ}

/-! ## What is seen of a fingerprint -/

/-- What a history shows of a fingerprint. -/
structure Trace where
  arrivals : List Event
  unclaimed : List Event
  opened : List Fingerprint
  evicted : List Fingerprint
  calls : List (Summary × Answer)
  sweeps : Nat

/-- What moments show of a fingerprint. -/
def trace (f : Fingerprint) (past : List Moment) : Trace where
  arrivals := (past.flatMap (·.deed.arrivals)).filter (·.fingerprint = f)
  unclaimed := (past.flatMap Moment.unclaimed).filter (·.fingerprint = f)
  opened := (past.flatMap Moment.opened).filter (· = f)
  evicted := (past.flatMap Moment.evicted).filter (· = f)
  calls := (past.flatMap Moment.calls).filter (·.1.fingerprint = f)
  sweeps := (past.map (·.deed.sweeps)).sum

theorem trace_append {f : Fingerprint} {l₁ l₂ l₁' l₂' : List Moment} (h₁ : trace f l₁ = trace f l₁')
    (h₂ : trace f l₂ = trace f l₂') : trace f (l₁ ++ l₂) = trace f (l₁' ++ l₂') := by
  simp only [trace, Trace.mk.injEq] at h₁ h₂
  simp only [trace, List.flatMap_append, List.filter_append, List.map_append, List.sum_append, h₁, h₂]

theorem filter_gone {t t' : Table} (ht : t.Distinct) (f : Fingerprint) :
    (gone t t').filter (· = f) = if (t.get? f).isSome ∧ t'.get? f = none then [f] else [] := by
  have hnodup : (gone t t').Nodup := ht.filter _
  have hmem : f ∈ gone t t' ↔ (t.get? f).isSome ∧ t'.get? f = none := by
    rw [← Option.ne_none_iff_isSome, Ne, Table.get?_eq_none, not_not, gone, List.mem_filter,
      Option.isNone_iff_eq_none]
  rw [List.filter_eq, hnodup.count]
  simp only [hmem]
  split <;> rfl

theorem trace_singleton (f : Fingerprint) {m : Moment} (hbefore : m.before.table.Distinct)
    (hafter : m.after.table.Distinct) :
    trace f [m] =
      { arrivals := m.deed.arrivals.filter (·.fingerprint = f)
        unclaimed := m.unclaimed.filter (·.fingerprint = f)
        opened := if (m.after.table.get? f).isSome ∧ m.before.table.get? f = none then [f] else []
        evicted := if (m.before.table.get? f).isSome ∧ m.after.table.get? f = none then [f] else []
        calls := m.calls.filter (·.1.fingerprint = f)
        sweeps := m.deed.sweeps } := by
  simp only [trace, List.flatMap_singleton, List.map_singleton, List.sum_singleton]
  rw [Moment.opened, Moment.evicted, filter_gone hafter, filter_gone hbefore]

structure AgreeOn (f : Fingerprint) (g h : Aggregator) : Prop where
  proper_left : g.table.Proper
  proper_right : h.table.Proper
  rules_eq : g.rules = h.rules
  grace_eq : g.grace = h.grace
  found_eq : g.table.get? f = h.table.get? f

/-- The deed may have to do with a fingerprint, whatever the rules. -/
def Deed.touches (f : Fingerprint) : Deed → Bool
  | .take e _ => e.fingerprint = f
  | .replaceRules _ | .sweep _ => true
  | _ => false

theorem not_concerns_of_not_touches {g : Aggregator} {f : Fingerprint} {d : Deed}
    (h : d.touches f = false) : ¬d.Concerns g f ∧ ¬d.Replaces := by
  cases d with
  | take e now => exact ⟨fun hd => of_decide_eq_false h hd.2, id⟩
  | replaceRules _ | sweep _ => cases h
  | announce _ | gauge | reject => exact ⟨id, id⟩

theorem trace_of_not_touches (r : Receiver σ) {g : Aggregator} (w : σ) {f : Fingerprint} {d : Deed}
    (hg : g.table.Proper) (h : d.touches f = false) : trace f [g.moment r w d] = trace f [] := by
  have hd := (not_concerns_of_not_touches (g := g) h).1
  have hfound : (g.moment r w d).after.table.get? f = (g.moment r w d).before.table.get? f :=
    get?_does_of_not_concerns r w hd
  have harrivals : (g.moment r w d).deed.arrivals.filter (·.fingerprint = f) = [] := by
    cases d with
    | take e now =>
      have hf : e.fingerprint ≠ f := of_decide_eq_false h
      simp [moment, Deed.arrivals, hf]
    | announce _ | gauge | reject | replaceRules _ | sweep _ => rfl
  have hunclaimed : (g.moment r w d).unclaimed.filter (·.fingerprint = f) = [] := by
    rw [Moment.unclaimed, List.filter_comm, harrivals, List.filter_nil]
  have hcalls : (g.moment r w d).calls.filter (·.1.fingerprint = f) = [] := by
    rw [List.filter_eq_nil_iff]
    intro c hc
    simpa using fingerprint_ne_of_not_concerns r w hg hd c hc
  have hsweeps : (g.moment r w d).deed.sweeps = 0 := by
    cases d with
    | sweep now => cases h
    | take _ _ | announce _ | gauge | reject | replaceRules _ => rfl
  have hstill : ¬((g.table.get? f).isSome ∧ g.table.get? f = none) := by
    rintro ⟨hsome, hnone⟩
    rw [hnone] at hsome
    cases hsome
  rw [trace_singleton f hg.distinct (proper_does r w d hg).distinct, harrivals, hunclaimed, hfound,
    hcalls, hsweeps]
  exact congrArg₂ (Trace.mk [] [] · · [] 0) (if_neg hstill) (if_neg hstill)

/-! ## Steps -/

theorem send_of_steady (hr : r.IsSteady) (w v : σ) (a : Aggregation) :
    (a.send r w).aggregation = (a.send r v).aggregation ∧
      Effect.calls (a.send r w).effects = Effect.calls (a.send r v).effects := by
  cases h : a.dispatch with
  | sent =>
    rw [send_of_sent r w h, send_of_sent r v h]
    exact ⟨rfl, rfl⟩
  | unsent =>
    rw [aggregation_send_of_unsent r w h, aggregation_send_of_unsent r v h, calls_send_of_unsent r w h,
      calls_send_of_unsent r v h, hr w v]
    exact ⟨rfl, rfl⟩

namespace AgreeOn

variable {f : Fingerprint} {g h : Aggregator}

theorem refl (f : Fingerprint) (hg : g.table.Proper) : AgreeOn f g g := ⟨hg, hg, rfl, rfl, rfl⟩

theorem symm (hgh : AgreeOn f g h) : AgreeOn f h g :=
  ⟨hgh.proper_right, hgh.proper_left, hgh.rules_eq.symm, hgh.grace_eq.symm, hgh.found_eq.symm⟩

theorem trans {k : Aggregator} (hgh : AgreeOn f g h) (hhk : AgreeOn f h k) : AgreeOn f g k :=
  ⟨hgh.proper_left, hhk.proper_right, hgh.rules_eq.trans hhk.rules_eq,
    hgh.grace_eq.trans hhk.grace_eq, hgh.found_eq.trans hhk.found_eq⟩

theorem skip (w : σ) {d : Deed} (hd : d.touches f = false) (hgh : AgreeOn f g h) :
    AgreeOn f (g.does r w d).aggregator h where
  proper_left := proper_does r w d hgh.proper_left
  proper_right := hgh.proper_right
  rules_eq := (rules_does r g w (not_concerns_of_not_touches (g := g) hd).2).trans hgh.rules_eq
  grace_eq := (grace_does r g w d).trans hgh.grace_eq
  found_eq := (get?_does_of_not_concerns r w (not_concerns_of_not_touches hd).1).trans hgh.found_eq

theorem land_eq (hgh : AgreeOn f g h) {e : Event} (hf : e.fingerprint = f) (rule : SharedRule)
    (now : Instant) :
    (g.land rule now e).aggregation = (h.land rule now e).aggregation := by
  rw [aggregation_land, aggregation_land, hf, hgh.found_eq, deadline, deadline, hgh.grace_eq]

theorem take_eq (hr : r.IsSteady) (w v : σ) {e : Event} (now : Instant) (hf : e.fingerprint = f)
    (hgh : AgreeOn f g h) :
    (g.take r now w e).aggregator.table.get? f = (h.take r now v e).aggregator.table.get? f ∧
      (g.moment r w (.take e now)).calls = (h.moment r v (.take e now)).calls := by
  cases hrule : SharedRule.firstMatch? g.rules e with
  | none =>
    have hrule' : SharedRule.firstMatch? h.rules e = none := hgh.rules_eq ▸ hrule
    rw [calls_moment_of_unclaimed r g w now hrule, calls_moment_of_unclaimed r h v now hrule',
      take_of_unclaimed r g w now hrule, take_of_unclaimed r h v now hrule']
    exact ⟨hgh.found_eq, rfl⟩
  | some rule =>
    have hrule' : SharedRule.firstMatch? h.rules e = some rule := hgh.rules_eq ▸ hrule
    obtain ⟨haggregation, hcalls⟩ := send_of_steady hr w v (h.land rule now e).aggregation
    rw [calls_moment_take r w hrule (hgh.land_eq hf rule now), calls_moment_take r v hrule' rfl,
      get?_take r g w now hrule, get?_take r h v now hrule', if_pos hf.symm, if_pos hf.symm,
      hgh.land_eq hf rule now, haggregation]
    exact ⟨rfl, hcalls⟩

theorem found_does (hr : r.IsSteady) (w v : σ) (d : Deed) (hgh : AgreeOn f g h) :
    (g.does r w d).aggregator.table.get? f = (h.does r v d).aggregator.table.get? f := by
  cases d with
  | take e now =>
    by_cases hf : e.fingerprint = f
    · exact (hgh.take_eq hr w v now hf).1
    · have hd : (Deed.take e now).touches f = false := decide_eq_false hf
      rw [get?_does_of_not_concerns r w (not_concerns_of_not_touches hd).1,
        get?_does_of_not_concerns r v (not_concerns_of_not_touches hd).1, hgh.found_eq]
  | sweep now =>
    have hg := get?_sweptTable now hgh.proper_left.distinct f
    have hh := get?_sweptTable now hgh.proper_right.distinct f
    rw [← hgh.found_eq, ← hg] at hh
    exact hh.symm
  | announce _ | gauge | reject | replaceRules _ => exact hgh.found_eq

theorem does (hr : r.IsSteady) (w v : σ) (d : Deed) (hgh : AgreeOn f g h) :
    AgreeOn f (g.does r w d).aggregator (h.does r v d).aggregator where
  proper_left := proper_does r w d hgh.proper_left
  proper_right := proper_does r v d hgh.proper_right
  rules_eq := by
    cases d with
    | replaceRules rules => rfl
    | take _ _ | announce _ | gauge | reject | sweep _ =>
      rw [rules_does r g w id, rules_does r h v id, hgh.rules_eq]
  grace_eq := by rw [grace_does, grace_does, hgh.grace_eq]
  found_eq := hgh.found_does hr w v d

theorem calls_eq (hr : r.IsSteady) (w v : σ) {d : Deed} (hd : d.touches f = true)
    (hgh : AgreeOn f g h) : (g.moment r w d).calls = (h.moment r v d).calls := by
  cases d with
  | take e now => exact (hgh.take_eq hr w v now (of_decide_eq_true hd)).2
  | sweep _ | announce _ | gauge | reject | replaceRules _ => rfl

theorem trace_eq (hr : r.IsSteady) (w v : σ) {d : Deed} (hd : d.touches f = true)
    (hgh : AgreeOn f g h) : trace f [g.moment r w d] = trace f [h.moment r v d] := by
  have hunclaimed : (g.moment r w d).unclaimed = (h.moment r v d).unclaimed := by
    unfold Moment.unclaimed
    dsimp only [moment]
    rw [hgh.rules_eq]
  have hbefore : (g.moment r w d).before.table.get? f = (h.moment r v d).before.table.get? f :=
    hgh.found_eq
  have hafter : (g.moment r w d).after.table.get? f = (h.moment r v d).after.table.get? f :=
    hgh.found_does hr w v d
  rw [trace_singleton f hgh.proper_left.distinct (proper_does r w d hgh.proper_left).distinct,
    trace_singleton f hgh.proper_right.distinct (proper_does r v d hgh.proper_right).distinct,
    hunclaimed, hbefore, hafter, hgh.calls_eq hr w v hd]
  rfl

/-! ## Runs -/

/-- Deeds that do not touch the fingerprint may be left out. -/
theorem doAll_filter (hr : r.IsSteady) (w v : σ) (ds : List Deed) (hgh : AgreeOn f g h) :
    AgreeOn f (doAll r g w ds).aggregator (doAll r h v (ds.filter (·.touches f))).aggregator ∧
      trace f (g.moments r w ds) = trace f (h.moments r v (ds.filter (·.touches f))) := by
  induction ds generalizing g h w v with
  | nil => exact ⟨hgh, rfl⟩
  | cons d rest ih =>
    by_cases hd : d.touches f = true
    · rw [List.filter_cons_of_pos hd]
      obtain ⟨hagree, htrace⟩ := ih _ _ (hgh.does hr w v d)
      exact ⟨hagree, trace_append (hgh.trace_eq hr w v hd) htrace⟩
    · rw [List.filter_cons_of_neg hd]
      have hd : d.touches f = false := Bool.eq_false_iff.2 hd
      obtain ⟨hagree, htrace⟩ := ih _ v (hgh.skip w hd)
      exact ⟨hagree, trace_append (trace_of_not_touches r w hgh.proper_left hd) htrace⟩

theorem filter_deeds (op : Operation) (hgh : AgreeOn f g h) :
    (g.deeds op).filter (·.touches f) = (h.deeds (op.only f)).filter (·.touches f) := by
  cases op with
  | aggregate events now =>
    have hbatch (n : Nat) (l : List Event) :
        (Deed.announce n :: (l.map fun e => .take e now) ++ [Deed.gauge]).filter (·.touches f) =
          (l.filter (·.fingerprint = f)).map fun e => .take e now := by
      have htakes : (l.map fun e => Deed.take e now).filter (·.touches f) =
          (l.filter (·.fingerprint = f)).map fun e => .take e now := List.filter_map
      have hannounce : ¬(Deed.announce n).touches f = true := Bool.false_ne_true
      have hgauge : ¬Deed.gauge.touches f = true := Bool.false_ne_true
      rw [List.filter_append, List.filter_cons_of_neg hannounce, htakes,
        List.filter_cons_of_neg hgauge, List.filter_nil, List.append_nil]
    simp only [Operation.only, deeds, hgh.rules_eq]
    split
    · rfl
    · rw [hbatch, hbatch, List.filter_filter]
      simp only [Bool.and_self]
  | replaceRules rules => rfl
  | sweep now => rfl

theorem perform_only (hr : r.IsSteady) (w v : σ) (op : Operation) (hgh : AgreeOn f g h) :
    AgreeOn f (g.perform r w op).aggregator (h.perform r v (op.only f)).aggregator ∧
      trace f (g.moments r w (g.deeds op)) = trace f (h.moments r v (h.deeds (op.only f))) := by
  obtain ⟨hleft, htrace⟩ := hgh.doAll_filter hr w v (g.deeds op)
  obtain ⟨hright, htrace'⟩ :=
    (refl f hgh.proper_right).doAll_filter hr v v (h.deeds (op.only f))
  rw [← hgh.filter_deeds op] at hright htrace'
  have hagree := hleft.trans hright.symm
  rw [doAll_deeds, doAll_deeds] at hagree
  exact ⟨hagree, htrace.trans htrace'.symm⟩

theorem performAll_only (hr : r.IsSteady) (w v : σ) (ops : List Operation) (hgh : AgreeOn f g h) :
    AgreeOn f (performAll r g w ops).aggregator (performAll r h v (ops.map (·.only f))).aggregator ∧
      trace f (history r g w ops) = trace f (history r h v (ops.map (·.only f))) := by
  induction ops generalizing g h w v with
  | nil => exact ⟨hgh, rfl⟩
  | cons op rest ih =>
    obtain ⟨hfirst, htrace⟩ := hgh.perform_only hr w v op
    obtain ⟨hrest, htraces⟩ := ih _ _ hfirst
    exact ⟨hrest, trace_append htrace htraces⟩

end AgreeOn

/-! ## Counters -/

/-- Two runs that show the same of each fingerprint have counted the same. -/
theorem counters_eq_of_traces (grace : Span) (w : σ) {ops ops' : List Operation}
    (htrace : ∀ f, trace f (history r (.new grace) w ops) = trace f (history r (.new grace) w ops')) :
    (performAll r (.new grace) w ops).aggregator.counters =
      (performAll r (.new grace) w ops').aggregator.counters := by
  have h := trail_history r (.new grace) w ops
  have h' := trail_history r (.new grace) w ops'
  have harrivals := perm_of_projections Event.fingerprint fun f => congrArg Trace.arrivals (htrace f)
  have hunclaimed := perm_of_projections Event.fingerprint fun f => congrArg Trace.unclaimed (htrace f)
  have hopened := perm_of_projections id fun f => congrArg Trace.opened (htrace f)
  have hevicted := perm_of_projections id fun f => congrArg Trace.evicted (htrace f)
  have hcalls := perm_of_projections (fun call : Summary × Answer => call.1.fingerprint)
    fun f => congrArg Trace.calls (htrace f)
  have hsweeps := congrArg Trace.sweeps (htrace ⟨0⟩)
  have hlength := h.length_table
  have hlength' := h'.length_table
  rw [hopened.length_eq, hevicted.length_eq, ← hlength', Nat.add_right_cancel_iff] at hlength
  have ht := h.totals
  have ht' := h'.totals
  apply Counters.ext
  · rw [ht.received, ht'.received, announced_history, announced_history, harrivals.length_eq]
  · rw [ht.unmatched, ht'.unmatched, hunclaimed.length_eq]
  · rw [ht.created, ht'.created, hopened.length_eq]
  · rw [ht.evicted, ht'.evicted, hevicted.length_eq]
  · rw [active_performAll r w ops rfl, active_performAll r w ops' rfl, hlength]
  · rw [ht.sent, ht'.sent, given, given, hcalls.countP_eq]
  · rw [ht.deferred, ht'.deferred, given, given, hcalls.countP_eq]
  · rw [ht.dropped, ht'.dropped, given, given, hcalls.countP_eq]
  · rw [ht.sweeps, ht'.sweeps]
    exact congrArg UInt64.ofNat hsweeps

theorem callsFor_performAll (r : Receiver σ) (g : Aggregator) (w : σ) (f : Fingerprint)
    (ops : List Operation) :
    Effect.callsFor f (performAll r g w ops).effects = (trace f (history r g w ops)).calls := by
  rw [Effect.callsFor, calls_history]
  rfl

/-- **Independence.** Without the events of all other fingerprints the aggregation of a fingerprint
and its calls would be the same after each operation. -/
theorem fingerprints_independent (hr : r.IsSteady) (grace : Span) (w : σ) (ops : List Operation) :
    (∀ f past rest, ops = past ++ rest →
      let whole := performAll r (.new grace) w past
      let alone := performAll r (.new grace) w (past.map (·.only f))
      whole.aggregator.table.get? f = alone.aggregator.table.get? f ∧
        Effect.callsFor f whole.effects = Effect.callsFor f alone.effects) ∧
    ∀ ops', List.Forall₂ Operation.Reorders ops ops' →
      let turn := performAll r (.new grace) w ops
      let turn' := performAll r (.new grace) w ops'
      turn.aggregator.counters = turn'.aggregator.counters ∧
        ∀ f, turn.aggregator.table.get? f = turn'.aggregator.table.get? f ∧
          Effect.callsFor f turn.effects = Effect.callsFor f turn'.effects := by
  have halone (f : Fingerprint) (ops : List Operation) :=
    (AgreeOn.refl f (g := .new grace) Table.proper_nil).performAll_only hr w w ops
  constructor
  · rintro f past rest -
    obtain ⟨hagree, htrace⟩ := halone f past
    refine ⟨hagree.found_eq, ?_⟩
    rw [callsFor_performAll, callsFor_performAll, htrace]
  · intro ops' hops
    have hsame (f : Fingerprint) :
        (performAll r (.new grace) w ops).aggregator.table.get? f =
          (performAll r (.new grace) w ops').aggregator.table.get? f ∧
        trace f (history r (.new grace) w ops) = trace f (history r (.new grace) w ops') := by
      obtain ⟨hagree, htrace⟩ := halone f ops
      obtain ⟨hagree', htrace'⟩ := halone f ops'
      rw [Operation.map_only_eq hops f] at hagree htrace
      exact ⟨hagree.found_eq.trans hagree'.found_eq.symm, htrace.trans htrace'.symm⟩
    refine ⟨counters_eq_of_traces grace w fun f => (hsame f).2, fun f => ⟨(hsame f).1, ?_⟩⟩
    rw [callsFor_performAll, callsFor_performAll, (hsame f).2]

/-- Two fingerprints in one batch, with a receiver that is busy at the first call for each. -/
theorem fingerprints_independent_two :
    let busy : Receiver Nat := ⟨fun n summary =>
      ⟨n + 1, if summary.events.length = 1 then .error (.retryable "busy") else .ok (), []⟩⟩
    let a : Event := { createdAt := .epoch }
    let b : Event := { labels := .ofList [("host", "b")], createdAt := .epoch }
    let ops : List Operation := [.replaceRules [⟨0, {}⟩], .aggregate [a, b, a] .epoch]
    let ops' : List Operation := [.replaceRules [⟨0, {}⟩], .aggregate [b, a, a] .epoch]
    let turn := performAll busy (.new ⟨0⟩) 0 ops
    let turn' := performAll busy (.new ⟨0⟩) 0 ops'
    busy.IsSteady ∧ List.Forall₂ Operation.Reorders ops ops' ∧
    (Effect.callsFor a.fingerprint turn.effects).length = 2 ∧
    Effect.callsFor a.fingerprint turn.effects = Effect.callsFor a.fingerprint
      (performAll busy (.new ⟨0⟩) 0 (ops.map (·.only a.fingerprint))).effects ∧
    turn.aggregator.counters = turn'.aggregator.counters := by
  intro busy a b ops ops' turn turn'
  have hsteady : busy.IsSteady := fun _ _ _ => rfl
  have hne : a.fingerprint ≠ b.fingerprint := by decide +kernel
  have hops : List.Forall₂ Operation.Reorders ops ops' :=
    .cons (.same _) (.cons (Operation.reorders_swap hne [] [a] .epoch) .nil)
  have hcalls : (Effect.callsFor a.fingerprint turn.effects).length = 2 := by decide +kernel
  obtain ⟨halone, hreordered⟩ := fingerprints_independent hsteady ⟨0⟩ 0 ops
  have heffects := (halone a.fingerprint ops [] (List.append_nil ops).symm).2
  exact ⟨hsteady, hops, hcalls, heffects, (hreordered ops' hops).1⟩

end Aggregator

end Alerting
