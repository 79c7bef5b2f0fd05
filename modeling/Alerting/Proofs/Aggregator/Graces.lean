import Alerting.Proofs.Aggregator.Eviction
import Alerting.Proofs.Aggregator.Rules
import Alerting.Proofs.Time.Deadline

/-!
# Longer graces

With a longer grace an aggregation ends later, so of two runs of the same operations the one with
the longer grace keeps whatever the other keeps, with the same events, whatever the receivers
answer. It may keep more, but what the other has evicted has no events left.

There are two exceptions. A grace beyond the longest one counts as a century, so it may be shorter
than one that is kept as it is: two centuries are kept as configured, and 130 years later just the
longest configurable span is over. And of an event that comes in with the leap second behind the
last instant, a grace of half a second ends in that second, while one of a whole second is cut off
at its start.
-/

namespace Alerting

namespace Aggregation

/-- The second aggregation ends no earlier and holds the same events, none if the first one has been
evicted. -/
inductive OutlastedBy : Option Aggregation → Option Aggregation → Prop
  | neither : OutlastedBy none none
  | evicted {b : Aggregation} (h : b.events = []) : OutlastedBy none (some b)
  | both {a b : Aggregation} (events_eq : b.events = a.events) (ends_le : a.endsAt ≤ b.endsAt) :
    OutlastedBy (some a) (some b)

namespace OutlastedBy

variable {a? b? : Option Aggregation}

theorem exists_of_eq_some {a : Aggregation} (h : OutlastedBy (some a) b?) :
    ∃ b, b? = some b ∧ b.events = a.events ∧ a.endsAt ≤ b.endsAt := by
  cases h with
  | both events_eq ends_le => exact ⟨_, rfl, events_eq, ends_le⟩

theorem joined (h : OutlastedBy a? b?) (f : Fingerprint) (rule : SharedRule) (e : Event)
    {now deadline deadline' : Instant} (hnow : now ≤ deadline') (hle : deadline ≤ deadline') :
    OutlastedBy (some ((a?.getD (.opened f rule now)).joined e deadline))
      (some ((b?.getD (.opened f rule now)).joined e deadline')) := by
  have hlater (t : Instant) : deadline ≤ t.later deadline' :=
    Instant.le_trans hle (Instant.le_later_right t deadline')
  cases h with
  | neither => exact .both rfl (Instant.later_le (Instant.le_later_left _ _) (hlater now))
  | @evicted b h =>
    have hopened : now ≤ b.endsAt.later deadline' :=
      Instant.le_trans hnow (Instant.le_later_right _ _)
    exact .both (by simp [h, opened]) (Instant.later_le hopened (hlater _))
  | @both a b events_eq ends_le =>
    have hends : a.endsAt ≤ b.endsAt.later deadline' :=
      Instant.le_trans ends_le (Instant.le_later_left _ _)
    exact .both (by simp [events_eq]) (Instant.later_le hends (hlater _))

theorem sent {σ τ : Type} {a b : Aggregation} (h : OutlastedBy (some a) (some b)) (r : Receiver σ)
    (q : Receiver τ) (w : σ) (v : τ) :
    OutlastedBy (some (a.send r w).aggregation) (some (b.send q v).aggregation) := by
  cases h with
  | both events_eq ends_le => exact .both (by simpa using events_eq) (by simpa using ends_le)

theorem swept (h : OutlastedBy a? b?) (now : Instant) :
    OutlastedBy (a?.bind (Aggregator.swept now)) (b?.bind (Aggregator.swept now)) := by
  cases h with
  | neither => exact .neither
  | @evicted b h =>
    rw [Option.bind_none, Option.bind_some]
    cases hb : Aggregator.swept now b with
    | none => exact .neither
    | some b' =>
      rw [Aggregator.eq_tidy_of_swept hb]
      exact .evicted (by rw [events_tidy, h, List.filter_nil])
  | @both a b events_eq ends_le =>
    have hspent : b.IsSpent now → a.IsSpent now := fun hb =>
      ⟨fun e he => hb.1 e (events_eq ▸ he), Instant.le_trans ends_le hb.2⟩
    rw [Option.bind_some, Option.bind_some]
    cases ha : Aggregator.swept now a with
    | none =>
      have hdue := ((Aggregator.swept_eq_none_iff now a).1 ha).1
      cases hb : Aggregator.swept now b with
      | none => exact .neither
      | some b' =>
        rw [Aggregator.eq_tidy_of_swept hb]
        refine .evicted ?_
        rw [events_tidy, events_eq, List.filter_eq_nil_iff]
        exact fun e he => by simpa [Instant.not_lt] using hdue e he
    | some a' =>
      cases hb : Aggregator.swept now b with
      | none =>
        have hnone := hspent ((Aggregator.swept_eq_none_iff now b).1 hb)
        rw [(Aggregator.swept_eq_none_iff now a).2 hnone] at ha
        cases ha
      | some b' =>
        rw [Aggregator.eq_tidy_of_swept ha, Aggregator.eq_tidy_of_swept hb]
        exact .both (by rw [events_tidy, events_tidy, events_eq])
          (by rwa [endsAt_tidy, endsAt_tidy])

end OutlastedBy

end Aggregation

namespace Aggregator

open Aggregation

variable {σ τ : Type} {r : Receiver σ} {q : Receiver τ}

/-- An aggregator and another one that differs from it in a longer grace. -/
structure OutlastedBy (g h : Aggregator) : Prop where
  proper_left : g.table.Proper
  proper_right : h.table.Proper
  rules_eq : g.rules = h.rules
  grace_le : g.grace ≤ h.grace
  found : ∀ f, Aggregation.OutlastedBy (g.table.get? f) (h.table.get? f)

/-- An event that the deed takes does not come in behind the last instant. -/
def Deed.ComesInTime : Deed → Prop
  | .take _ now => now ≤ .latest
  | _ => True

namespace OutlastedBy

variable {g h : Aggregator}

theorem take (hgh : g.OutlastedBy h) (w : σ) (v : τ) (e : Event) {now : Instant}
    (hnow : now ≤ .latest) (f : Fingerprint) :
    Aggregation.OutlastedBy ((g.take r now w e).aggregator.table.get? f)
      ((h.take q now v e).aggregator.table.get? f) := by
  cases hrule : SharedRule.firstMatch? g.rules e with
  | none =>
    have hrule' : SharedRule.firstMatch? h.rules e = none := hgh.rules_eq ▸ hrule
    rw [take_of_unclaimed r g w now hrule, take_of_unclaimed q h v now hrule']
    exact hgh.found f
  | some rule =>
    have hrule' : SharedRule.firstMatch? h.rules e = some rule := hgh.rules_eq ▸ hrule
    rw [get?_take r g w now hrule, get?_take q h v now hrule']
    split
    · rw [aggregation_land, aggregation_land]
      have hjoined := (hgh.found e.fingerprint).joined e.fingerprint rule e
        (Instant.le_addCapped hnow h.grace) (Instant.addCapped_le_addCapped hnow hgh.grace_le)
      exact hjoined.sent r q w v
    · exact hgh.found f

theorem does (hgh : g.OutlastedBy h) (w : σ) (v : τ) {d : Deed} (hd : d.ComesInTime) :
    (g.does r w d).aggregator.OutlastedBy (h.does q v d).aggregator where
  proper_left := proper_does r w d hgh.proper_left
  proper_right := proper_does q v d hgh.proper_right
  rules_eq := by
    cases d with
    | replaceRules rules => rfl
    | take _ _ | announce _ | gauge | reject | sweep _ =>
      rw [rules_does r g w id, rules_does q h v id, hgh.rules_eq]
  grace_le := by rw [grace_does, grace_does]; exact hgh.grace_le
  found := by
    intro f
    cases d with
    | take e now => exact hgh.take w v e hd f
    | sweep now =>
      have hg := get?_sweptTable now hgh.proper_left.distinct f
      have hh := get?_sweptTable now hgh.proper_right.distinct f
      have hswept := (hgh.found f).swept now
      rw [← hg, ← hh] at hswept
      exact hswept
    | announce _ | gauge | reject | replaceRules _ => exact hgh.found f

/-! ## Runs -/

theorem doAll (hgh : g.OutlastedBy h) (w : σ) (v : τ) {ds : List Deed}
    (hds : ∀ d ∈ ds, d.ComesInTime) :
    (doAll r g w ds).aggregator.OutlastedBy (doAll q h v ds).aggregator := by
  induction ds generalizing g h w v with
  | nil => exact hgh
  | cons d rest ih =>
    obtain ⟨hd, hrest⟩ := List.forall_mem_cons.1 hds
    exact ih (hgh.does w v hd) _ _ hrest

end OutlastedBy

/-- An operation that brings events does not do so behind the last instant. -/
def ComeInTime (ops : List Operation) : Prop :=
  ∀ events now, .aggregate events now ∈ ops → now ≤ Instant.latest

theorem comesInTime_of_mem_deeds {g : Aggregator} {op : Operation} (h : ComeInTime [op]) {d : Deed}
    (hd : d ∈ g.deeds op) : d.ComesInTime := by
  cases d with
  | take e now =>
    obtain ⟨events, rfl, -⟩ := eq_aggregate_of_take_mem_deeds hd
    exact h events now (List.mem_singleton_self _)
  | announce _ | gauge | reject | replaceRules _ | sweep _ => trivial

namespace OutlastedBy

variable {g h : Aggregator}

theorem perform (hgh : g.OutlastedBy h) (w : σ) (v : τ) {op : Operation} (hop : ComeInTime [op]) :
    (g.perform r w op).aggregator.OutlastedBy (h.perform q v op).aggregator := by
  have hdeeds : g.deeds op = h.deeds op := by
    cases op with
    | aggregate events now => simp only [deeds, hgh.rules_eq]
    | replaceRules _ | sweep _ => rfl
  have hds : ∀ d ∈ g.deeds op, d.ComesInTime := fun d hd => comesInTime_of_mem_deeds hop hd
  have hall := hgh.doAll (r := r) (q := q) w v hds
  rw [doAll_deeds, hdeeds, doAll_deeds] at hall
  exact hall

theorem performAll (hgh : g.OutlastedBy h) (w : σ) (v : τ) {ops : List Operation}
    (hops : ComeInTime ops) :
    (performAll r g w ops).aggregator.OutlastedBy (performAll q h v ops).aggregator := by
  induction ops generalizing g h w v with
  | nil => exact hgh
  | cons op rest ih =>
    have hop : ComeInTime [op] := fun events now hmem =>
      hops events now (List.mem_singleton.1 hmem ▸ List.mem_cons_self)
    have hrest : ComeInTime rest := fun events now hmem =>
      hops events now (List.mem_cons_of_mem op hmem)
    exact ih (hgh.perform w v hop) _ _ hrest

end OutlastedBy

/-- One event that any rule claims, and a sweep at a later time. -/
def oneEvent (now later : Instant) : List Operation :=
  [.replaceRules [⟨0, {}⟩], .aggregate [{ createdAt := .epoch }] now, .sweep later]

/-- **A longer grace.** After each operation the run with the longer grace has whatever the other
one has, with an end no earlier. -/
theorem longer_grace_keeps (r : Receiver σ) (q : Receiver τ) (w : σ) (v : τ) {s s' : Span}
    (hle : s ≤ s') (hgrace : s' ≤ .longest ∨ ¬s ≤ .longest ∨ s ≤ .century) {ops : List Operation}
    (hops : ComeInTime ops) :
    ∀ past, past <+: ops → ∀ f a,
      (performAll r (.new s) w past).aggregator.table.get? f = some a →
      ∃ b, (performAll q (.new s') v past).aggregator.table.get? f = some b ∧
        b.events = a.events ∧ a.endsAt ≤ b.endsAt := by
  intro past hpast f a ha
  have hstart : (new s).OutlastedBy (new s') :=
    { proper_left := Table.proper_nil
      proper_right := Table.proper_nil
      rules_eq := rfl
      grace_le := Span.grace_le_grace hle hgrace
      found := fun _ => .neither }
  have hpast' : ComeInTime past := fun events now hmem => hops events now (hpast.subset hmem)
  have hfound := (hstart.performAll (r := r) (q := q) w v hpast').found f
  rw [ha] at hfound
  exact hfound.exists_of_eq_some

/-- Graces of a second and of the longest configurable span: a minute later just the second one
keeps the event. -/
theorem longer_grace_keeps_one :
    Span.ofSeconds 1 ≤ .ofSeconds 18446744073709551615 ∧ Span.ofSeconds 1 ≤ .century ∧
    ComeInTime (oneEvent .epoch (Instant.epoch.addCapped (.ofSeconds 60))) ∧
    ∃ past, past <+: oneEvent .epoch (Instant.epoch.addCapped (.ofSeconds 60)) ∧
      ∃ a b, (performAll Receiver.log (.new (.ofSeconds 1)) () past).aggregator.table.get?
          (.ofLabels ∅) = some a ∧
        (performAll Receiver.log (.new (.ofSeconds 18446744073709551615)) () past).aggregator.table.get?
          (.ofLabels ∅) = some b ∧
        b.events = a.events ∧ a.endsAt ≤ b.endsAt := by
  have hle : Span.ofSeconds 1 ≤ .ofSeconds 18446744073709551615 := by decide
  have hcentury : Span.ofSeconds 1 ≤ .century := by decide
  have hops : ComeInTime (oneEvent .epoch (Instant.epoch.addCapped (.ofSeconds 60))) := by
    intro events now hmem
    simp only [oneEvent, List.mem_cons, reduceCtorEq, Operation.aggregate.injEq, List.not_mem_nil,
      or_false, false_or] at hmem
    rw [hmem.2]
    decide
  have hpast : (oneEvent .epoch (Instant.epoch.addCapped (.ofSeconds 60))).take 2 <+:
      oneEvent .epoch (Instant.epoch.addCapped (.ofSeconds 60)) := List.take_prefix 2 _
  have hsome : ((performAll Receiver.log (.new (.ofSeconds 1)) ()
      ((oneEvent .epoch (Instant.epoch.addCapped (.ofSeconds 60))).take 2)).aggregator.table.get?
      (.ofLabels ∅)).isSome = true := by decide +kernel
  obtain ⟨a, ha⟩ := Option.isSome_iff_exists.1 hsome
  obtain ⟨b, hb, hboth⟩ := longer_grace_keeps Receiver.log Receiver.log () () hle
    (.inr (.inr hcentury)) hops _ hpast _ a ha
  exact ⟨hle, hcentury, hops, _, hpast, a, b, ha, hb, hboth⟩

/-- The order of the graces alone is not enough, neither beyond the longest one nor behind the last
instant. -/
theorem longer_grace_evicts :
    (Span.ofSeconds 6307200000 ≤ .ofSeconds 18446744073709551615 ∧
      ((performAll Receiver.log (.new (.ofSeconds 6307200000)) ()
        (oneEvent .epoch (Instant.epoch.addCapped (.ofSeconds 4102444800)))).aggregator.table.get?
        (.ofLabels ∅)).isSome = true ∧
      (performAll Receiver.log (.new (.ofSeconds 18446744073709551615)) ()
        (oneEvent .epoch (Instant.epoch.addCapped (.ofSeconds 4102444800)))).aggregator.table.get?
        (.ofLabels ∅) = none) ∧
    ((⟨500000000⟩ : Span) ≤ .ofSeconds 1 ∧
      ((performAll Receiver.log (.new ⟨500000000⟩) ()
        (oneEvent ⟨8210266876799, 1000000000, by decide, by decide, by decide, by decide⟩
          ⟨8210266876799, 1200000000, by decide, by decide, by decide, by decide⟩)).aggregator.table.get?
        (.ofLabels ∅)).isSome = true ∧
      (performAll Receiver.log (.new (.ofSeconds 1)) ()
        (oneEvent ⟨8210266876799, 1000000000, by decide, by decide, by decide, by decide⟩
          ⟨8210266876799, 1200000000, by decide, by decide, by decide, by decide⟩)).aggregator.table.get?
        (.ofLabels ∅) = none) := by
  decide +kernel

end Aggregator

end Alerting
