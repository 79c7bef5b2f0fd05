import Alerting.Proofs.Aggregator.Summaries
import Mathlib.Data.List.Induction
import Mathlib.Order.Bounds.Basic

/-!
# Eviction

Each event that joins an aggregation may put its end off, and the latest of these ends counts. A
sweep evicts an aggregation when that end has come and all its events are due, and nothing else
does. So nothing is evicted before its grace period has passed after each of its events, nor while
it holds an event to come.
-/

namespace Alerting

namespace Aggregation

@[simp] theorem endsAt_tidy (a : Aggregation) (now : Instant) : (a.tidy now).endsAt = a.endsAt := by
  unfold tidy
  split <;> rfl

@[simp] theorem endsAt_joined (a : Aggregation) (e : Event) (deadline : Instant) :
    (a.joined e deadline).endsAt = a.endsAt.later deadline := rfl

@[simp] theorem endsAt_send {σ : Type} (r : Receiver σ) (w : σ) (a : Aggregation) :
    (a.send r w).aggregation.endsAt = a.endsAt := by
  obtain ⟨d, hd⟩ := exists_dispatch_send r w a
  rw [hd]

/-- All events of the aggregation are due, and its end has come. -/
def IsSpent (a : Aggregation) (now : Instant) : Prop :=
  (∀ e ∈ a.events, e.createdAt ≤ now) ∧ a.endsAt ≤ now

theorem isExpired_tidy_iff (a : Aggregation) (now : Instant) :
    (a.tidy now).IsExpired now ↔ a.IsSpent now := by
  simp [IsExpired, IsSpent, events_tidy, Instant.not_lt]

end Aggregation

namespace Aggregator

open Aggregation

variable {σ : Type} {r : Receiver σ}

/-! ## Sweeps -/

/-- What a sweep leaves of an aggregation that it spares. -/
structure Remains (now : Instant) (a b : Aggregation) : Prop where
  fingerprint_eq : b.fingerprint = a.fingerprint
  rule_eq : b.rule = a.rule
  endsAt_eq : b.endsAt = a.endsAt
  events_eq : b.events = a.events.filter fun e => now < e.createdAt
  dispatch_eq : b.dispatch = if a.events ≠ [] ∧ b.events = [] then .sent else a.dispatch

theorem remains_tidy (now : Instant) (a : Aggregation) : Remains now a (a.tidy now) where
  fingerprint_eq := fingerprint_tidy a now
  rule_eq := rule_tidy a now
  endsAt_eq := endsAt_tidy a now
  events_eq := events_tidy a now
  dispatch_eq := dispatch_tidy a now

/-- A sweep leads from one table to another: it evicts what is spent, and something remains of the
rest. -/
structure Sweeps (now : Instant) (before after : Table) : Prop where
  evicts : ∀ f a, before.get? f = some a → (after.get? f = none ↔ a.IsSpent now)
  spares : ∀ f b, after.get? f = some b → ∃ a, before.get? f = some a ∧ Remains now a b

theorem swept_eq_none_iff (now : Instant) (a : Aggregation) : swept now a = none ↔ a.IsSpent now := by
  rw [← isExpired_tidy_iff]
  unfold swept
  split <;> simp [*]

theorem eq_tidy_of_swept {now : Instant} {a b : Aggregation} (h : swept now a = some b) :
    b = a.tidy now := by
  unfold swept at h
  split at h
  · cases h
  · exact (Option.some.inj h).symm

theorem sweeps_sweptTable (now : Instant) {t : Table} (ht : t.Distinct) :
    Sweeps now t (sweptTable now t) := by
  constructor
  · intro f a ha
    rw [get?_sweptTable now ht, ha, Option.bind_some]
    exact swept_eq_none_iff now a
  · intro f b hb
    rw [get?_sweptTable now ht] at hb
    obtain ⟨a, ha, hb⟩ := Option.bind_eq_some_iff.1 hb
    rw [eq_tidy_of_swept hb]
    exact ⟨a, ha, remains_tidy now a⟩

/-- The fingerprints whose aggregations are gone from a table. -/
def gone (before after : Table) : List Fingerprint :=
  (before.map (·.1)).filter fun f => (after.get? f).isNone

theorem gone_eq (t t' : Table) :
    gone t t' = (t.map (·.1)).filter fun f => f ∉ t'.map (·.1) := by
  unfold gone
  apply List.filter_congr
  intro f _
  rw [Bool.eq_iff_iff, Option.isNone_iff_eq_none, Table.get?_eq_none, decide_eq_true_iff]

theorem gone_of_subset {t t' : Table} (h : t.map (·.1) ⊆ t'.map (·.1)) : gone t t' = [] := by
  rw [gone_eq, List.filter_eq_nil_iff]
  intro f hf
  simpa using h hf

theorem length_add_gone {t t' : Table} (ht : t.Distinct) (ht' : t'.Distinct) :
    t'.length + (gone t t').length = t.length + (gone t' t).length := by
  have hcommon : ((t.map (·.1)).filter (· ∈ t'.map (·.1))).Perm
      ((t'.map (·.1)).filter (· ∈ t.map (·.1))) := by
    rw [List.perm_ext_iff_of_nodup (ht.filter _) (ht'.filter _)]
    intro f
    rw [List.mem_filter, List.mem_filter, decide_eq_true_iff, decide_eq_true_iff, and_comm]
  have hleft := List.length_eq_length_filter_add (l := t.map (·.1)) (· ∈ t'.map (·.1))
  have hright := List.length_eq_length_filter_add (l := t'.map (·.1)) (· ∈ t.map (·.1))
  have heq := hcommon.length_eq
  simp only [List.length_map, ← decide_not] at hleft hright
  rw [gone_eq, gone_eq]
  omega

theorem length_gone (now : Instant) {t : Table} (ht : t.Distinct) :
    (gone t (sweptTable now t)).length = t.length - (sweptTable now t).length := by
  have hsub := sublist_sweptTable now t
  have hlength := length_add_gone ht (ht.sublist hsub)
  rw [gone_of_subset hsub.subset, List.length_nil] at hlength
  omega

/-! ## Ends -/

/-- A rule claims an event of this fingerprint at the moment, and this is its time. -/
def Moment.Ingests (m : Moment) (f : Fingerprint) (now : Instant) : Prop :=
  ∃ e, m.deed = .take e now ∧ m.rule?.isSome ∧ e.fingerprint = f

/-- The ends that are set for an aggregation in its lifetime: the time at which it is opened, and the
deadline of each event. -/
def ends (grace : Span) (f : Fingerprint) (life : List Moment) : Set Instant :=
  {t | (∃ first later, life = first :: later ∧ first.Ingests f t) ∨
    ∃ m ∈ life, ∃ now, m.Ingests f now ∧ t = now.addCapped grace}

theorem ingests_take {g : Aggregator} {e : Event} {now : Instant} {f : Fingerprint}
    {rule : SharedRule} (w : σ) (hrule : SharedRule.firstMatch? g.rules e = some rule)
    (hf : e.fingerprint = f) (t : Instant) :
    (g.moment r w (.take e now)).Ingests f t ↔ t = now := by
  constructor
  · rintro ⟨_, hdeed, -, -⟩
    cases hdeed
    rfl
  · rintro rfl
    exact ⟨e, rfl, Option.isSome_iff_exists.2 ⟨rule, hrule⟩, hf⟩

theorem not_ingests_of_not_concerns {g : Aggregator} {d : Deed} {f : Fingerprint} (w : σ)
    (hd : ¬d.Concerns g f) (t : Instant) : ¬(g.moment r w d).Ingests f t := by
  rintro ⟨e, hdeed, hclaimed, hf⟩
  obtain rfl : d = .take e t := hdeed
  exact hd ⟨hclaimed, hf⟩

theorem ends_snoc (grace : Span) (f : Fingerprint) {life : List Moment} (hlife : life ≠ [])
    (m : Moment) : ends grace f (life ++ [m]) =
      ends grace f life ∪ {t | ∃ now, m.Ingests f now ∧ t = now.addCapped grace} := by
  obtain ⟨first, later, rfl⟩ := List.exists_cons_of_ne_nil hlife
  ext t
  simp only [ends, Set.mem_ofPred_eq, Set.mem_union, List.cons_append, List.cons.injEq,
    List.mem_cons, List.mem_append, List.not_mem_nil, or_false]
  constructor
  · rintro (⟨_, _, ⟨rfl, -⟩, h⟩ | ⟨m', hm' | hm' | rfl, h⟩)
    · exact .inl (.inl ⟨_, _, ⟨rfl, rfl⟩, h⟩)
    · exact .inl (.inr ⟨m', .inl hm', h⟩)
    · exact .inl (.inr ⟨m', .inr hm', h⟩)
    · exact .inr h
  · rintro ((⟨_, _, ⟨rfl, -⟩, h⟩ | ⟨m', hm' | hm', h⟩) | h)
    · exact .inl ⟨_, _, ⟨rfl, rfl⟩, h⟩
    · exact .inr ⟨m', .inl hm', h⟩
    · exact .inr ⟨m', .inr (.inl hm'), h⟩
    · exact .inr ⟨m, .inr (.inr rfl), h⟩

theorem ends_snoc_of_not_ingests (grace : Span) {f : Fingerprint} {life : List Moment}
    (hlife : life ≠ []) {m : Moment} (hm : ∀ t, ¬m.Ingests f t) :
    ends grace f (life ++ [m]) = ends grace f life := by
  rw [ends_snoc grace f hlife]
  simp [hm]

theorem isGreatest_later {s : Set Instant} {a : Instant} (h : IsGreatest s a) (b : Instant) :
    IsGreatest (s ∪ {b}) (a.later b) := by
  constructor
  · unfold Instant.later
    split
    · exact .inr rfl
    · exact .inl h.1
  · rintro t (ht | rfl)
    · exact Instant.le_trans (h.2 ht) (Instant.le_later_left a b)
    · exact Instant.le_later_right a t

theorem Life.ne_nil {f : Fingerprint} {life : List Moment} {a : Aggregation}
    (h : Life r f life a) : life ≠ [] := by
  obtain ⟨first, later, rfl, -⟩ := h.rule_eq
  exact nofun

theorem Life.isGreatest_endsAt {grace : Span} {f : Fingerprint} {life : List Moment}
    {a : Aggregation} (h : Life r f life a) (hgrace : ∀ m ∈ life, m.before.grace = grace) :
    IsGreatest (ends grace f life) a.endsAt := by
  induction h with
  | @opened g w e now rule hrule hf hnone =>
    obtain rfl : g.grace = grace := hgrace _ List.mem_cons_self
    have hends : ends g.grace f [g.moment r w (.take e now)] = {now} ∪ {g.deadline now} := by
      ext t
      simp [ends, ingests_take w hrule hf, deadline, or_comm]
    have hnow : IsGreatest {now} now := ⟨rfl, fun t ht => ht ▸ Instant.le_refl t⟩
    rw [endsAt_send, endsAt_joined, hends]
    exact isGreatest_later hnow (g.deadline now)
  | @joined life a g w e now rule h hrule hf hsome ih =>
    rw [List.forall_mem_append] at hgrace
    obtain rfl : g.grace = grace := hgrace.2 _ List.mem_cons_self
    have hends : ends g.grace f (life ++ [g.moment r w (.take e now)]) =
        ends g.grace f life ∪ {g.deadline now} := by
      rw [ends_snoc _ f h.ne_nil]
      simp only [ingests_take w hrule hf, exists_eq_left, Set.ofPred_eq_eq_singleton, deadline]
    rw [endsAt_send, endsAt_joined, hends]
    exact isGreatest_later (ih hgrace.1) (g.deadline now)
  | @swept life a g w now h hleft hafter ih =>
    rw [List.forall_mem_append] at hgrace
    have hsweep : ∀ t, ¬(g.moment r w (.sweep now)).Ingests f t := fun _ ⟨_, hdeed, _⟩ => by cases hdeed
    rw [endsAt_tidy, ends_snoc_of_not_ingests grace h.ne_nil hsweep]
    exact ih hgrace.1
  | @spared life a g w d h hd hcalls ih =>
    rw [List.forall_mem_append] at hgrace
    rw [ends_snoc_of_not_ingests grace h.ne_nil (not_ingests_of_not_concerns w hd)]
    exact ih hgrace.1

/-! ## Runs -/

theorem grace_does (r : Receiver σ) (g : Aggregator) (w : σ) (d : Deed) :
    (g.does r w d).aggregator.grace = g.grace := by
  cases d with
  | take e now =>
    have hland (rule : SharedRule) : (g.land rule now e).aggregator.grace = g.grace := by
      unfold land reach
      cases g.table.get? e.fingerprint <;> rfl
    rw [does]
    unfold take
    cases SharedRule.firstMatch? g.rules e with
    | none => rfl
    | some rule => exact hland rule
  | announce _ | gauge | reject | replaceRules _ | sweep _ => rfl

theorem lifetime_subset (f : Fingerprint) (past : List Moment) : lifetime f past ⊆ past := by
  induction past using List.reverseRecOn with
  | nil => exact List.Subset.refl _
  | append_singleton past m ih =>
    rw [lifetime_snoc]
    unfold outlive
    split
    · exact List.nil_subset _
    · exact List.subset_append_right past [m]
    · exact List.append_subset.2
        ⟨List.Subset.trans ih (List.subset_append_left past [m]), List.subset_append_right past [m]⟩

namespace Trail

variable {grace : Span} {g : Aggregator} {w w' : σ} {past : List Moment} {f : Fingerprint}

theorem grace_eq (h : Trail r (.new grace) w past g w') :
    g.grace = grace.grace ∧ ∀ m ∈ past, m.before.grace = grace.grace := by
  induction h with
  | start => exact ⟨rfl, fun m hm => absurd hm List.not_mem_nil⟩
  | next d _ ih =>
    refine ⟨(grace_does r _ _ d).trans ih.1, fun m hm => ?_⟩
    rcases List.mem_append.1 hm with hm | hm
    · exact ih.2 m hm
    · rw [List.mem_singleton.1 hm]
      exact ih.1

theorem isGreatest_endsAt (h : Trail r (.new grace) w past g w') {a : Aggregation}
    (ha : g.table.get? f = some a) :
    IsGreatest (ends grace.grace f (lifetime f past)) a.endsAt := by
  have hlife := h.life f
  rw [ha] at hlife
  have hlife : Life r f (lifetime f past) a := hlife
  exact hlife.isGreatest_endsAt fun m hm => h.grace_eq.2 m (lifetime_subset f past hm)

end Trail

/-- The aggregation of a fingerprint disappears at the moment. -/
def Moment.Evicts (m : Moment) (f : Fingerprint) : Prop :=
  (m.before.table.get? f).isSome ∧ m.after.table.get? f = none

theorem sweep_of_evicts {g : Aggregator} {w : σ} {d : Deed} {f : Fingerprint}
    (h : (g.moment r w d).Evicts f) : ∃ now, d = .sweep now := by
  obtain ⟨hbefore, hafter⟩ := h
  simp only [moment] at hbefore hafter
  by_cases hd : d.Concerns g f
  · cases d with
    | take e now =>
      obtain ⟨rule, hrule⟩ := Option.isSome_iff_exists.1 hd.1
      rw [does, get?_take r g w now hrule, if_pos hd.2.symm] at hafter
      cases hafter
    | sweep now => exact ⟨now, rfl⟩
    | announce _ | gauge | reject | replaceRules _ => exact absurd hd id
  · rw [get?_does_of_not_concerns r w hd] at hafter
    rw [hafter] at hbefore
    cases hbefore

/-- No aggregation disappears before its grace period has passed, nor while it holds an event that
is still to come. -/
theorem Trail.passed_of_evicts {grace : Span} {g : Aggregator} {w w' : σ} {past : List Moment}
    (h : Trail r (.new grace) w past g w') {d : Deed} {f : Fingerprint}
    (hevicts : (g.moment r w' d).Evicts f) :
    ∃ now, d = .sweep now ∧
      (∀ m ∈ lifetime f past, ∀ t, m.Ingests f t → t.addCapped grace.grace ≤ now) ∧
      ∀ e ∈ survivors f (lifetime f past), e.createdAt ≤ now := by
  obtain ⟨now, rfl⟩ := sweep_of_evicts hevicts
  obtain ⟨a, ha⟩ := Option.isSome_iff_exists.1 hevicts.1
  have hspent : a.IsSpent now :=
    ((sweeps_sweptTable now (h.proper Table.proper_nil).distinct).evicts f a ha).1 hevicts.2
  have hends := h.isGreatest_endsAt ha
  have hlife := h.life f
  simp only [moment] at ha
  rw [ha] at hlife
  refine ⟨now, rfl, fun m hm t ht => ?_, ?_⟩
  · exact Instant.le_trans (hends.2 (.inr ⟨m, hm, t, ht, rfl⟩)) hspent.2
  · rw [← Life.events_eq hlife]
    exact hspent.1

theorem result_performAll_sweep (r : Receiver σ) (g : Aggregator) (w : σ) (ops₁ ops₂ : List Operation)
    (now : Instant) :
    (performAll r g w (ops₁ ++ .sweep now :: ops₂)).result[ops₁.length]? =
      some (.swept ((performAll r g w ops₁).aggregator.evictions now)) := by
  induction ops₁ generalizing g w with
  | nil => rfl
  | cons op rest ih => exact ih _ _

theorem aggregator_performAll_sweep (r : Receiver σ) (g : Aggregator) (w : σ) (ops : List Operation)
    (now : Instant) :
    (performAll r g w (ops ++ [.sweep now])).aggregator = (performAll r g w ops).aggregator.sweep now := by
  induction ops generalizing g w with
  | nil => rfl
  | cons op rest ih => exact ih _ _

/-- **Eviction.** An aggregation ends at the latest of the ends that were set, and a sweep evicts
exactly what is spent. -/
theorem evicted_iff_spent (r : Receiver σ) (grace : Span) (w : σ) (ops : List Operation) :
    let run := history r (.new grace) w ops
    (∀ past m rest, run = past ++ m :: rest →
      (∀ f a, m.after.table.get? f = some a →
        IsGreatest (ends grace.grace f (lifetime f (past ++ [m]))) a.endsAt) ∧
      (∀ now, m.deed = .sweep now → Sweeps now m.before.table m.after.table) ∧
      ∀ f, m.Evicts f → ∃ now, m.deed = .sweep now ∧
        (∀ m' ∈ lifetime f past, ∀ t, m'.Ingests f t → t.addCapped grace.grace ≤ now) ∧
        ∀ e ∈ survivors f (lifetime f past), e.createdAt ≤ now) ∧
    ∀ ops₁ now ops₂, ops = ops₁ ++ .sweep now :: ops₂ →
      let before := (performAll r (.new grace) w ops₁).aggregator.table
      let after := (performAll r (.new grace) w (ops₁ ++ [.sweep now])).aggregator.table
      Sweeps now before after ∧
        (performAll r (.new grace) w ops).result[ops₁.length]? =
          some (.swept (gone before after).length) := by
  intro run
  constructor
  · intro past m rest hrun
    obtain ⟨g, w', hpast, hm⟩ := (trail_history r (.new grace) w ops).at_moment hrun
    refine ⟨fun f a ha => ?_, fun now hdeed => ?_, fun f hevicts => ?_⟩
    · rw [hm] at ha ⊢
      exact (hpast.next m.deed).isGreatest_endsAt ha
    · rw [hm, hdeed]
      exact sweeps_sweptTable now (hpast.proper Table.proper_nil).distinct
    · rw [hm] at hevicts
      exact hpast.passed_of_evicts hevicts
  · rintro ops₁ now ops₂ rfl before after
    have hproper := (trail_history r (.new grace) w ops₁).proper Table.proper_nil
    have hafter : after = sweptTable now before :=
      congrArg table (aggregator_performAll_sweep r (.new grace) w ops₁ now)
    rw [hafter, result_performAll_sweep, length_gone now hproper.distinct]
    exact ⟨sweeps_sweptTable now hproper.distinct, rfl⟩

end Aggregator

end Alerting
