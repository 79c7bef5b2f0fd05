import Alerting.Proofs.Aggregator.Ownership
import Mathlib.Data.Set.Function

/-!
# What is held together

Events are grouped by their fingerprints, and rules claim them by their labels. The events of an
aggregation always have its fingerprint. As long as no two label sets of a run have the same
fingerprint and its rules are set before its events come, the two agree: an aggregation then holds
the events of one label set, which no other one is of, and its rule is the one that the rules in
force select for them.
-/

namespace Alerting

/-! ## Rules and labels -/

theorem SharedRule.firstMatch?_congr (rules : List SharedRule) {e e' : Event}
    (h : e.labels = e'.labels) : firstMatch? rules e = firstMatch? rules e' := by
  have hfilter : ∀ f : Filter, f.handles e = f.handles e' := fun f => by
    simp only [Filter.handles, Event.label?, h]
  have hrule : ∀ rule : Rule, rule.handles e = rule.handles e' := fun rule => by
    simp only [Rule.handles, hfilter]
  simp only [firstMatch?, hrule]

instance : Nonempty TextMap := ⟨∅⟩

namespace Operation

def arrivals : Operation → List Event
  | .aggregate events _ => events
  | .replaceRules _ | .sweep _ => []

def Replaces : Operation → Prop
  | .replaceRules _ => True
  | .aggregate _ _ | .sweep _ => False

end Operation

namespace Aggregator

variable {σ : Type} {r : Receiver σ}

/-- No list of rules is set after the first event has come. -/
def RulesComeFirst (ops : List Operation) : Prop :=
  ops.Pairwise fun op later => op.arrivals ≠ [] → ¬later.Replaces

/-- The label sets of the events that come in a run. -/
def labelSets (ops : List Operation) : Set TextMap :=
  {labels | ∃ op ∈ ops, ∃ e ∈ op.arrivals, e.labels = labels}

/-! ## Operations and their deeds -/

theorem mem_arrivals_of_take_mem_deeds {g : Aggregator} {op : Operation} {e : Event} {now : Instant}
    (h : .take e now ∈ g.deeds op) : e ∈ op.arrivals := by
  obtain ⟨events, rfl, he⟩ := eq_aggregate_of_take_mem_deeds h
  exact he

theorem replaces_of_mem_deeds {g : Aggregator} {op : Operation} {d : Deed} (hd : d ∈ g.deeds op)
    (h : d.Replaces) : op.Replaces := by
  cases op with
  | aggregate events now => exact absurd h (not_replaces_of_aggregate g events now d hd)
  | replaceRules rules => trivial
  | sweep now =>
    rw [List.mem_singleton.1 hd] at h
    exact absurd h id

theorem exists_operation_of_mem_history {g : Aggregator} {w : σ} {ops : List Operation} {m : Moment}
    (h : m ∈ history r g w ops) : ∃ op ∈ ops, ∃ g' : Aggregator, m.deed ∈ g'.deeds op := by
  induction ops generalizing g w with
  | nil => exact absurd h List.not_mem_nil
  | cons op rest ih =>
    rcases List.mem_append.1 h with h | h
    · exact ⟨op, List.mem_cons_self, g, deed_mem_of_mem_moments h⟩
    · obtain ⟨op', hop', hdeed⟩ := ih h
      exact ⟨op', List.mem_cons_of_mem op hop', hdeed⟩

theorem labels_mem_labelSets {g : Aggregator} {w : σ} {ops : List Operation} {m : Moment} {e : Event}
    {now : Instant} (hm : m ∈ history r g w ops) (hd : m.deed = .take e now) :
    e.labels ∈ labelSets ops := by
  obtain ⟨op, hop, g', hdeed⟩ := exists_operation_of_mem_history hm
  exact ⟨op, hop, e, mem_arrivals_of_take_mem_deeds (hd ▸ hdeed), rfl⟩

theorem not_replaces_after_take (r : Receiver σ) (g : Aggregator) (w : σ) {ops : List Operation}
    (h : RulesComeFirst ops) :
    (history r g w ops).Pairwise fun m m' =>
      ∀ e now, m.deed = .take e now → ¬m'.deed.Replaces := by
  induction ops generalizing g w with
  | nil => exact .nil
  | cons op rest ih =>
    obtain ⟨hlater, hrest⟩ := List.pairwise_cons.1 h
    have harrivals : ∀ m ∈ g.moments r w (g.deeds op), ∀ e now, m.deed = .take e now →
        e ∈ op.arrivals := fun m hm e now hd =>
      mem_arrivals_of_take_mem_deeds (hd ▸ deed_mem_of_mem_moments hm)
    refine List.pairwise_append.2 ⟨List.pairwise_of_forall_mem_list ?_, ih _ _ hrest, ?_⟩
    · -- an operation that brings events does not replace the rules
      intro m hm m' hm' e now hd hreplaces
      have he := harrivals m hm e now hd
      have hop := replaces_of_mem_deeds (deed_mem_of_mem_moments hm') hreplaces
      cases op with
      | aggregate events now => exact hop
      | replaceRules rules => exact absurd he List.not_mem_nil
      | sweep now => exact hop
    · intro m hm m' hm' e now hd hreplaces
      obtain ⟨later, hmem, g', hdeed⟩ := exists_operation_of_mem_history hm'
      exact hlater later hmem (List.ne_nil_of_mem (harrivals m hm e now hd))
        (replaces_of_mem_deeds hdeed hreplaces)

theorem inForce_append_of_not_replaces (past : List Moment) {later : List Moment}
    (h : ∀ m ∈ later, ¬m.deed.Replaces) : inForce (past ++ later) = inForce past := by
  have hnone : later.filterMap (·.deed.rules?) = [] := by
    rw [List.filterMap_eq_nil_iff]
    intro m hm
    cases hd : m.deed with
    | replaceRules rules => exact absurd (hd ▸ trivial) (h m hm)
    | take _ _ | announce _ | gauge | reject | sweep _ => rfl
  rw [inForce, List.filterMap_append, hnone, List.append_nil, inForce]

/-! ## Held events -/

theorem exists_arrival_of_mem_survivors {f : Fingerprint} {life : List Moment} {e : Event}
    (h : e ∈ survivors f life) : ∃ m ∈ life, e ∈ m.arrival f := by
  induction life with
  | nil => exact absurd h List.not_mem_nil
  | cons m later ih =>
    rcases List.mem_append.1 h with h | h
    · exact ⟨m, List.mem_cons_self, (List.mem_filter.1 h).1⟩
    · obtain ⟨m', hm', he⟩ := ih h
      exact ⟨m', List.mem_cons_of_mem m hm', he⟩

theorem take_of_mem_arrival {f : Fingerprint} {m : Moment} {e : Event} (h : e ∈ m.arrival f) :
    e.fingerprint = f ∧ ∃ now, m.deed = .take e now := by
  unfold Moment.arrival at h
  split at h
  · rename_i e' now hd
    split at h
    · rename_i hclaimed
      rw [List.mem_singleton.1 h]
      exact ⟨hclaimed.2, now, hd⟩
    · exact absurd h List.not_mem_nil
  · exact absurd h List.not_mem_nil

theorem Trail.take_of_mem_events {grace : Span} {g : Aggregator} {w w' : σ} {past : List Moment}
    {f : Fingerprint} {a : Aggregation} {e : Event} (h : Trail r (.new grace) w past g w')
    (ha : g.table.get? f = some a) (he : e ∈ a.events) :
    e.fingerprint = f ∧ ∃ m ∈ past, ∃ now, m.deed = .take e now := by
  have hlife := h.life f
  rw [ha] at hlife
  rw [Life.events_eq hlife] at he
  obtain ⟨m, hm, hmem⟩ := exists_arrival_of_mem_survivors he
  obtain ⟨hf, hd⟩ := take_of_mem_arrival hmem
  exact ⟨hf, m, lifetime_subset f past hm, hd⟩

/-- Each aggregation is of one label set, which no other one is of, and has the rule that is
selected for it. -/
structure Grouped (labelsOf : Fingerprint → TextMap) (g : Aggregator) : Prop where
  held : ∀ f a, g.table.get? f = some a → ∀ e ∈ a.events, e.labels = labelsOf f
  apart : ∀ f f', (g.table.get? f).isSome → (g.table.get? f').isSome → f ≠ f' →
    labelsOf f ≠ labelsOf f'
  owned : ∀ f a, g.table.get? f = some a → ∀ e : Event, e.labels = labelsOf f →
    SharedRule.firstMatch? g.rules e = some a.rule

/-- Where the rules come first, the owner of an aggregation is still the first to claim the event that
opened it. -/
theorem exists_opening_of_owns {g : Aggregator} {w : σ} {ops : List Operation} {past rest : List Moment}
    {f : Fingerprint} {rule : SharedRule} (hfirst : RulesComeFirst ops)
    (hrun : history r g w ops = past ++ rest) (h : Owns rule f past) :
    ∃ e : Event, e.fingerprint = f ∧ e.labels ∈ labelSets ops ∧
      SharedRule.firstMatch? (inForce past) e = some rule := by
  obtain ⟨before, m, later, e, now, rfl, hd, hf, -, hmatch, -⟩ := h
  have hm : m ∈ history r g w ops := by simp [hrun]
  refine ⟨e, hf, labels_mem_labelSets hm hd, ?_⟩
  have hpairs := not_replaces_after_take r g w hfirst
  rw [hrun, List.append_assoc] at hpairs
  have hlater := (List.pairwise_cons.1 (List.pairwise_append.1 hpairs).2.1).1
  rw [inForce_append_of_not_replaces before, hmatch]
  intro m' hm'
  rcases List.mem_cons.1 hm' with rfl | hm'
  · rw [hd]
    exact id
  · exact hlater m' (List.mem_append_left rest hm') e now hd

theorem Trail.grouped {grace : Span} {g : Aggregator} {w w' : σ} {ops : List Operation}
    {past rest : List Moment} (h : Trail r (.new grace) w past g w') (hfirst : RulesComeFirst ops)
    (hdistinct : Set.InjOn Fingerprint.ofLabels (labelSets ops))
    (hrun : history r (.new grace) w ops = past ++ rest) :
    Grouped (Function.invFunOn Fingerprint.ofLabels (labelSets ops)) g := by
  have hof : ∀ e : Event, e.labels ∈ labelSets ops →
      Function.invFunOn Fingerprint.ofLabels (labelSets ops) e.fingerprint = e.labels :=
    fun e he => hdistinct.leftInvOn_invFunOn he
  have hopening : ∀ f a, g.table.get? f = some a → ∃ e : Event, e.fingerprint = f ∧
      e.labels ∈ labelSets ops ∧ SharedRule.firstMatch? g.rules e = some a.rule := fun f a ha =>
    h.rules_eq ▸ exists_opening_of_owns hfirst hrun (h.owns ha)
  constructor
  · intro f a ha e he
    obtain ⟨rfl, m, hm, now, hd⟩ := h.take_of_mem_events ha he
    have hmem : m ∈ history r (.new grace) w ops := hrun ▸ List.mem_append_left rest hm
    exact (hof e (labels_mem_labelSets hmem hd)).symm
  · intro f f' hf hf' hne heq
    obtain ⟨a, ha⟩ := Option.isSome_iff_exists.1 hf
    obtain ⟨a', ha'⟩ := Option.isSome_iff_exists.1 hf'
    obtain ⟨e, rfl, he, -⟩ := hopening f a ha
    obtain ⟨e', rfl, he', -⟩ := hopening f' a' ha'
    rw [hof e he, hof e' he'] at heq
    exact hne (congrArg Fingerprint.ofLabels heq)
  · intro f a ha e he
    obtain ⟨opening, rfl, hmem, hmatch⟩ := hopening f a ha
    rw [hof opening hmem] at he
    rw [SharedRule.firstMatch?_congr g.rules he, hmatch]

/-- **What is held together.** If rules come first and no two label sets collide, an aggregation is
of one label set and one owner. -/
theorem held_events_agree (r : Receiver σ) (grace : Span) (w : σ) (ops : List Operation) :
    let start := Aggregator.new grace
    let run := history r start w ops
    (performAll r start w ops).aggregator = start.following run ∧
    (∀ past rest f a, run = past ++ rest → (start.following past).table.get? f = some a →
      ∀ e ∈ a.events, e.fingerprint = f) ∧
    (RulesComeFirst ops → Set.InjOn Fingerprint.ofLabels (labelSets ops) →
      ∃ labelsOf, ∀ past rest, run = past ++ rest → Grouped labelsOf (start.following past)) := by
  intro start run
  have htrail := trail_history r start w ops
  refine ⟨htrail.following_eq.symm, ?_, fun hfirst hdistinct =>
    ⟨Function.invFunOn Fingerprint.ofLabels (labelSets ops), fun past rest hrun => ?_⟩⟩
  · intro past rest f a hrun ha e he
    obtain ⟨g, w', hpast⟩ := htrail.at_split hrun
    rw [hpast.following_eq] at ha
    exact (hpast.take_of_mem_events ha he).1
  · obtain ⟨g, w', hpast⟩ := htrail.at_split hrun
    rw [hpast.following_eq]
    exact hpast.grouped hfirst hdistinct hrun

/-- Two label sets in one batch, of which a sweep leaves one event each, stay apart. -/
theorem held_events_agree_two :
    ∃ ops, RulesComeFirst ops ∧ Set.InjOn Fingerprint.ofLabels (labelSets ops) ∧
      (performAll Receiver.log (.new ⟨0⟩) () ops).aggregator.table.map
        (fun entry => entry.2.events.map (·.createdAt)) = [[.latest], [.latest]] ∧
      ∃ labelsOf, Grouped labelsOf (performAll Receiver.log (.new ⟨0⟩) () ops).aggregator := by
  obtain ⟨ops, hops⟩ : ∃ ops : List Operation, ops = [.replaceRules [⟨0, {}⟩, ⟨1, {}⟩],
      .aggregate [{ labels := .ofList [("service", "db")], createdAt := .epoch },
        { createdAt := .latest },
        { labels := .ofList [("service", "db")], createdAt := .latest }] .epoch,
      .sweep .epoch] := ⟨_, rfl⟩
  have hfirst : RulesComeFirst ops := by
    simp [hops, RulesComeFirst, Operation.arrivals, Operation.Replaces]
  have hne : Fingerprint.ofLabels (.ofList [("service", "db")]) ≠ .ofLabels ∅ := by decide +kernel
  have hsets : labelSets ops ⊆ {.ofList [("service", "db")], ∅} := by
    rintro labels ⟨op, hop, e, he, rfl⟩
    simp only [hops, List.mem_cons, List.not_mem_nil, or_false] at hop
    rcases hop with rfl | rfl | rfl
    · exact absurd he List.not_mem_nil
    · simp only [Operation.arrivals, List.mem_cons, List.not_mem_nil, or_false] at he
      rcases he with rfl | rfl | rfl
      · exact .inl rfl
      · exact .inr rfl
      · exact .inl rfl
    · exact absurd he List.not_mem_nil
  have hdistinct : Set.InjOn Fingerprint.ofLabels (labelSets ops) := by
    refine Set.InjOn.mono hsets ?_
    rintro m (rfl | rfl) m' (rfl | rfl) heq
    · rfl
    · exact absurd heq hne
    · exact absurd heq.symm hne
    · rfl
  obtain ⟨hend, -, hgrouped⟩ := held_events_agree Receiver.log ⟨0⟩ () ops
  obtain ⟨labelsOf, hall⟩ := hgrouped hfirst hdistinct
  refine ⟨ops, hfirst, hdistinct, by rw [hops]; decide +kernel, labelsOf, ?_⟩
  rw [hend]
  exact hall _ [] (List.append_nil _).symm

end Aggregator

end Alerting
