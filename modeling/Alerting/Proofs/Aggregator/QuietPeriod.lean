import Alerting.Proofs.Aggregator.Eviction

/-!
# The quiet period

Once an answer has asked for no other try, the receiver hears nothing more of a fingerprint until a
sweep has evicted its aggregation and an event has opened another one. As long as the clock does not
go back, that takes at least the grace period.
-/

namespace Alerting

def Operation.time? : Operation → Option Instant
  | .aggregate _ now => some now
  | .replaceRules _ => none
  | .sweep now => some now

namespace Aggregator

open Aggregation

variable {σ : Type} {r : Receiver σ}

/-! ## Time -/

def Deed.time? : Deed → Option Instant
  | .take _ now => some now
  | .sweep now => some now
  | _ => none

/-- One moment is not later than another, if both have a time. -/
def Moment.NotAfter (m m' : Moment) : Prop :=
  ∀ t t', m.deed.time? = some t → m'.deed.time? = some t' → t ≤ t'

theorem deed_mem_of_mem_moments {g : Aggregator} {w : σ} {ds : List Deed} {m : Moment}
    (h : m ∈ g.moments r w ds) : m.deed ∈ ds := by
  induction ds generalizing g w with
  | nil => exact absurd h List.not_mem_nil
  | cons d rest ih =>
    rcases List.mem_cons.1 h with rfl | h
    · exact List.mem_cons_self
    · exact List.mem_cons_of_mem _ (ih h)

theorem time_of_mem_deeds {g : Aggregator} {op : Operation} {d : Deed} {t : Instant}
    (hd : d ∈ g.deeds op) (ht : d.time? = some t) : op.time? = some t := by
  cases op with
  | aggregate events now =>
    simp only [deeds] at hd
    split at hd
    · rw [List.mem_singleton.1 hd] at ht
      cases ht
    · simp only [List.cons_append, List.mem_cons, List.mem_append, List.mem_map, List.not_mem_nil,
        or_false] at hd
      rcases hd with rfl | ⟨e, _, rfl⟩ | rfl
      · cases ht
      · exact ht
      · cases ht
  | replaceRules rules =>
    rw [List.mem_singleton.1 hd] at ht
    cases ht
  | sweep now =>
    rw [List.mem_singleton.1 hd] at ht
    exact ht

theorem time_of_mem_history {g : Aggregator} {w : σ} {ops : List Operation} {m : Moment} {t : Instant}
    (hm : m ∈ history r g w ops) (ht : m.deed.time? = some t) :
    t ∈ ops.filterMap Operation.time? := by
  induction ops generalizing g w with
  | nil => exact absurd hm List.not_mem_nil
  | cons op rest ih =>
    rw [List.mem_filterMap]
    rcases List.mem_append.1 hm with hm | hm
    · exact ⟨op, List.mem_cons_self, time_of_mem_deeds (deed_mem_of_mem_moments hm) ht⟩
    · obtain ⟨op', hop', ht⟩ := List.mem_filterMap.1 (ih hm)
      exact ⟨op', List.mem_cons_of_mem _ hop', ht⟩

theorem notAfter_history (r : Receiver σ) (g : Aggregator) (w : σ) {ops : List Operation}
    (hclock : (ops.filterMap Operation.time?).Pairwise (· ≤ ·)) :
    (history r g w ops).Pairwise Moment.NotAfter := by
  induction ops generalizing g w with
  | nil => exact .nil
  | cons op rest ih =>
    have hrest : (rest.filterMap Operation.time?).Pairwise (· ≤ ·) :=
      hclock.sublist ((List.sublist_cons_self op rest).filterMap _)
    refine List.pairwise_append.2 ⟨List.pairwise_of_forall_mem_list ?_, ih _ _ hrest, ?_⟩
    · -- all deeds of an operation have its time
      intro m hm m' hm' t t' ht ht'
      have ht := time_of_mem_deeds (deed_mem_of_mem_moments hm) ht
      have ht' := time_of_mem_deeds (deed_mem_of_mem_moments hm') ht'
      rw [Option.some.inj (ht.symm.trans ht')]
      exact Instant.le_refl t'
    · intro m hm m' hm' t t' ht ht'
      have hop := time_of_mem_deeds (deed_mem_of_mem_moments hm) ht
      rw [List.filterMap_cons_some hop] at hclock
      exact (List.pairwise_cons.1 hclock).1 t' (time_of_mem_history hm' ht')

/-! ## From one lifetime to the next -/

def Moment.Opens (m : Moment) (f : Fingerprint) : Prop :=
  m.before.table.get? f = none ∧ (m.after.table.get? f).isSome

theorem Trail.lives_on {g g' : Aggregator} {w w' : σ} {l : List Moment} {f : Fingerprint}
    (h : Trail r g w l g' w') (hsome : (g.table.get? f).isSome) (hspared : ∀ m ∈ l, ¬m.Evicts f) :
    (g'.table.get? f).isSome ∧ ∀ past, lifetime f (past ++ l) = lifetime f past ++ l := by
  induction h with
  | start => exact ⟨hsome, fun past => by rw [List.append_nil, List.append_nil]⟩
  | @next l g' w' d _ ih =>
    rw [List.forall_mem_append] at hspared
    obtain ⟨hbefore, hlifetime⟩ := ih hspared.1
    have hafter : ((g'.moment r w' d).after.table.get? f).isSome := by
      rw [← Option.ne_none_iff_isSome]
      exact fun hnone => hspared.2 _ (List.mem_singleton_self _) ⟨hbefore, hnone⟩
    refine ⟨hafter, fun past => ?_⟩
    obtain ⟨a, ha⟩ := Option.isSome_iff_exists.1 hbefore
    obtain ⟨b, hb⟩ := Option.isSome_iff_exists.1 hafter
    have ha : (g'.moment r w' d).before.table.get? f = some a := ha
    rw [← List.append_assoc, lifetime_snoc, hlifetime, outlive, ha, hb, List.append_assoc]

theorem Trail.exists_opens {g g' : Aggregator} {w w' : σ} {l : List Moment} {f : Fingerprint}
    (h : Trail r g w l g' w') (hnone : g.table.get? f = none) (hsome : (g'.table.get? f).isSome) :
    ∃ m ∈ l, m.Opens f := by
  induction h with
  | start => simp [hnone] at hsome
  | @next l g' w' d _ ih =>
    cases hg' : g'.table.get? f with
    | none => exact ⟨_, List.mem_append_right _ (List.mem_singleton_self _), hg', hsome⟩
    | some a =>
      obtain ⟨m, hm, hopens⟩ := ih (by rw [hg']; rfl)
      exact ⟨m, List.mem_append_left _ hm, hopens⟩

theorem exists_first_evicts {l : List Moment} {f : Fingerprint} (h : ¬∀ m ∈ l, ¬m.Evicts f) :
    ∃ l₁ m l₂, l = l₁ ++ m :: l₂ ∧ m.Evicts f ∧ ∀ m' ∈ l₁, ¬m'.Evicts f := by
  induction l with
  | nil => exact absurd (fun m hm => absurd hm List.not_mem_nil) h
  | cons m rest ih =>
    by_cases hm : m.Evicts f
    · exact ⟨[], m, rest, rfl, hm, fun m' hm' => absurd hm' List.not_mem_nil⟩
    · obtain ⟨l₁, m', l₂, rfl, hm', hfirst⟩ := ih fun hrest => h (List.forall_mem_cons.2 ⟨hm, hrest⟩)
      exact ⟨m :: l₁, m', l₂, rfl, hm', List.forall_mem_cons.2 ⟨hm, hfirst⟩⟩

/-! ## Calls and lifetimes -/

theorem mem_lifetime_snoc {f : Fingerprint} {past : List Moment} {m : Moment}
    (h : (m.after.table.get? f).isSome) : m ∈ lifetime f (past ++ [m]) := by
  obtain ⟨a, ha⟩ := Option.isSome_iff_exists.1 h
  rw [lifetime_snoc, outlive, ha]
  split
  · contradiction
  · exact List.mem_singleton_self m
  · exact List.mem_append_right _ (List.mem_singleton_self m)

theorem mem_answers {f : Fingerprint} {life : List Moment} {m : Moment} {c : Summary × Answer}
    (hm : m ∈ life) (hc : c ∈ m.calls) (hf : c.1.fingerprint = f) : c.2 ∈ answers f life := by
  refine List.mem_map_of_mem (List.mem_filter.2 ⟨List.mem_flatMap.2 ⟨m, hm, hc⟩, ?_⟩)
  simpa using hf

theorem Trail.ingests_of_call {grace : Span} {g : Aggregator} {w w' : σ} {past : List Moment}
    (h : Trail r (.new grace) w past g w') {d : Deed} {c : Summary × Answer}
    (hc : c ∈ (g.moment r w' d).calls) :
    ((g.moment r w' d).after.table.get? c.1.fingerprint).isSome ∧
      Owed c.1.fingerprint (lifetime c.1.fingerprint past) ∧
      ∃ e now, d = .take e now ∧ (g.moment r w' d).Ingests c.1.fingerprint now := by
  obtain ⟨e, now, rule, a, rfl, hrule, hlife, hsummary, -⟩ := h.call_eq hc
  have hf : c.1.fingerprint = e.fingerprint := by
    rw [hsummary]
    exact hlife.fingerprint_eq
  rw [hf]
  refine ⟨?_, ?_, e, now, rfl, (ingests_take w' hrule rfl now).2 rfl⟩
  · have hlived := (h.next (.take e now)).life e.fingerprint
    rw [← Option.ne_none_iff_isSome]
    intro hnone
    simp only [moment] at hnone
    rw [hnone] at hlived
    exact hlife.ne_nil hlived
  · have hdue : (g.moment r w' (.take e now)).IsDue past := by
      by_contra hdue
      rw [(h.calls_eq (.take e now)).2 hdue] at hc
      exact List.not_mem_nil hc
    obtain ⟨_, _, hdeed, -, howed⟩ := hdue
    cases hdeed
    exact howed

/-- Between a final answer and the next call for its fingerprint, a sweep evicts the aggregation,
and another one is opened. -/
theorem Trail.evicts_between {grace : Span} {g₁ g₂ : Aggregator} {w w₁ w₂ : σ}
    {past mid : List Moment} {d₁ d₂ : Deed} {c₁ c₂ : Summary × Answer}
    (hpast : Trail r (.new grace) w past g₁ w₁)
    (hmid : Trail r (g₁.does r w₁ d₁).aggregator (g₁.does r w₁ d₁).receiver mid g₂ w₂)
    (hc₁ : c₁ ∈ (g₁.moment r w₁ d₁).calls) (hc₂ : c₂ ∈ (g₂.moment r w₂ d₂).calls)
    (hf : c₂.1.fingerprint = c₁.1.fingerprint) (hfinal : ¬IsRetryable c₁.2) :
    ∃ mid₁ s mid₂ t, mid = mid₁ ++ s :: mid₂ ∧ s.deed = .sweep t ∧ s.Evicts c₁.1.fingerprint ∧
      (∀ t₁, (g₁.moment r w₁ d₁).Ingests c₁.1.fingerprint t₁ → t₁.addCapped grace.grace ≤ t) ∧
      ∃ m ∈ mid₂ ++ [g₂.moment r w₂ d₂], m.Opens c₁.1.fingerprint := by
  set m₁ := g₁.moment r w₁ d₁
  have hnext : Trail r (.new grace) w (past ++ [m₁]) _ _ := hpast.next d₁
  obtain ⟨hsome₁, -, -⟩ := hpast.ingests_of_call hc₁
  obtain ⟨hsome₂, howed, -⟩ := (hnext.append hmid).ingests_of_call hc₂
  rw [hf] at hsome₂ howed
  have hmem : m₁ ∈ lifetime c₁.1.fingerprint (past ++ [m₁]) := mem_lifetime_snoc hsome₁
  -- the answer counts as long as the lifetime lasts, so the lifetime must have come to an end
  have hends : ¬∀ m ∈ mid, ¬m.Evicts c₁.1.fingerprint := by
    intro hspared
    rw [(hmid.lives_on hsome₁ hspared).2] at howed
    exact hfinal (howed.retryable _ (mem_answers (List.mem_append_left mid hmem) hc₁ rfl))
  obtain ⟨mid₁, s, mid₂, rfl, hevicts, hspared⟩ := exists_first_evicts hends
  obtain ⟨g₃, w₃, hmid₁, hrest⟩ := hmid.split
  obtain ⟨d, rfl, hmid₂⟩ := hrest.exists_first
  obtain ⟨t, rfl, hpassed, -⟩ := (hnext.append hmid₁).passed_of_evicts hevicts
  refine ⟨mid₁, _, mid₂, t, rfl, rfl, hevicts, fun t₁ ht₁ => hpassed m₁ ?_ t₁ ht₁, ?_⟩
  · rw [(hmid₁.lives_on hsome₁ hspared).2]
    exact List.mem_append_left mid₁ hmem
  · exact (hmid₂.next d₂).exists_opens hevicts.2 hsome₂

/-- **The quiet period.** After a final answer the receiver is called for the fingerprint again only
behind an eviction and the grace period. -/
theorem quiet_until_evicted (r : Receiver σ) (grace : Span) (w : σ) (ops : List Operation)
    (hclock : (ops.filterMap Operation.time?).Pairwise (· ≤ ·)) :
    let run := history r (.new grace) w ops
    Effect.calls (performAll r (.new grace) w ops).effects = run.flatMap Moment.calls ∧
    (∀ m ∈ run, m.calls.length ≤ 1) ∧
    ∀ past m₁ mid m₂ rest c₁ c₂, run = past ++ m₁ :: mid ++ m₂ :: rest → c₁ ∈ m₁.calls →
      c₂ ∈ m₂.calls → c₂.1.fingerprint = c₁.1.fingerprint → ¬IsRetryable c₁.2 →
      ∃ e₁ t₁ e₂ t₂, m₁.deed = .take e₁ t₁ ∧ m₂.deed = .take e₂ t₂ ∧
        t₁.addCapped grace.grace ≤ t₂ ∧
        ∃ mid₁ s mid₂, mid = mid₁ ++ s :: mid₂ ∧ (∃ t, s.deed = .sweep t) ∧
          s.Evicts c₁.1.fingerprint ∧ ∃ m ∈ mid₂ ++ [m₂], m.Opens c₁.1.fingerprint := by
  intro run
  have htrail := trail_history r (.new grace) w ops
  refine ⟨calls_history r _ w ops, fun m hm => ?_, ?_⟩
  · obtain ⟨past, rest, hrun⟩ := List.append_of_mem hm
    obtain ⟨g, w', hpast, hm⟩ := htrail.at_moment hrun
    have hcalls := hpast.calls_eq m.deed
    rw [hm]
    by_cases hdue : (g.moment r w' m.deed).IsDue past
    · exact (hcalls.1 hdue).le
    · rw [hcalls.2 hdue]
      exact Nat.zero_le 1
  · intro past m₁ mid m₂ rest c₁ c₂ hrun hc₁ hc₂ hf hfinal
    have hordered : (past ++ m₁ :: mid ++ m₂ :: rest).Pairwise Moment.NotAfter :=
      hrun ▸ notAfter_history r (.new grace) w hclock
    obtain ⟨g₂, w₂, hbefore, hm₂⟩ := htrail.at_moment hrun
    rw [← List.singleton_append, ← List.append_assoc] at hbefore
    obtain ⟨_, _, hnext, hmid⟩ := hbefore.split
    obtain ⟨g₁, w₁, d₁, hpast, rfl, rfl, rfl⟩ := hnext.exists_next
    rw [hm₂] at hc₂
    obtain ⟨-, -, e₁, t₁, rfl, hingests⟩ := hpast.ingests_of_call hc₁
    obtain ⟨-, -, e₂, t₂, hd₂, -⟩ := (hnext.append hmid).ingests_of_call hc₂
    obtain ⟨mid₁, s, mid₂, t, rfl, hs, hevicts, hpassed, hopens⟩ :=
      hpast.evicts_between hmid hc₁ hc₂ hf hfinal
    rw [← hm₂] at hopens
    refine ⟨e₁, t₁, e₂, t₂, rfl, hd₂, ?_, mid₁, s, mid₂, rfl, ⟨t, hs⟩, hevicts, hopens⟩
    have hlate : s.NotAfter m₂ :=
      (List.pairwise_append.1 hordered).2.2 s (by simp) m₂ List.mem_cons_self
    exact Instant.le_trans (hpassed t₁ hingests)
      (hlate t t₂ (by rw [hs]; rfl) (by rw [hd₂]; rfl))

/-- With a grace period of a second, a sweep just a second after the first call makes way for the second
one. -/
theorem quiet_until_evicted_second :
    let pleased : Receiver Unit := ⟨fun w _ => ⟨w, .ok (), []⟩⟩
    let e : Event := { createdAt := .epoch }
    let later : Instant := ⟨1, 0, by decide, by decide, by decide, by decide⟩
    let ops : List Operation :=
      [.replaceRules [⟨0, {}⟩], .aggregate [e] .epoch, .sweep later, .aggregate [e] later]
    let run := history pleased (.new (.ofSeconds 1)) () ops
    (ops.filterMap Operation.time?).Pairwise (· ≤ ·) ∧
    ∃ past m₁ mid m₂ rest c₁ c₂, run = past ++ m₁ :: mid ++ m₂ :: rest ∧ c₁ ∈ m₁.calls ∧
      c₂ ∈ m₂.calls ∧ c₂.1.fingerprint = c₁.1.fingerprint ∧ ¬IsRetryable c₁.2 ∧
      ∃ e₁ t₁ e₂ t₂, m₁.deed = .take e₁ t₁ ∧ m₂.deed = .take e₂ t₂ ∧
        t₁.addCapped (Span.ofSeconds 1).grace ≤ t₂ := by
  intro pleased e later ops run
  have hclock : (ops.filterMap Operation.time?).Pairwise (· ≤ ·) := by decide
  have hcalls : run.map (fun m => m.calls.map fun c => (c.1.fingerprint, c.2.isOk)) =
      [[], [], [(e.fingerprint, true)], [], [], [], [(e.fingerprint, true)], []] := by
    decide +kernel
  obtain ⟨n₁, n₂, m₁, n₃, n₄, n₅, m₂, n₆, hrun⟩ : ∃ n₁ n₂ m₁ n₃ n₄ n₅ m₂ n₆,
      run = [n₁, n₂, m₁, n₃, n₄, n₅, m₂, n₆] := ⟨_, _, _, _, _, _, _, _, rfl⟩
  rw [hrun] at hcalls
  simp only [List.map_cons, List.map_nil, List.cons.injEq, List.map_eq_singleton_iff, Prod.mk.injEq]
    at hcalls
  obtain ⟨-, -, ⟨c₁, hm₁, hf₁, hok⟩, -, -, -, ⟨c₂, hm₂, hf₂, -⟩, -⟩ := hcalls
  have hc₁ : c₁ ∈ m₁.calls := hm₁ ▸ List.mem_singleton_self c₁
  have hc₂ : c₂ ∈ m₂.calls := hm₂ ▸ List.mem_singleton_self c₂
  have hf : c₂.1.fingerprint = c₁.1.fingerprint := hf₂.trans hf₁.symm
  have hfinal : ¬IsRetryable c₁.2 := by
    cases hanswer : c₁.2 with
    | ok _ => exact nofun
    | error _ => rw [hanswer] at hok; cases hok
  have hsplit : run = [n₁, n₂] ++ m₁ :: [n₃, n₄, n₅] ++ m₂ :: [n₆] := hrun
  obtain ⟨e₁, t₁, e₂, t₂, hd₁, hd₂, hle, -⟩ :=
    (quiet_until_evicted pleased (.ofSeconds 1) () ops hclock).2.2 _ _ _ _ _ _ _ hsplit hc₁ hc₂ hf
      hfinal
  exact ⟨hclock, _, m₁, _, m₂, _, c₁, c₂, hsplit, hc₁, hc₂, hf, hfinal, e₁, t₁, e₂, t₂, hd₁, hd₂, hle⟩

end Aggregator

end Alerting
