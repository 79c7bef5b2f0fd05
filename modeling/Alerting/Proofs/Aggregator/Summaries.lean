import Alerting.Proofs.Aggregator.Calls

/-!
# What a receiver is told

A summary tells the history of its lifetime: the events that arrived in it, in their order, less
those that a later sweep found to be due. Its rule is the one that claimed the first of them. The
last of them is the event for which the receiver is called.
-/

namespace Alerting.Aggregator

open Aggregation

variable {σ : Type}

def Moment.rule? (m : Moment) : Option SharedRule :=
  match m.deed with
  | .take e _ => SharedRule.firstMatch? m.before.rules e
  | _ => none

/-- The event that arrives for a fingerprint at a moment, if a rule claims it. -/
def Moment.arrival (f : Fingerprint) (m : Moment) : List Event :=
  match m.deed with
  | .take e _ => if m.rule?.isSome ∧ e.fingerprint = f then [e] else []
  | _ => []

/-- The moment drops no event of this date: it is no sweep, or it comes before that date. -/
def Moment.keeps (m : Moment) (e : Event) : Bool :=
  match m.deed with
  | .sweep now => ¬e.createdAt ≤ now
  | _ => true

/-- The events that arrive for a fingerprint and are dropped by no later moment. -/
def survivors (f : Fingerprint) : List Moment → List Event
  | [] => []
  | m :: later => (m.arrival f).filter (fun e => later.all (·.keeps e)) ++ survivors f later

theorem survivors_snoc (f : Fingerprint) (life : List Moment) (m : Moment) :
    survivors f (life ++ [m]) = (survivors f life).filter m.keeps ++ m.arrival f := by
  induction life with
  | nil => simp [survivors]
  | cons x later ih =>
    simp only [List.cons_append, survivors, ih, List.filter_append, List.append_assoc,
      List.filter_filter, List.all_append, List.all_cons, List.all_nil, Bool.and_true]
    congr 1
    exact List.filter_congr fun e _ => Bool.and_comm _ _

theorem arrival_take {g : Aggregator} {e : Event} {now : Instant} {f : Fingerprint}
    {rule : SharedRule} (r : Receiver σ) (w : σ)
    (hrule : SharedRule.firstMatch? g.rules e = some rule) (hf : e.fingerprint = f) :
    (g.moment r w (.take e now)).arrival f = [e] :=
  if_pos ⟨Option.isSome_iff_exists.2 ⟨rule, hrule⟩, hf⟩

theorem arrival_of_not_concerns {g : Aggregator} {d : Deed} {f : Fingerprint} (r : Receiver σ)
    (w : σ) (hd : ¬d.Concerns g f) : (g.moment r w d).arrival f = [] := by
  cases d with
  | take e now => exact if_neg hd
  | announce _ | gauge | reject | replaceRules _ | sweep _ => rfl

theorem keeps_of_not_concerns {g : Aggregator} {d : Deed} {f : Fingerprint} (r : Receiver σ) (w : σ)
    (hd : ¬d.Concerns g f) (e : Event) : (g.moment r w d).keeps e = true := by
  cases d with
  | sweep now => exact absurd trivial hd
  | take _ _ | announce _ | gauge | reject | replaceRules _ => rfl

theorem survivors_take {r : Receiver σ} {g : Aggregator} {w : σ} {f : Fingerprint} {e : Event}
    {now : Instant} {rule : SharedRule} (life : List Moment)
    (hrule : SharedRule.firstMatch? g.rules e = some rule) (hf : e.fingerprint = f) :
    survivors f (life ++ [g.moment r w (.take e now)]) = survivors f life ++ [e] := by
  have hkeeps : ∀ x ∈ survivors f life, (g.moment r w (.take e now)).keeps x = true := fun _ _ => rfl
  rw [survivors_snoc, arrival_take r w hrule hf, List.filter_eq_self.2 hkeeps]

theorem Life.events_eq {r : Receiver σ} {f : Fingerprint} {life : List Moment} {a : Aggregation}
    (h : Life r f life a) : a.events = survivors f life := by
  induction h with
  | opened hrule hf hnone =>
    rw [events_send, events_joined]
    exact (survivors_take [] hrule hf).symm
  | joined h hrule hf hsome ih =>
    rw [events_send, events_joined, ih, survivors_take _ hrule hf]
  | @swept life a g w now h hleft hafter ih =>
    have harrival : (g.moment r w (.sweep now)).arrival f = [] := rfl
    rw [survivors_snoc, harrival, List.append_nil, events_tidy, ih]
    apply List.filter_congr
    intro e _
    have hlate : now < e.createdAt ↔ ¬e.createdAt ≤ now := by
      rw [← Instant.not_lt, not_not]
    simp only [Moment.keeps, moment, hlate]
  | spared h hd hcalls ih =>
    rw [survivors_snoc, arrival_of_not_concerns r _ hd, List.append_nil, ih]
    exact (List.filter_eq_self.2 fun e _ => keeps_of_not_concerns r _ hd e).symm

theorem Life.rule_eq {r : Receiver σ} {f : Fingerprint} {life : List Moment} {a : Aggregation}
    (h : Life r f life a) : ∃ first rest, life = first :: rest ∧ first.rule? = some a.rule := by
  induction h with
  | opened hrule hf hnone =>
    refine ⟨_, [], rfl, ?_⟩
    rw [rule_send]
    exact hrule
  | joined h hrule hf hsome ih =>
    obtain ⟨first, rest, rfl, hfirst⟩ := ih
    refine ⟨first, _, rfl, ?_⟩
    rw [rule_send]
    exact hfirst
  | swept h hleft hafter ih =>
    obtain ⟨first, rest, rfl, hfirst⟩ := ih
    refine ⟨first, _, rfl, ?_⟩
    rw [rule_tidy]
    exact hfirst
  | spared h hd hcalls ih =>
    obtain ⟨first, rest, rfl, hfirst⟩ := ih
    exact ⟨first, _, rfl, hfirst⟩

/-- The receiver is called by events that a rule claims, and told what they have landed in. -/
theorem Trail.call_eq {r : Receiver σ} {grace : Span} {g : Aggregator} {w w' : σ}
    {past : List Moment} (h : Trail r (.new grace) w past g w') {d : Deed} {c : Summary × Answer}
    (hc : c ∈ (g.moment r w' d).calls) :
    ∃ e now rule a, d = .take e now ∧ SharedRule.firstMatch? g.rules e = some rule ∧
      Life r e.fingerprint (lifetime e.fingerprint (past ++ [g.moment r w' d])) a ∧
      c.1 = a.summary ∧ a.events.getLast? = some e := by
  cases d with
  | take e now =>
    cases hrule : SharedRule.firstMatch? g.rules e with
    | none =>
      rw [calls_moment_of_unclaimed r g w' now hrule] at hc
      exact absurd hc List.not_mem_nil
    | some rule =>
      have hlife := (h.next (.take e now)).life e.fingerprint
      rw [does, get?_take r g w' now hrule, if_pos rfl] at hlife
      have hlast : (g.land rule now e).aggregation.events.getLast? = some e := by
        rw [aggregation_land, events_joined, List.getLast?_concat]
      refine ⟨e, now, rule, _, rfl, hrule, hlife, ?_, by rw [events_send, hlast]⟩
      rw [calls_moment_take r w' hrule rfl] at hc
      cases hd : (g.land rule now e).aggregation.dispatch with
      | sent =>
        rw [send_of_sent r w' hd] at hc
        exact absurd hc List.not_mem_nil
      | unsent =>
        rw [calls_send_of_unsent r w' hd, List.mem_singleton] at hc
        rw [hc, summary, summary, fingerprint_send, rule_send, events_send]
  | announce _ | gauge | reject | replaceRules _ | sweep _ => exact absurd hc List.not_mem_nil

/-- **Summaries tell their lifetime.** A summary has the rule that opened the lifetime and the
events that arrived in it and survived its sweeps. -/
theorem summary_tells_lifetime (r : Receiver σ) (grace : Span) (w : σ) (ops : List Operation) :
    let run := history r (.new grace) w ops
    Effect.calls (performAll r (.new grace) w ops).effects = run.flatMap Moment.calls ∧
    ∀ past m rest c, run = past ++ m :: rest → c ∈ m.calls →
      ∃ e now, m.deed = .take e now ∧ m.rule?.isSome ∧ c.1.fingerprint = e.fingerprint ∧
        (∃ first later, lifetime e.fingerprint (past ++ [m]) = first :: later ∧
          first.rule? = some c.1.rule) ∧
        c.1.events = survivors e.fingerprint (lifetime e.fingerprint (past ++ [m])) ∧
        c.1.events.getLast? = some e := by
  intro run
  refine ⟨calls_history r _ w ops, fun past m rest c hrun hc => ?_⟩
  obtain ⟨g, w', hpast, hm⟩ := (trail_history r (.new grace) w ops).at_moment hrun
  rw [hm] at hc
  obtain ⟨e, now, rule, a, hd, hrule, hlife, hsummary, hlast⟩ := hpast.call_eq hc
  rw [← hm] at hlife
  rw [hd] at hm
  refine ⟨e, now, hd, ?_, ?_, ?_, ?_, ?_⟩
  · rw [hm]
    exact Option.isSome_iff_exists.2 ⟨rule, hrule⟩
  · rw [hsummary]
    exact hlife.fingerprint_eq
  · rw [hsummary]
    exact hlife.rule_eq
  · rw [hsummary]
    exact hlife.events_eq
  · rw [hsummary]
    exact hlast

/-- A sweep drops the older of two events; the receiver is told of the other one and of the next. -/
theorem summary_tells_lifetime_past_sweep :
    let busy : Receiver Unit := ⟨fun w _ => ⟨w, .error (.retryable "busy"), []⟩⟩
    let old : Event := { createdAt := .epoch }
    let late : Event := { createdAt := .latest }
    let run := history busy (.new ⟨0⟩) ()
      [.replaceRules [⟨0, {}⟩], .aggregate [old, late] .epoch, .sweep .epoch, .aggregate [late] .epoch]
    ∃ past m rest, run = past ++ m :: rest ∧ ∃ c ∈ m.calls, c.1.events = [late, late] ∧
      ∃ e now, m.deed = .take e now ∧
        c.1.events = survivors e.fingerprint (lifetime e.fingerprint (past ++ [m])) := by
  intro busy old late run
  have htold : ((run.drop 7).head?.bind (·.calls.head?)).map (·.1.events) = some [late, late] := by
    decide +kernel
  obtain ⟨c, hcall, hevents⟩ := Option.map_eq_some_iff.1 htold
  obtain ⟨m, hm, hhead⟩ := Option.bind_eq_some_iff.1 hcall
  obtain ⟨rest, hrest⟩ := List.head?_eq_some_iff.1 hm
  have hrun : run = run.take 7 ++ m :: rest := by rw [← hrest, List.take_append_drop]
  have hc := List.mem_of_mem_head? hhead
  obtain ⟨e, now, hd, -, -, -, hsurvivors, -⟩ :=
    (summary_tells_lifetime busy ⟨0⟩ () _).2 _ m rest c hrun hc
  exact ⟨_, m, rest, hrun, c, hc, hevents, e, now, hd, hsurvivors⟩

end Alerting.Aggregator
