import Alerting.Proofs.Aggregator.History

/-!
# Lifetimes

What happens to the aggregation of one fingerprint between the moment at which it is opened and the
sweep that evicts it: an event opens it, further events join it, sweeps leave something of it, and
what does not concern it leaves it as it is. `Life` says how an aggregation comes to be what it is,
and `Trail.life` that every aggregation of a run came to be so, through the moments of its lifetime.
-/

namespace Alerting

namespace Aggregation

variable {σ : Type}

/-- The answer asks for another try. -/
def IsRetryable (answer : Answer) : Prop := Answer.isRetryable answer = true

theorem ofAnswer_eq_deferred (answer : Answer) :
    Sending.ofAnswer answer = .deferred ↔ IsRetryable answer := by
  cases answer with
  | ok _ => simp [Sending.ofAnswer, IsRetryable, Answer.isRetryable]
  | error failure =>
    cases h : failure.isRetryable <;> simp [Sending.ofAnswer, IsRetryable, Answer.isRetryable, h]

theorem settle_of_retryable (a : Aggregation) {answer : Answer} (h : IsRetryable answer) :
    a.settle answer = a := by
  rw [settle, if_pos ((ofAnswer_eq_deferred answer).2 h)]

theorem settle_of_final (a : Aggregation) {answer : Answer} (h : ¬IsRetryable answer) :
    a.settle answer = { a with dispatch := .sent } := by
  rw [settle, if_neg (mt (ofAnswer_eq_deferred answer).1 h)]

theorem send_of_sent (r : Receiver σ) (w : σ) {a : Aggregation} (h : a.dispatch = .sent) :
    a.send r w = ⟨a, w, .skipped, []⟩ := by
  unfold send
  rw [h]

theorem aggregation_send_of_unsent (r : Receiver σ) (w : σ) {a : Aggregation}
    (h : a.dispatch = .unsent) :
    (a.send r w).aggregation = a.settle (r.receive w a.summary).answer := by
  unfold send
  rw [h]

theorem calls_send_of_unsent (r : Receiver σ) (w : σ) {a : Aggregation} (h : a.dispatch = .unsent) :
    Effect.calls (a.send r w).effects = [(a.summary, (r.receive w a.summary).answer)] := by
  unfold send
  rw [h]
  exact congrArg (_ :: ·) (Effect.calls_log _)

theorem exists_dispatch_send (r : Receiver σ) (w : σ) (a : Aggregation) :
    ∃ d, (a.send r w).aggregation = { a with dispatch := d } := by
  cases h : a.dispatch with
  | sent => exact ⟨a.dispatch, by rw [send_of_sent r w h]⟩
  | unsent =>
    rw [aggregation_send_of_unsent r w h]
    by_cases hr : IsRetryable (r.receive w a.summary).answer
    · exact ⟨a.dispatch, by rw [settle_of_retryable a hr]⟩
    · exact ⟨.sent, by rw [settle_of_final a hr]⟩

@[simp] theorem fingerprint_send (r : Receiver σ) (w : σ) (a : Aggregation) :
    (a.send r w).aggregation.fingerprint = a.fingerprint := by
  obtain ⟨d, hd⟩ := exists_dispatch_send r w a
  rw [hd]

@[simp] theorem rule_send (r : Receiver σ) (w : σ) (a : Aggregation) :
    (a.send r w).aggregation.rule = a.rule := by
  obtain ⟨d, hd⟩ := exists_dispatch_send r w a
  rw [hd]

@[simp] theorem events_send (r : Receiver σ) (w : σ) (a : Aggregation) :
    (a.send r w).aggregation.events = a.events := by
  obtain ⟨d, hd⟩ := exists_dispatch_send r w a
  rw [hd]

theorem fingerprint_of_mem_calls_send {r : Receiver σ} {w : σ} {a : Aggregation}
    {c : Summary × Answer} (h : c ∈ Effect.calls (a.send r w).effects) :
    c.1.fingerprint = a.fingerprint := by
  cases hd : a.dispatch with
  | sent =>
    rw [send_of_sent r w hd] at h
    exact absurd h List.not_mem_nil
  | unsent =>
    rw [calls_send_of_unsent r w hd] at h
    rw [List.mem_singleton.1 h]
    rfl

def joined (a : Aggregation) (e : Event) (deadline : Instant) : Aggregation :=
  (a.ingest e).extend deadline

@[simp] theorem events_joined (a : Aggregation) (e : Event) (deadline : Instant) :
    (a.joined e deadline).events = a.events ++ [e] := rfl

@[simp] theorem rule_joined (a : Aggregation) (e : Event) (deadline : Instant) :
    (a.joined e deadline).rule = a.rule := rfl

end Aggregation

namespace Aggregator

open Aggregation

variable {σ : Type}

/-! ## What an event does -/

theorem take_of_unclaimed (r : Receiver σ) (g : Aggregator) (w : σ) {e : Event} (now : Instant)
    (h : SharedRule.firstMatch? g.rules e = none) :
    g.take r now w e =
      ⟨{ g with counters := { g.counters with unmatched := g.counters.unmatched + 1 } }, w, [], ()⟩ := by
  unfold take
  rw [h]

theorem aggregator_take (r : Receiver σ) (g : Aggregator) (w : σ) {e : Event} (now : Instant)
    {rule : SharedRule} (h : SharedRule.firstMatch? g.rules e = some rule) :
    (g.take r now w e).aggregator =
      (g.land rule now e).aggregator.settle e.fingerprint ((g.land rule now e).aggregation.send r w) := by
  unfold take
  rw [h]

theorem aggregation_land (g : Aggregator) (rule : SharedRule) (now : Instant) (e : Event) :
    (g.land rule now e).aggregation =
      ((g.table.get? e.fingerprint).getD (.opened e.fingerprint rule now)).joined e
        (g.deadline now) := by
  unfold land reach joined
  cases g.table.get? e.fingerprint <;> rfl

theorem table_take (r : Receiver σ) (g : Aggregator) (w : σ) {e : Event} (now : Instant)
    {rule : SharedRule} (h : SharedRule.firstMatch? g.rules e = some rule) :
    (g.take r now w e).aggregator.table =
      Table.put e.fingerprint ((g.land rule now e).aggregation.send r w).aggregation g.table := by
  have hreach : (g.reach e.fingerprint rule now).aggregator.table = g.table := by
    unfold reach
    cases g.table.get? e.fingerprint <;> rfl
  unfold take
  rw [h]
  simp only [settle, land, hreach, Table.put_put]

theorem get?_take (r : Receiver σ) (g : Aggregator) (w : σ) {e : Event} (now : Instant)
    {rule : SharedRule} (h : SharedRule.firstMatch? g.rules e = some rule) (f : Fingerprint) :
    (g.take r now w e).aggregator.table.get? f =
      if f = e.fingerprint then some ((g.land rule now e).aggregation.send r w).aggregation
      else g.table.get? f := by
  rw [table_take r g w now h, Table.get?_put]

theorem eventsOf_take (r : Receiver σ) (g : Aggregator) (w : σ) {e : Event} (now : Instant)
    {rule : SharedRule} (h : SharedRule.firstMatch? g.rules e = some rule) :
    (g.take r now w e).aggregator.table.eventsOf e.fingerprint =
      g.table.eventsOf e.fingerprint ++ [e] := by
  unfold Table.eventsOf
  rw [get?_take r g w now h, if_pos rfl, aggregation_land]
  cases g.table.get? e.fingerprint <;> simp [opened]

theorem calls_take (r : Receiver σ) (g : Aggregator) (w : σ) {e : Event} (now : Instant)
    {rule : SharedRule} (h : SharedRule.firstMatch? g.rules e = some rule) :
    Effect.calls (g.take r now w e).effects =
      Effect.calls ((g.land rule now e).aggregation.send r w).effects := by
  unfold take
  rw [h]
  simp only [Effect.calls_append, Effect.calls_log, List.nil_append, List.append_nil]

theorem fingerprint_land {g : Aggregator} (hg : g.table.Proper) (rule : SharedRule) (now : Instant)
    (e : Event) : (g.land rule now e).aggregation.fingerprint = e.fingerprint := by
  rw [aggregation_land]
  cases h : g.table.get? e.fingerprint with
  | none => rfl
  | some a =>
    have ha := hg.fingerprint_eq h
    exact ha

theorem proper_does (r : Receiver σ) {g : Aggregator} (w : σ) (d : Deed) (h : g.table.Proper) :
    (g.does r w d).aggregator.table.Proper := by
  cases d with
  | take e now =>
    cases hrule : SharedRule.firstMatch? g.rules e with
    | none =>
      rw [does, take_of_unclaimed r g w now hrule]
      exact h
    | some rule =>
      have hf := fingerprint_land h rule now e
      rw [does, table_take r g w now hrule]
      exact Table.proper_put (by rw [fingerprint_send, hf]) h
  | sweep now => exact proper_sweptTable now h
  | announce _ | gauge | reject | replaceRules _ => exact h

theorem Trail.proper {r : Receiver σ} {g g' : Aggregator} {w w' : σ} {past : List Moment}
    (h : Trail r g w past g' w') (hg : g.table.Proper) : g'.table.Proper := by
  induction h with
  | start => exact hg
  | next d _ ih => exact proper_does r _ d ih

/-! ## Lifetimes -/

/-- The moments of the current lifetime of a fingerprint after one moment more. -/
def outlive (f : Fingerprint) (life : List Moment) (m : Moment) : List Moment :=
  match m.before.table.get? f, m.after.table.get? f with
  | _, none => []
  | none, some _ => [m]
  | some _, some _ => life ++ [m]

/-- The moments since the current aggregation of a fingerprint was opened, from that one on. There
are none if it has no aggregation. -/
def lifetime (f : Fingerprint) (past : List Moment) : List Moment := past.foldl (outlive f) []

theorem lifetime_snoc (f : Fingerprint) (past : List Moment) (m : Moment) :
    lifetime f (past ++ [m]) = outlive f (lifetime f past) m := by
  rw [lifetime, List.foldl_append]
  rfl

/-- The deed may change the aggregation of a fingerprint. -/
def Deed.Concerns (g : Aggregator) (f : Fingerprint) : Deed → Prop
  | .take e _ => (SharedRule.firstMatch? g.rules e).isSome ∧ e.fingerprint = f
  | .sweep _ => True
  | _ => False

theorem get?_does_of_not_concerns (r : Receiver σ) {g : Aggregator} (w : σ) {f : Fingerprint}
    {d : Deed} (h : ¬d.Concerns g f) :
    (g.does r w d).aggregator.table.get? f = g.table.get? f := by
  cases d with
  | take e now =>
    cases hrule : SharedRule.firstMatch? g.rules e with
    | none => rw [does, take_of_unclaimed r g w now hrule]
    | some rule =>
      have hf : f ≠ e.fingerprint := fun hf => h ⟨by rw [hrule]; rfl, hf.symm⟩
      rw [does, get?_take r g w now hrule, if_neg hf]
  | sweep now => exact absurd trivial h
  | announce _ | gauge | reject | replaceRules _ => rfl

theorem fingerprint_ne_of_not_concerns (r : Receiver σ) {g : Aggregator} (w : σ) {f : Fingerprint}
    {d : Deed} (hg : g.table.Proper) (h : ¬d.Concerns g f) :
    ∀ c ∈ (g.moment r w d).calls, c.1.fingerprint ≠ f := by
  intro c hc hf
  cases d with
  | take e now =>
    simp only [Moment.calls, moment, does] at hc
    cases hrule : SharedRule.firstMatch? g.rules e with
    | none =>
      rw [take_of_unclaimed r g w now hrule] at hc
      exact absurd hc List.not_mem_nil
    | some rule =>
      rw [calls_take r g w now hrule] at hc
      have he := fingerprint_of_mem_calls_send hc
      rw [fingerprint_land hg] at he
      exact h ⟨by rw [hrule]; rfl, he.symm.trans hf⟩
  | sweep now => exact absurd trivial h
  | announce _ | gauge | reject | replaceRules _ => exact absurd hc List.not_mem_nil

/-- How an aggregation of a fingerprint comes to be what it is, from the event that opens it. -/
inductive Life (r : Receiver σ) (f : Fingerprint) : List Moment → Aggregation → Prop
  | opened {g : Aggregator} {w : σ} {e : Event} {now : Instant} {rule : SharedRule}
      (hrule : SharedRule.firstMatch? g.rules e = some rule) (hf : e.fingerprint = f)
      (hnone : g.table.get? f = none) :
    Life r f [g.moment r w (.take e now)]
      ((((Aggregation.opened f rule now).joined e (g.deadline now)).send r w).aggregation)
  | joined {life : List Moment} {a : Aggregation} {g : Aggregator} {w : σ} {e : Event}
      {now : Instant} {rule : SharedRule} (h : Life r f life a)
      (hrule : SharedRule.firstMatch? g.rules e = some rule) (hf : e.fingerprint = f)
      (hsome : g.table.get? f = some a) :
    Life r f (life ++ [g.moment r w (.take e now)])
      (((a.joined e (g.deadline now)).send r w).aggregation)
  | swept {life : List Moment} {a : Aggregation} {g : Aggregator} {w : σ} {now : Instant}
      (h : Life r f life a) (hleft : ¬(a.tidy now).IsExpired now)
      (hafter : (g.sweep now).table.get? f = some (a.tidy now)) :
    Life r f (life ++ [g.moment r w (.sweep now)]) (a.tidy now)
  | spared {life : List Moment} {a : Aggregation} {g : Aggregator} {w : σ} {d : Deed}
      (h : Life r f life a) (hd : ¬d.Concerns g f)
      (hcalls : ∀ c ∈ (g.moment r w d).calls, c.1.fingerprint ≠ f) :
    Life r f (life ++ [g.moment r w d]) a

/-- Each aggregation came to be what it is in its lifetime. -/
def Lived (r : Receiver σ) (f : Fingerprint) (life : List Moment) : Option Aggregation → Prop
  | none => life = []
  | some a => Life r f life a

theorem lived_does (r : Receiver σ) {g : Aggregator} (w : σ) (d : Deed) {f : Fingerprint}
    {life : List Moment} (hg : g.table.Proper) (h : Lived r f life (g.table.get? f)) :
    Lived r f (outlive f life (g.moment r w d)) ((g.does r w d).aggregator.table.get? f) := by
  unfold outlive
  simp only [moment]
  by_cases hd : d.Concerns g f
  · cases d with
    | take e now =>
      obtain ⟨hclaimed, hf⟩ := hd
      obtain ⟨rule, hrule⟩ := Option.isSome_iff_exists.1 hclaimed
      rw [does, get?_take r g w now hrule, if_pos hf.symm, aggregation_land, hf]
      cases ha : g.table.get? f with
      | none => exact .opened hrule hf ha
      | some a =>
        rw [ha] at h
        exact .joined h hrule hf ha
    | sweep now =>
      have hafter : (g.sweep now).table.get? f = (g.table.get? f).bind (swept now) :=
        get?_sweptTable now hg.distinct f
      rw [does, hafter]
      cases ha : g.table.get? f with
      | none => rfl
      | some a =>
        rw [ha] at h hafter
        rw [Option.bind_some, swept] at hafter ⊢
        by_cases hleft : (a.tidy now).IsExpired now
        · rw [if_pos hleft]
          rfl
        · rw [if_neg hleft] at hafter ⊢
          exact .swept h hleft hafter
    | announce _ | gauge | reject | replaceRules _ => exact absurd hd id
  · rw [get?_does_of_not_concerns r w hd]
    cases ha : g.table.get? f with
    | none => rfl
    | some a =>
      rw [ha] at h
      exact .spared h hd (fingerprint_ne_of_not_concerns r w hg hd)

/-- Every aggregation that a run leads to came to be what it is in its lifetime. -/
theorem Trail.life {r : Receiver σ} {grace : Span} {g : Aggregator} {w w' : σ} {past : List Moment}
    (h : Trail r (.new grace) w past g w') (f : Fingerprint) :
    Lived r f (lifetime f past) (g.table.get? f) := by
  induction h with
  | start => rfl
  | next d htrail ih =>
    rw [lifetime_snoc]
    exact lived_does r _ d (htrail.proper Table.proper_nil) ih

end Aggregator

end Alerting
