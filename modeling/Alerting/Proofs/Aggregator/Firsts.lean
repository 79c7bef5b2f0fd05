import Alerting.Proofs.Aggregator.Counting
import Alerting.Proofs.Aggregator.Rules

/-!
# One notification for each fingerprint

As long as nothing is swept and every notification succeeds, the first claimed event of a
fingerprint is notified by itself and the later ones are gathered in silence. So what an aggregator
has counted and what its receiver has logged are told by the events alone. Events are counted as
received when their batch begins, and aggregations when it ends.
-/

namespace Alerting

namespace Event

def firsts : List Event → List Event
  | [] => []
  | e :: rest => e :: (firsts rest).filter fun x => x.fingerprint ≠ e.fingerprint

theorem firsts_sublist (events : List Event) : (firsts events).Sublist events := by
  induction events with
  | nil => exact .slnil
  | cons e rest ih => exact (List.filter_sublist.trans ih).cons_cons e

theorem mem_fingerprints_firsts (f : Fingerprint) (events : List Event) :
    f ∈ (firsts events).map (·.fingerprint) ↔ f ∈ events.map (·.fingerprint) := by
  induction events with
  | nil => rfl
  | cons e rest ih =>
    simp only [firsts, List.map_cons, List.mem_cons, ← ih]
    by_cases hf : f = e.fingerprint
    · simp [hf]
    · simp only [hf, false_or, List.mem_map, List.mem_filter, decide_eq_true_eq]
      constructor
      · rintro ⟨x, ⟨hx, -⟩, rfl⟩
        exact ⟨x, hx, rfl⟩
      · rintro ⟨x, hx, rfl⟩
        exact ⟨x, ⟨hx, hf⟩, rfl⟩

theorem nodup_fingerprints_firsts (events : List Event) :
    ((firsts events).map (·.fingerprint)).Nodup := by
  induction events with
  | nil => exact List.nodup_nil
  | cons e rest ih =>
    rw [firsts, List.map_cons, List.nodup_cons]
    refine ⟨fun hmem => ?_, ih.sublist (List.filter_sublist.map _)⟩
    obtain ⟨x, hx, hsame⟩ := List.mem_map.1 hmem
    exact of_decide_eq_true (List.mem_filter.1 hx).2 hsame

theorem firsts_concat (events : List Event) (e : Event) :
    firsts (events ++ [e]) =
      if e.fingerprint ∈ events.map (·.fingerprint) then firsts events
      else firsts events ++ [e] := by
  induction events with
  | nil => rfl
  | cons x rest ih =>
    rw [List.cons_append, firsts, firsts, ih, List.map_cons]
    by_cases hx : e.fingerprint = x.fingerprint
    · rw [if_pos (List.mem_cons.2 (.inl hx))]
      split
      · rfl
      · simp [List.filter_append, hx]
    · have hmem : e.fingerprint ∈ x.fingerprint :: rest.map (·.fingerprint) ↔
          e.fingerprint ∈ rest.map (·.fingerprint) := by
        rw [List.mem_cons, or_iff_right hx]
      simp only [hmem]
      split
      · rfl
      · simp [List.filter_append, hx]

end Event

def SharedRule.claimed (rules : List SharedRule) (events : List Event) : List Event :=
  events.filter fun e => (firstMatch? rules e).isSome

def SharedRule.unclaimed (rules : List SharedRule) (events : List Event) : List Event :=
  events.filter fun e => (firstMatch? rules e).isNone

def Log.Entry.summary? : Log.Entry → Option Summary
  | .notification summary => some summary
  | _ => none

namespace Effect

/-- The notifications that are logged. -/
def notified (effects : List Effect) : List Summary :=
  effects.filterMap fun effect => effect.entry?.bind Log.Entry.summary?

theorem notified_append (l₁ l₂ : List Effect) : notified (l₁ ++ l₂) = notified l₁ ++ notified l₂ :=
  List.filterMap_append

end Effect

namespace Aggregator

open SharedRule Effect

variable {rules : List SharedRule} {events : List Event} {received active : UInt64} {g : Aggregator}

/-- The summaries of the events that are the first of their fingerprint. -/
def notices (rules : List SharedRule) (events : List Event) : List Summary :=
  (Event.firsts (claimed rules events)).filterMap fun e =>
    (firstMatch? rules e).map fun rule => ⟨rule, e.fingerprint, [e]⟩

/-- What these events make of an aggregator that had none before, in the middle of their batch. -/
structure Tallied (rules : List SharedRule) (events : List Event) (received active : UInt64)
    (g : Aggregator) : Prop where
  rules_eq : g.rules = rules
  table : g.table.map (·.1) = (Event.firsts (claimed rules events)).map (·.fingerprint)
  sent : ∀ entry ∈ g.table, entry.2.dispatch = .sent
  counters : g.counters =
    { received, active
      unmatched := .ofNat (unclaimed rules events).length
      created := .ofNat (Event.firsts (claimed rules events)).length
      sent := .ofNat (Event.firsts (claimed rules events)).length }

/-! ## One event -/

theorem take_known {σ : Type} (r : Receiver σ) (w : σ) (now : Instant) {e : Event}
    {rule : SharedRule} {a : Aggregation} (hrule : firstMatch? g.rules e = some rule)
    (hget : g.table.get? e.fingerprint = some a) (hsent : a.dispatch = .sent) :
    g.take r now w e =
      ⟨{ g with table := g.table.put e.fingerprint (a.joined e (g.deadline now)) }, w, [], ()⟩ := by
  have hsend := Aggregation.send_of_sent r w (a := a.joined e (g.deadline now)) hsent
  unfold take land reach
  simp only [hrule, hget]
  rw [← Aggregation.joined, hsend]
  simp only [settle, countSending, countedEntries, Table.put_put, List.map_nil, List.append_nil]

theorem take_new (w : Unit) (now : Instant) {e : Event} {rule : SharedRule}
    (hrule : firstMatch? g.rules e = some rule) (hget : g.table.get? e.fingerprint = none) :
    let turn := g.take Receiver.log now w e
    (∃ a : Aggregation, turn.aggregator.table = g.table.put e.fingerprint a ∧ a.dispatch = .sent) ∧
      turn.aggregator.counters =
        { g.counters with created := g.counters.created + 1, sent := g.counters.sent + 1 } ∧
      notified turn.effects = [⟨rule, e.fingerprint, [e]⟩] := by
  unfold take land reach
  simp only [hrule, hget]
  refine ⟨⟨_, Table.put_put _ _ _ _, rfl⟩, rfl, rfl⟩

theorem claimed_concat_of_unclaimed (events : List Event) {e : Event}
    (h : firstMatch? rules e = none) :
    claimed rules (events ++ [e]) = claimed rules events ∧
      unclaimed rules (events ++ [e]) = unclaimed rules events ++ [e] := by
  simp [claimed, unclaimed, h]

theorem claimed_concat_of_claimed (events : List Event) {e : Event} {rule : SharedRule}
    (h : firstMatch? rules e = some rule) :
    claimed rules (events ++ [e]) = claimed rules events ++ [e] ∧
      unclaimed rules (events ++ [e]) = unclaimed rules events := by
  simp [claimed, unclaimed, h]

theorem Tallied.take_unclaimed (h : Tallied rules events received active g) (w : Unit)
    (now : Instant) {e : Event} (hrule : firstMatch? rules e = none) :
    Tallied rules (events ++ [e]) received active (g.take .log now w e).aggregator ∧
      notified (g.take .log now w e).effects = [] := by
  obtain ⟨hclaimed, hunclaimed⟩ := claimed_concat_of_unclaimed events hrule
  rw [take_of_unclaimed .log g w now (h.rules_eq ▸ hrule)]
  refine ⟨⟨h.rules_eq, ?_, h.sent, ?_⟩, rfl⟩
  · rw [hclaimed]
    exact h.table
  · rw [hclaimed, hunclaimed, h.counters, List.length_append, List.length_singleton,
      UInt64.ofNat_add]
    rfl

theorem Tallied.take_known (h : Tallied rules events received active g) (w : Unit) (now : Instant)
    {e : Event} {rule : SharedRule} (hrule : firstMatch? rules e = some rule)
    (hknown : e.fingerprint ∈ g.table.map (·.1)) :
    Tallied rules (events ++ [e]) received active (g.take .log now w e).aggregator ∧
      notified (g.take .log now w e).effects = [] ∧
      Event.firsts (claimed rules (events ++ [e])) = Event.firsts (claimed rules events) := by
  obtain ⟨a, hget⟩ : ∃ a, g.table.get? e.fingerprint = some a := by
    cases hget : g.table.get? e.fingerprint with
    | none => exact absurd hknown (Table.get?_eq_none.1 hget)
    | some a => exact ⟨a, rfl⟩
  have hsent : a.dispatch = .sent := h.sent _ (Table.mem_of_get? hget)
  obtain ⟨hclaimed, hunclaimed⟩ := claimed_concat_of_claimed events hrule
  have hfirsts : Event.firsts (claimed rules (events ++ [e])) =
      Event.firsts (claimed rules events) := by
    rw [hclaimed, Event.firsts_concat, if_pos]
    rw [← Event.mem_fingerprints_firsts, ← h.table]
    exact hknown
  rw [Aggregator.take_known .log w now (h.rules_eq ▸ hrule) hget hsent]
  refine ⟨⟨h.rules_eq, ?_, fun entry hentry => ?_, ?_⟩, rfl, hfirsts⟩
  · rw [hfirsts, Table.map_fst_put, if_pos hknown]
    exact h.table
  · rcases Table.mem_put hentry with rfl | hentry
    · exact hsent
    · exact h.sent entry hentry
  · rw [hfirsts, hunclaimed]
    exact h.counters

theorem Tallied.take_new (h : Tallied rules events received active g) (w : Unit) (now : Instant)
    {e : Event} {rule : SharedRule} (hrule : firstMatch? rules e = some rule)
    (hnew : e.fingerprint ∉ g.table.map (·.1)) :
    Tallied rules (events ++ [e]) received active (g.take .log now w e).aggregator ∧
      notified (g.take .log now w e).effects = [⟨rule, e.fingerprint, [e]⟩] ∧
      Event.firsts (claimed rules (events ++ [e])) =
        Event.firsts (claimed rules events) ++ [e] := by
  obtain ⟨hclaimed, hunclaimed⟩ := claimed_concat_of_claimed events hrule
  have hfirsts : Event.firsts (claimed rules (events ++ [e])) =
      Event.firsts (claimed rules events) ++ [e] := by
    rw [hclaimed, Event.firsts_concat, if_neg]
    rw [← Event.mem_fingerprints_firsts, ← h.table]
    exact hnew
  obtain ⟨⟨a, htable, hsent⟩, hcounters, hnotified⟩ :=
    Aggregator.take_new w now (h.rules_eq ▸ hrule) (Table.get?_eq_none.2 hnew)
  refine ⟨⟨?_, ?_, fun entry hentry => ?_, ?_⟩, hnotified, hfirsts⟩
  · rw [rules_take]
    exact h.rules_eq
  · rw [htable, hfirsts, Table.map_fst_put, if_neg hnew, h.table, List.map_append,
      List.map_singleton]
  · rw [htable] at hentry
    rcases Table.mem_put hentry with rfl | hentry
    · exact hsent
    · exact h.sent entry hentry
  · rw [hcounters, hfirsts, hunclaimed, h.counters, List.length_append, List.length_singleton,
      UInt64.ofNat_add]
    rfl

theorem Tallied.take (h : Tallied rules events received active g) (w : Unit) (now : Instant)
    (e : Event) :
    Tallied rules (events ++ [e]) received active (g.take .log now w e).aggregator ∧
      notices rules (events ++ [e]) =
        notices rules events ++ notified (g.take .log now w e).effects := by
  cases hrule : firstMatch? rules e with
  | none =>
    obtain ⟨htallied, hnotified⟩ := h.take_unclaimed w now hrule
    refine ⟨htallied, ?_⟩
    rw [hnotified, List.append_nil, notices, (claimed_concat_of_unclaimed events hrule).1,
      ← notices]
  | some rule =>
    by_cases hknown : e.fingerprint ∈ g.table.map (·.1)
    · obtain ⟨htallied, hnotified, hfirsts⟩ := h.take_known w now hrule hknown
      refine ⟨htallied, ?_⟩
      rw [hnotified, List.append_nil, notices, hfirsts, ← notices]
    · obtain ⟨htallied, hnotified, hfirsts⟩ := h.take_new w now hrule hknown
      refine ⟨htallied, ?_⟩
      rw [hnotified, notices, hfirsts, List.filterMap_append, ← notices]
      simp [hrule]

/-! ## Batches -/

theorem Tallied.takeAll (h : Tallied rules events received active g) (w : Unit) (now : Instant)
    (batch : List Event) :
    Tallied rules (events ++ batch) received active (takeAll .log now g w batch).aggregator ∧
      notices rules (events ++ batch) =
        notices rules events ++ notified (takeAll .log now g w batch).effects := by
  induction batch generalizing events g w with
  | nil =>
    rw [List.append_nil]
    exact ⟨h, (List.append_nil _).symm⟩
  | cons e batch ih =>
    obtain ⟨htaken, hnotices⟩ := h.take w now e
    obtain ⟨hall, hlater⟩ := ih htaken (g.take .log now w e).receiver
    rw [List.append_assoc, List.singleton_append] at hall hlater
    refine ⟨hall, ?_⟩
    rw [hlater, hnotices, Aggregator.takeAll, notified_append, List.append_assoc]

/-- The counters and the notifications after a batch are those of the events so far. -/
theorem Tallied.aggregate
    (h : Tallied rules events (.ofNat events.length)
      (.ofNat (Event.firsts (claimed rules events)).length) g)
    (hrules : rules ≠ []) (w : Unit) (now : Instant) (batch : List Event) :
    let turn := g.aggregate .log now batch w
    Tallied rules (events ++ batch) (.ofNat (events ++ batch).length)
        (.ofNat (Event.firsts (claimed rules (events ++ batch))).length) turn.aggregator ∧
      notices rules (events ++ batch) = notices rules events ++ notified turn.effects ∧
      turn.result = .ok () := by
  have hsome : g.rules.isEmpty = false := by
    rw [h.rules_eq]
    exact List.isEmpty_eq_false_iff.2 hrules
  -- the whole batch counts as received before its first event is taken
  have hstarted : Tallied rules events (.ofNat (events ++ batch).length)
      (.ofNat (Event.firsts (claimed rules events)).length)
      { g with counters :=
        { g.counters with received := g.counters.received + .ofNat batch.length } } := by
    refine ⟨h.rules_eq, h.table, h.sent, ?_⟩
    rw [h.counters, List.length_append, UInt64.ofNat_add]
  obtain ⟨hall, hnotices⟩ := hstarted.takeAll w now batch
  simp only [Aggregator.aggregate, hsome, Bool.false_eq_true, if_false]
  refine ⟨⟨hall.rules_eq, hall.table, hall.sent, ?_⟩, hnotices, trivial⟩
  -- the batch ends with a count of the table
  have hlength := congrArg List.length hall.table
  rw [List.length_map, List.length_map] at hlength
  simp only [gauge, hlength, hall.counters]

theorem tallied_new (grace : Span) (rules : List SharedRule) :
    Tallied rules [] 0 0 ((Aggregator.new grace).replaceRules rules) :=
  ⟨rfl, rfl, fun _ h => absurd h List.not_mem_nil, rfl⟩

end Aggregator

end Alerting
