import Alerting.Proofs.Aggregator.Eviction
import Mathlib.Algebra.GroupWithZero.Nat

/-!
# What is counted

Each counter moves by what happens at a moment: by the events that are announced or that no rule claims,
by the aggregations that are opened or evicted, by the answers that the receiver gives. So after a run a
counter is the number of such things that have happened, as far as 64 bits can tell.
-/

namespace Alerting

namespace Table

theorem countP_put (p : Aggregation → Bool) (f : Fingerprint) (a : Aggregation) (t : Table) :
    (put f a t).countP (fun entry => p entry.2) + (t.get? f).toList.countP p =
      t.countP (fun entry => p entry.2) + [a].countP p := by
  induction t with
  | nil => simp [put, get?_nil]
  | cons entry rest ih =>
    rw [get?_cons, put]
    by_cases h : entry.1 = f
    · simp only [h, if_true, Option.toList_some, List.countP_cons, List.countP_nil]
      omega
    · rw [if_neg h, if_neg (Ne.symm h), List.countP_cons, List.countP_cons]
      omega

end Table

namespace Aggregator

open Aggregation Answer

variable {σ : Type} {r : Receiver σ}

/-! ## What happens at a moment -/

def Deed.arrivals : Deed → List Event
  | .take e _ => [e]
  | _ => []

def Deed.announced : Deed → Nat
  | .announce events => events
  | _ => 0

def Deed.sweeps : Deed → Nat
  | .sweep _ => 1
  | _ => 0

namespace Moment

/-- The events at a moment that no rule in force claims. -/
def unclaimed (m : Moment) : List Event :=
  m.deed.arrivals.filter fun e => (SharedRule.firstMatch? m.before.rules e).isNone

/-- The events at a moment that an aggregation takes: afterwards the one of their fingerprint has them
behind what it had before. -/
def routed (m : Moment) : List Event :=
  m.deed.arrivals.filter fun e =>
    m.after.table.eventsOf e.fingerprint = m.before.table.eventsOf e.fingerprint ++ [e]

/-- The fingerprints that have no aggregation before a moment and one after it. -/
def opened (m : Moment) : List Fingerprint := gone m.after.table m.before.table

/-- The fingerprints that have an aggregation before a moment and none after it. -/
def evicted (m : Moment) : List Fingerprint := gone m.before.table m.after.table

end Moment

/-! ## What a claimed event does -/

theorem counters_take (r : Receiver σ) (g : Aggregator) (w : σ) {e : Event} (now : Instant)
    {rule : SharedRule} (h : SharedRule.firstMatch? g.rules e = some rule) :
    (g.take r now w e).aggregator.counters =
      countSending (g.reach e.fingerprint rule now).aggregator.counters
        ((g.land rule now e).aggregation.send r w).sending := by
  rw [aggregator_take r g w now h]
  rfl

theorem opened_take (r : Receiver σ) (g : Aggregator) (w : σ) {e : Event} (now : Instant)
    {rule : SharedRule} (h : SharedRule.firstMatch? g.rules e = some rule) :
    (g.moment r w (.take e now)).opened =
      if g.table.get? e.fingerprint = none then [e.fingerprint] else [] := by
  rw [Moment.opened, moment, does, table_take r g w now h, gone_eq, Table.map_fst_put]
  simp only [Table.get?_eq_none]
  by_cases hmem : e.fingerprint ∈ g.table.map (·.1)
  · rw [if_pos hmem, if_neg (not_not.2 hmem), List.filter_eq_nil_iff]
    intro f hf
    simpa using hf
  · rw [if_neg hmem, if_pos hmem, List.filter_append, List.filter_eq_nil_iff.2, List.nil_append]
    · simp [hmem]
    · intro f hf
      simpa using hf

theorem evicted_take (r : Receiver σ) (g : Aggregator) (w : σ) (e : Event) (now : Instant) :
    (g.moment r w (.take e now)).evicted = [] := by
  apply gone_of_subset
  rw [moment, does]
  cases h : SharedRule.firstMatch? g.rules e with
  | none =>
    rw [take_of_unclaimed r g w now h]
    exact List.Subset.refl _
  | some rule =>
    rw [table_take r g w now h, Table.map_fst_put]
    split
    · exact List.Subset.refl _
    · exact List.subset_append_left _ _

theorem opened_sweep (r : Receiver σ) (g : Aggregator) (w : σ) (now : Instant) :
    (g.moment r w (.sweep now)).opened = [] :=
  gone_of_subset (sublist_sweptTable now g.table).subset

theorem routed_take (r : Receiver σ) (g : Aggregator) (w : σ) {e : Event} (now : Instant)
    {rule : SharedRule} (h : SharedRule.firstMatch? g.rules e = some rule) :
    (g.moment r w (.take e now)).routed = [e] := by
  apply List.filter_eq_self.2
  intro x hx
  rw [List.mem_singleton.1 hx]
  exact decide_eq_true (eventsOf_take r g w now h)

theorem routed_take_of_unclaimed (r : Receiver σ) (g : Aggregator) (w : σ) {e : Event} (now : Instant)
    (h : SharedRule.firstMatch? g.rules e = none) : (g.moment r w (.take e now)).routed = [] := by
  have htable : (g.moment r w (.take e now)).after.table = g.table := by
    rw [moment, does, take_of_unclaimed r g w now h]
  unfold Moment.routed
  rw [htable]
  simp [moment]

/-! ## What answers add -/

/-- How many answers of a kind were given in these calls. -/
def given (kind : Answer → Bool) (calls : List (Summary × Answer)) : Nat :=
  calls.countP fun call => kind call.2

theorem given_cons (kind : Answer → Bool) (call : Summary × Answer)
    (rest : List (Summary × Answer)) :
    given kind (call :: rest) = given kind rest + (kind call.2).toNat := by
  unfold given
  rw [List.countP_cons]
  cases kind call.2 <;> rfl

theorem length_eq_given (calls : List (Summary × Answer)) :
    calls.length = given isSuccess calls + given isRetryable calls + given isPermanent calls := by
  induction calls with
  | nil => rfl
  | cons call rest ih =>
    have hone (answer : Answer) : (isSuccess answer).toNat + (isRetryable answer).toNat +
        (isPermanent answer).toNat = 1 := by
      rcases answer with (_ | _) | _ <;> rfl
    have hcall := hone call.2
    rw [List.length_cons, given_cons, given_cons, given_cons]
    omega

/-- One set of counters follows from another by these calls. -/
structure Answers (calls : List (Summary × Answer)) (c d : Counters) : Prop where
  sent : d.sent = c.sent + .ofNat (given isSuccess calls)
  deferred : d.deferred = c.deferred + .ofNat (given isRetryable calls)
  dropped : d.dropped = c.dropped + .ofNat (given isPermanent calls)

theorem answers_nil {c d : Counters} (hsent : d.sent = c.sent) (hdeferred : d.deferred = c.deferred)
    (hdropped : d.dropped = c.dropped) : Answers [] c d :=
  ⟨hsent.trans (UInt64.add_zero _).symm, hdeferred.trans (UInt64.add_zero _).symm,
    hdropped.trans (UInt64.add_zero _).symm⟩

theorem answers_send (r : Receiver σ) (w : σ) (a : Aggregation) (c : Counters) :
    Answers (Effect.calls (a.send r w).effects) c (countSending c (a.send r w).sending) := by
  cases h : a.dispatch with
  | sent =>
    rw [send_of_sent r w h]
    exact answers_nil rfl rfl rfl
  | unsent =>
    have hsending : (a.send r w).sending = .ofAnswer (r.receive w a.summary).answer := by
      unfold send
      rw [h]
    rw [hsending, calls_send_of_unsent r w h]
    rcases (r.receive w a.summary).answer with (_ | _) | _
    · exact ⟨(UInt64.add_zero _).symm, rfl, (UInt64.add_zero _).symm⟩
    · exact ⟨(UInt64.add_zero _).symm, (UInt64.add_zero _).symm, rfl⟩
    · exact ⟨rfl, (UInt64.add_zero _).symm, (UInt64.add_zero _).symm⟩

/-! ## What each moment adds -/

/-- The counters after a moment are those before it and what has happened. -/
structure Counted (m : Moment) : Prop where
  received : m.after.counters.received = m.before.counters.received + .ofNat m.deed.announced
  unmatched : m.after.counters.unmatched = m.before.counters.unmatched + .ofNat m.unclaimed.length
  created : m.after.counters.created = m.before.counters.created + .ofNat m.opened.length
  evicted : m.after.counters.evicted = m.before.counters.evicted + .ofNat m.evicted.length
  answers : Answers m.calls m.before.counters m.after.counters
  sweeps : m.after.counters.sweeps = m.before.counters.sweeps + .ofNat m.deed.sweeps

theorem counted_of_still {m : Moment} (htable : m.after.table = m.before.table)
    (hcalls : m.calls = []) (hcounters : m.after.counters = { m.before.counters with
      received := m.before.counters.received + .ofNat m.deed.announced
      unmatched := m.before.counters.unmatched + .ofNat m.unclaimed.length
      active := m.after.counters.active }) (hsweeps : m.deed.sweeps = 0) : Counted m := by
  have hgone : gone m.before.table m.before.table = [] := gone_of_subset (List.Subset.refl _)
  constructor
  · rw [hcounters]
  · rw [hcounters]
  · rw [hcounters, Moment.opened, htable, hgone]
    exact (UInt64.add_zero _).symm
  · rw [hcounters, Moment.evicted, htable, hgone]
    exact (UInt64.add_zero _).symm
  · rw [hcounters, hcalls]
    exact answers_nil rfl rfl rfl
  · rw [hcounters, hsweeps]
    exact (UInt64.add_zero _).symm

theorem unclaimed_take (r : Receiver σ) (g : Aggregator) (w : σ) (e : Event) (now : Instant) :
    (g.moment r w (.take e now)).unclaimed =
      if SharedRule.firstMatch? g.rules e = none then [e] else [] := by
  unfold Moment.unclaimed
  split <;> simp [moment, Deed.arrivals, *]

theorem counters_reach (g : Aggregator) (f : Fingerprint) (rule : SharedRule) (now : Instant) :
    (g.reach f rule now).aggregator.counters = { g.counters with
      created := g.counters.created + .ofNat (if g.table.get? f = none then [f] else []).length } := by
  unfold reach
  cases g.table.get? f <;> simp

theorem counted_take (r : Receiver σ) (g : Aggregator) (w : σ) (e : Event) (now : Instant) :
    Counted (g.moment r w (.take e now)) := by
  cases h : SharedRule.firstMatch? g.rules e with
  | none =>
    apply counted_of_still
    · rw [moment, does, take_of_unclaimed r g w now h]
    · exact calls_moment_of_unclaimed r g w now h
    · rw [unclaimed_take, if_pos h, moment, does, take_of_unclaimed r g w now h]
      simp [Deed.announced]
    · rfl
  | some rule =>
    have hcounters : (g.moment r w (.take e now)).after.counters = _ := counters_take r g w now h
    have hsending (c : Counters) (sending : Sending) :
        (countSending c sending).received = c.received ∧
        (countSending c sending).unmatched = c.unmatched ∧
        (countSending c sending).created = c.created ∧
        (countSending c sending).evicted = c.evicted ∧
        (countSending c sending).sweeps = c.sweeps := by
      cases sending <;> exact ⟨rfl, rfl, rfl, rfl, rfl⟩
    obtain ⟨hreceived, hunmatched, hcreated, hevicted, hsweeps⟩ := hsending _ _
    constructor
    · rw [hcounters, hreceived, counters_reach]
      exact (UInt64.add_zero _).symm
    · rw [hcounters, hunmatched, counters_reach, unclaimed_take, h]
      exact (UInt64.add_zero _).symm
    · rw [hcounters, hcreated, counters_reach, opened_take r g w now h]
      rfl
    · rw [hcounters, hevicted, counters_reach, evicted_take]
      exact (UInt64.add_zero _).symm
    · have hanswers := answers_send r w (g.land rule now e).aggregation
        (g.reach e.fingerprint rule now).aggregator.counters
      rw [hcounters, calls_moment_take r w h rfl]
      rw [counters_reach] at hanswers ⊢
      exact ⟨hanswers.sent, hanswers.deferred, hanswers.dropped⟩
    · rw [hcounters, hsweeps, counters_reach]
      exact (UInt64.add_zero _).symm

theorem counted_sweep (r : Receiver σ) {g : Aggregator} (w : σ) (now : Instant)
    (hg : g.table.Distinct) : Counted (g.moment r w (.sweep now)) where
  received := (UInt64.add_zero _).symm
  unmatched := (UInt64.add_zero _).symm
  created := by
    rw [opened_sweep]
    exact (UInt64.add_zero _).symm
  evicted := by
    have hevicted : (g.moment r w (.sweep now)).evicted.length = g.evictions now :=
      length_gone now hg
    rw [hevicted]
    rfl
  answers := answers_nil rfl rfl rfl
  sweeps := rfl

theorem counted_moment (r : Receiver σ) {g : Aggregator} (w : σ) (d : Deed) (hg : g.table.Proper) :
    Counted (g.moment r w d) := by
  cases d with
  | take e now => exact counted_take r g w e now
  | sweep now => exact counted_sweep r w now hg.distinct
  | announce _ | gauge | reject | replaceRules _ =>
    refine counted_of_still rfl rfl ?_ rfl
    simp [moment, does, gauge, replaceRules, Moment.unclaimed, Deed.arrivals, Deed.announced]

/-! ## Runs -/

/-- A counter that each moment moves by some amount is the sum of these amounts after a run. -/
theorem Trail.counter_eq {g g' : Aggregator} {w w' : σ} {past : List Moment} (field : Counters → UInt64)
    (amount : Moment → Nat)
    (hfield : ∀ m, Counted m → field m.after.counters = field m.before.counters + .ofNat (amount m))
    (h : Trail r g w past g' w') (hg : g.table.Proper) :
    field g'.counters = field g.counters + .ofNat (past.map amount).sum := by
  induction h with
  | start => exact (UInt64.add_zero _).symm
  | @next past g' w' d htrail ih =>
    have hmoment := hfield _ (counted_moment r w' d (htrail.proper hg))
    rw [List.map_append, List.sum_append, UInt64.ofNat_add, ← UInt64.add_assoc, ← ih,
      List.map_singleton, List.sum_singleton]
    exact hmoment

/-- The counters after these moments of a run are the numbers of what has happened. -/
structure Totals (past : List Moment) (c : Counters) : Prop where
  received : c.received = .ofNat (past.map (·.deed.announced)).sum
  unmatched : c.unmatched = .ofNat (past.flatMap Moment.unclaimed).length
  created : c.created = .ofNat (past.flatMap Moment.opened).length
  evicted : c.evicted = .ofNat (past.flatMap Moment.evicted).length
  sent : c.sent = .ofNat (given isSuccess (past.flatMap Moment.calls))
  deferred : c.deferred = .ofNat (given isRetryable (past.flatMap Moment.calls))
  dropped : c.dropped = .ofNat (given isPermanent (past.flatMap Moment.calls))
  sweeps : c.sweeps = .ofNat (past.map (·.deed.sweeps)).sum

theorem Trail.totals {grace : Span} {g : Aggregator} {w w' : σ} {past : List Moment}
    (h : Trail r (.new grace) w past g w') : Totals past g.counters := by
  have hcounter (field : Counters → UInt64) (amount : Moment → Nat) (hnew : field {} = 0)
      (hfield : ∀ m, Counted m →
        field m.after.counters = field m.before.counters + .ofNat (amount m)) :
      field g.counters = .ofNat (past.map amount).sum := by
    rw [h.counter_eq field amount hfield Table.proper_nil]
    exact (congrArg (· + _) hnew).trans (UInt64.zero_add _)
  constructor
  · exact hcounter (·.received) (·.deed.announced) rfl fun m hm => hm.received
  · rw [List.length_flatMap]
    exact hcounter (·.unmatched) (·.unclaimed.length) rfl fun m hm => hm.unmatched
  · rw [List.length_flatMap]
    exact hcounter (·.created) (·.opened.length) rfl fun m hm => hm.created
  · rw [List.length_flatMap]
    exact hcounter (·.evicted) (·.evicted.length) rfl fun m hm => hm.evicted
  · rw [given, List.countP_flatMap]
    exact hcounter (·.sent) (given isSuccess ·.calls) rfl fun m hm => hm.answers.sent
  · rw [given, List.countP_flatMap]
    exact hcounter (·.deferred) (given isRetryable ·.calls) rfl fun m hm => hm.answers.deferred
  · rw [given, List.countP_flatMap]
    exact hcounter (·.dropped) (given isPermanent ·.calls) rfl fun m hm => hm.answers.dropped
  · exact hcounter (·.sweeps) (·.deed.sweeps) rfl fun m hm => hm.sweeps

end Aggregator

end Alerting
