import Alerting.Proofs.Aggregator.Table

/-!
# Histories

A run of an aggregator, taken apart into the single deeds that it consists of. An operation on a
batch is many of them: the batch is announced, its events are taken one after the other, and the
aggregations are counted. Everything that is said about whole runs is said about their histories.
-/

namespace Alerting

def Effect.call? : Effect → Option (Summary × Answer)
  | .call summary answer => some (summary, answer)
  | .log _ => none

def Effect.calls (effects : List Effect) : List (Summary × Answer) := effects.filterMap Effect.call?

theorem Effect.calls_append (l₁ l₂ : List Effect) : calls (l₁ ++ l₂) = calls l₁ ++ calls l₂ :=
  List.filterMap_append

theorem Effect.calls_log (entries : List Log.Entry) : calls (entries.map .log) = [] := by
  unfold calls
  rw [List.filterMap_map]
  exact List.filterMap_eq_nil_iff.2 fun _ _ => rfl

namespace Aggregator

variable {σ : Type}

/-- A single thing that is done with an aggregator. -/
inductive Deed where
  /-- A batch of so many events is announced. -/
  | announce (events : Nat)
  | take (e : Event) (now : Instant)
  /-- A batch ends, and the aggregations are counted. -/
  | gauge
  /-- A batch comes to nothing. -/
  | reject
  | replaceRules (rules : List SharedRule)
  | sweep (now : Instant)

/-- What a deed comes to. -/
def does (r : Receiver σ) (g : Aggregator) (w : σ) : Deed → Turn σ Unit
  | .announce events =>
    let counters := { g.counters with received := g.counters.received + UInt64.ofNat events }
    ⟨{ g with counters }, w, [.log (.batchStarted events)], ()⟩
  | .take e now => g.take r now w e
  | .gauge => ⟨g.gauge, w, [], ()⟩
  | .reject => ⟨g, w, [], ()⟩
  | .replaceRules rules => ⟨g.replaceRules rules, w, [.log (.rulesReplaced rules.length)], ()⟩
  | .sweep now =>
    let swept := g.sweep now
    ⟨swept, w, [.log (.swept swept.table.length (g.evictions now))], ()⟩

/-- The deeds that an operation consists of. -/
def deeds (g : Aggregator) : Operation → List Deed
  | .aggregate events now =>
    if g.rules.isEmpty then [.reject]
    else .announce events.length :: (events.map fun e => .take e now) ++ [.gauge]
  | .replaceRules rules => [.replaceRules rules]
  | .sweep now => [.sweep now]

theorem eq_aggregate_of_take_mem_deeds {g : Aggregator} {op : Operation} {e : Event} {now : Instant}
    (h : .take e now ∈ g.deeds op) : ∃ events, op = .aggregate events now ∧ e ∈ events := by
  cases op with
  | aggregate events t =>
    simp only [deeds] at h
    split at h
    · simp at h
    · simp only [List.cons_append, List.mem_cons, reduceCtorEq, List.mem_append, List.mem_map,
        Deed.take.injEq, List.not_mem_nil, or_false, false_or] at h
      obtain ⟨_, he, rfl, rfl⟩ := h
      exact ⟨events, rfl, he⟩
  | replaceRules rules => simp [deeds] at h
  | sweep t => simp [deeds] at h

/-- A deed with the aggregator before and after it, and with what others see of it. -/
structure Moment where
  before : Aggregator
  deed : Deed
  effects : List Effect
  after : Aggregator

/-- The calls of the receiver at a moment. -/
def Moment.calls (m : Moment) : List (Summary × Answer) := Effect.calls m.effects

def moment (r : Receiver σ) (g : Aggregator) (w : σ) (d : Deed) : Moment :=
  ⟨g, d, (g.does r w d).effects, (g.does r w d).aggregator⟩

def moments (r : Receiver σ) : Aggregator → σ → List Deed → List Moment
  | _, _, [] => []
  | g, w, d :: rest =>
    g.moment r w d :: moments r (g.does r w d).aggregator (g.does r w d).receiver rest

def history (r : Receiver σ) : Aggregator → σ → List Operation → List Moment
  | _, _, [] => []
  | g, w, op :: rest =>
    let turn := g.perform r w op
    g.moments r w (g.deeds op) ++ history r turn.aggregator turn.receiver rest

/-! ## Trails -/

/-- Moments that lead from one aggregator and receiver to another. -/
inductive Trail (r : Receiver σ) (g : Aggregator) (w : σ) : List Moment → Aggregator → σ → Prop
  | start : Trail r g w [] g w
  | next {past : List Moment} {g' : Aggregator} {w' : σ} (d : Deed) (h : Trail r g w past g' w') :
    Trail r g w (past ++ [g'.moment r w' d]) (g'.does r w' d).aggregator (g'.does r w' d).receiver

namespace Trail

variable {r : Receiver σ} {g g₁ g₂ : Aggregator} {w w₁ w₂ : σ} {l₁ l₂ : List Moment}

theorem append (h₁ : Trail r g w l₁ g₁ w₁) (h₂ : Trail r g₁ w₁ l₂ g₂ w₂) :
    Trail r g w (l₁ ++ l₂) g₂ w₂ := by
  induction h₂ with
  | start => rwa [List.append_nil]
  | next d _ ih =>
    rw [← List.append_assoc]
    exact ih.next d

/-- Each moment of a trail is a deed that is done at the end of a shorter trail. -/
theorem at_moment {past rest : List Moment} {m : Moment} (h : Trail r g w l₁ g₁ w₁)
    (hl : l₁ = past ++ m :: rest) :
    ∃ g' w', Trail r g w past g' w' ∧ m = g'.moment r w' m.deed := by
  induction h generalizing rest with
  | start => simp at hl
  | @next past' g' w' d htrail ih =>
    rcases List.eq_nil_or_concat rest with rfl | ⟨rest', m', rfl⟩
    · obtain ⟨rfl, hm⟩ := List.append_inj' hl rfl
      obtain rfl := (List.singleton_inj.1 hm).symm
      exact ⟨g', w', htrail, rfl⟩
    · rw [List.concat_eq_append, ← List.cons_append, ← List.append_assoc] at hl
      exact ih (List.append_inj' hl rfl).1

theorem split (h : Trail r g w (l₁ ++ l₂) g₂ w₂) :
    ∃ g₁ w₁, Trail r g w l₁ g₁ w₁ ∧ Trail r g₁ w₁ l₂ g₂ w₂ := by
  generalize hl : l₁ ++ l₂ = l at h
  induction h generalizing l₂ with
  | start =>
    obtain ⟨rfl, rfl⟩ := List.append_eq_nil_iff.1 hl
    exact ⟨g, w, .start, .start⟩
  | @next past g' w' d htrail ih =>
    rcases List.eq_nil_or_concat l₂ with rfl | ⟨l₂, m, rfl⟩
    · rw [List.append_nil] at hl
      exact ⟨_, _, hl ▸ htrail.next d, .start⟩
    · rw [List.concat_eq_append, ← List.append_assoc] at hl
      obtain ⟨hpast, hm⟩ := List.append_inj' hl rfl
      obtain ⟨g₁, w₁, h₁, h₂⟩ := ih hpast
      rw [List.concat_eq_append, List.singleton_inj.1 hm]
      exact ⟨g₁, w₁, h₁, h₂.next d⟩

theorem exists_next {past : List Moment} {m : Moment} (h : Trail r g w (past ++ [m]) g₁ w₁) :
    ∃ g' w' d, Trail r g w past g' w' ∧ m = g'.moment r w' d ∧ g₁ = (g'.does r w' d).aggregator ∧
      w₁ = (g'.does r w' d).receiver := by
  generalize hl : past ++ [m] = l at h
  cases h with
  | start => simp at hl
  | @next past' g' w' d htrail =>
    obtain ⟨rfl, hm⟩ := List.append_inj' hl rfl
    exact ⟨g', w', d, htrail, List.singleton_inj.1 hm, rfl, rfl⟩

theorem eq_of_nil (h : Trail r g w [] g₁ w₁) : g₁ = g ∧ w₁ = w := by
  generalize hl : [] = l at h
  cases h with
  | start => exact ⟨rfl, rfl⟩
  | next => simp at hl

theorem exists_first {rest : List Moment} {m : Moment} (h : Trail r g w (m :: rest) g₂ w₂) :
    ∃ d, m = g.moment r w d ∧
      Trail r (g.does r w d).aggregator (g.does r w d).receiver rest g₂ w₂ := by
  rw [← List.singleton_append] at h
  obtain ⟨g₁, w₁, hfirst, hrest⟩ := h.split
  rw [← List.nil_append [m]] at hfirst
  obtain ⟨g', w', d, hstart, rfl, rfl, rfl⟩ := hfirst.exists_next
  obtain ⟨rfl, rfl⟩ := hstart.eq_of_nil
  exact ⟨d, rfl, hrest⟩

theorem at_split {past rest : List Moment} (h : Trail r g w l₁ g₁ w₁) (hl : l₁ = past ++ rest) :
    ∃ g' w', Trail r g w past g' w' := by
  obtain ⟨g', w', hpast, -⟩ := (hl ▸ h).split
  exact ⟨g', w', hpast⟩

end Trail

/-- The aggregator that these moments lead to. -/
def following (g : Aggregator) (past : List Moment) : Aggregator :=
  (past.getLast?.map (·.after)).getD g

theorem Trail.following_eq {r : Receiver σ} {g g' : Aggregator} {w w' : σ} {past : List Moment}
    (h : Trail r g w past g' w') : g.following past = g' := by
  cases h with
  | start => rfl
  | next d _ =>
    rw [following, List.getLast?_concat]
    rfl

/-! ## Histories are trails -/

def doAll (r : Receiver σ) : Aggregator → σ → List Deed → Turn σ Unit
  | g, w, [] => ⟨g, w, [], ()⟩
  | g, w, d :: rest =>
    let first := g.does r w d
    let others := doAll r first.aggregator first.receiver rest
    { others with effects := first.effects ++ others.effects }

theorem trail_moments (r : Receiver σ) (g : Aggregator) (w : σ) (ds : List Deed) :
    Trail r g w (g.moments r w ds) (doAll r g w ds).aggregator (doAll r g w ds).receiver := by
  induction ds generalizing g w with
  | nil => exact .start
  | cons d rest ih => exact (Trail.start.next d).append (ih _ _)

theorem effects_moments (r : Receiver σ) (g : Aggregator) (w : σ) (ds : List Deed) :
    (g.moments r w ds).flatMap (·.effects) = (doAll r g w ds).effects := by
  induction ds generalizing g w with
  | nil => rfl
  | cons d rest ih =>
    rw [moments, List.flatMap_cons, ih]
    rfl

theorem doAll_append (r : Receiver σ) (g : Aggregator) (w : σ) (ds₁ ds₂ : List Deed) :
    doAll r g w (ds₁ ++ ds₂) =
      let first := doAll r g w ds₁
      let others := doAll r first.aggregator first.receiver ds₂
      { others with effects := first.effects ++ others.effects } := by
  induction ds₁ generalizing g w with
  | nil => rfl
  | cons d rest ih =>
    simp only [List.cons_append, doAll, ih, List.append_assoc]

theorem doAll_takes (r : Receiver σ) (now : Instant) (g : Aggregator) (w : σ) (events : List Event) :
    doAll r g w (events.map fun e => .take e now) = takeAll r now g w events := by
  induction events generalizing g w with
  | nil => rfl
  | cons e rest ih =>
    simp only [List.map_cons, doAll, takeAll, ih]
    rfl

theorem doAll_deeds (r : Receiver σ) (g : Aggregator) (w : σ) (op : Operation) :
    doAll r g w (g.deeds op) =
      ⟨(g.perform r w op).aggregator, (g.perform r w op).receiver, (g.perform r w op).effects, ()⟩ := by
  cases op with
  | aggregate events now =>
    by_cases h : g.rules.isEmpty = true
    · simp only [deeds, perform, aggregate, h, if_true]
      rfl
    · simp only [deeds, perform, aggregate, h, if_false, List.cons_append, doAll, doAll_append,
        doAll_takes, does, List.append_nil, List.nil_append, Bool.false_eq_true]
  | replaceRules rules => rfl
  | sweep now => rfl

theorem trail_history (r : Receiver σ) (g : Aggregator) (w : σ) (ops : List Operation) :
    Trail r g w (g.history r w ops) (performAll r g w ops).aggregator
      (performAll r g w ops).receiver := by
  induction ops generalizing g w with
  | nil => exact .start
  | cons op rest ih =>
    have h := trail_moments r g w (g.deeds op)
    rw [doAll_deeds] at h
    exact h.append (ih _ _)

theorem effects_history (r : Receiver σ) (g : Aggregator) (w : σ) (ops : List Operation) :
    (performAll r g w ops).effects = (g.history r w ops).flatMap (·.effects) := by
  induction ops generalizing g w with
  | nil => rfl
  | cons op rest ih =>
    rw [history, List.flatMap_append, effects_moments, doAll_deeds, ← ih]
    rfl

theorem calls_history (r : Receiver σ) (g : Aggregator) (w : σ) (ops : List Operation) :
    Effect.calls (performAll r g w ops).effects = (g.history r w ops).flatMap Moment.calls := by
  rw [effects_history]
  exact List.filterMap_flatMap

/-! ## Runs in parts -/

theorem performAll_append (r : Receiver σ) (g : Aggregator) (w : σ) (ops₁ ops₂ : List Operation) :
    performAll r g w (ops₁ ++ ops₂) =
      let first := performAll r g w ops₁
      let others := performAll r first.aggregator first.receiver ops₂
      { others with
        effects := first.effects ++ others.effects
        result := first.result ++ others.result } := by
  induction ops₁ generalizing g w with
  | nil => rfl
  | cons op rest ih => simp only [List.cons_append, performAll, ih, List.append_assoc]

theorem length_performAll (r : Receiver σ) (g : Aggregator) (w : σ) (ops : List Operation) :
    (performAll r g w ops).result.length = ops.length := by
  induction ops generalizing g w with
  | nil => rfl
  | cons op rest ih => simp only [performAll, List.length_cons, ih]

/-- What each operation of a run comes to. -/
def turns (r : Receiver σ) : Aggregator → σ → List Operation → List (Turn σ Outcome)
  | _, _, [] => []
  | g, w, op :: rest =>
    let turn := g.perform r w op
    turn :: turns r turn.aggregator turn.receiver rest

end Aggregator

end Alerting
