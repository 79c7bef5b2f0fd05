import Alerting.Proofs.Aggregator.Rules

/-!
# Rejected batches

A batch is rejected if and only if no rules are in force, whatever it holds and whatever a receiver
says. A rejected batch leaves no trace: a run without the rejected batches is the same run,
operation by operation, with the same table and counters, the same calls and log, and the same
results.
-/

namespace Alerting

def Operation.rules? : Operation → Option (List SharedRule)
  | .replaceRules rules => some rules
  | _ => none

def Outcome.isRejected : Outcome → Bool
  | .replied (.error _) => true
  | _ => false

namespace Aggregator

variable {σ : Type}

/-! ## The rules in force -/

/-- The rules in force after these operations: the list that was taken last. -/
def rulesAfter (g : Aggregator) (ops : List Operation) : List SharedRule :=
  ((ops.filterMap Operation.rules?).getLast?).getD g.rules

theorem rules_perform (r : Receiver σ) (g : Aggregator) (w : σ) (op : Operation) :
    (g.perform r w op).aggregator.rules = op.rules?.getD g.rules := by
  cases op with
  | aggregate events now => exact rules_aggregate r g w events now
  | replaceRules rules => rfl
  | sweep now => rfl

theorem rules_performAll (r : Receiver σ) (g : Aggregator) (w : σ) (ops : List Operation) :
    (performAll r g w ops).aggregator.rules = g.rulesAfter ops := by
  induction ops generalizing g w with
  | nil => rfl
  | cons op rest ih =>
    rw [performAll, ih]
    unfold rulesAfter
    rw [rules_perform]
    -- a list that the first operation takes counts only if no later one takes another
    cases h : op.rules? with
    | none => simp [List.filterMap_cons_none h]
    | some rules => simp [List.filterMap_cons_some h, List.getLast?_cons]

/-! ## One batch -/

theorem result_aggregate (r : Receiver σ) (g : Aggregator) (w : σ) (events : List Event)
    (now : Instant) :
    (g.perform r w (.aggregate events now)).result =
      .replied (if g.rules = [] then .error .noRules else .ok ()) := by
  simp only [perform, aggregate, List.isEmpty_iff]
  split <;> rfl

theorem perform_of_rejected {r : Receiver σ} {g : Aggregator} {w : σ} {op : Operation}
    (h : (g.perform r w op).result.isRejected = true) :
    g.perform r w op = ⟨g, w, [], .replied (.error .noRules)⟩ := by
  cases op with
  | aggregate events now =>
    by_cases hrules : g.rules = []
    · simp [perform, aggregate, hrules]
    · rw [result_aggregate, if_neg hrules] at h
      cases h
  | replaceRules rules => cases h
  | sweep now => cases h

/-! ## Runs -/

/-- The operations of a run that were not rejected, with what they came to. -/
def carried (r : Receiver σ) (g : Aggregator) (w : σ) (ops : List Operation) :
    List (Operation × Turn σ Outcome) :=
  (ops.zip (turns r g w ops)).filter fun step => !step.2.result.isRejected

theorem carried_cons (r : Receiver σ) (g : Aggregator) (w : σ) (op : Operation)
    (rest : List Operation) :
    carried r g w (op :: rest) =
      let turn := g.perform r w op
      let others := carried r turn.aggregator turn.receiver rest
      if turn.result.isRejected then others else (op, turn) :: others := by
  simp only [carried, turns, List.zip_cons_cons, List.filter_cons]
  cases (g.perform r w op).result.isRejected <;> rfl

theorem turns_carried (r : Receiver σ) (g : Aggregator) (w : σ) (ops : List Operation) :
    turns r g w ((carried r g w ops).map (·.1)) = (carried r g w ops).map (·.2) := by
  induction ops generalizing g w with
  | nil => rfl
  | cons op rest ih =>
    rw [carried_cons]
    by_cases h : (g.perform r w op).result.isRejected = true
    · simp only [perform_of_rejected h]
      exact ih g w
    · simp only [h, if_false, Bool.false_eq_true, List.map_cons, turns, ih]

theorem performAll_carried (r : Receiver σ) (g : Aggregator) (w : σ) (ops : List Operation) :
    performAll r g w ((carried r g w ops).map (·.1)) =
      { performAll r g w ops with result := (carried r g w ops).map (·.2.result) } := by
  induction ops generalizing g w with
  | nil => rfl
  | cons op rest ih =>
    rw [carried_cons]
    by_cases h : (g.perform r w op).result.isRejected = true
    · simp only [performAll, perform_of_rejected h, List.nil_append]
      exact ih g w
    · simp only [h, if_false, Bool.false_eq_true, List.map_cons, performAll, ih]

/-- **Rejected batches.** A batch is rejected exactly if no rules are in force, and without the
rejected batches everything else comes to the same. -/
theorem rejected_batches_leave_no_trace (r : Receiver σ) (g : Aggregator) (w : σ)
    (ops : List Operation) :
    (∀ events now,
      let reached := performAll r g w ops
      (reached.aggregator.perform r reached.receiver (.aggregate events now)).result =
        .replied (if g.rulesAfter ops = [] then .error .noRules else .ok ())) ∧
    let kept := carried r g w ops
    turns r g w (kept.map (·.1)) = kept.map (·.2) ∧
      performAll r g w (kept.map (·.1)) =
        { performAll r g w ops with result := kept.map (·.2.result) } := by
  refine ⟨fun events now => ?_, turns_carried r g w ops, performAll_carried r g w ops⟩
  intro reached
  rw [result_aggregate, rules_performAll]

end Aggregator

end Alerting
