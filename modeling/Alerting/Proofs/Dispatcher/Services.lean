import Alerting.Proofs.Dispatcher.Course
import Alerting.Proofs.Aggregator.History

/-!
# Services

The requests that were served and the sweeps, in one order. Without the dispatcher they are a run of
its aggregator.
-/

namespace Alerting

/-- Something that a dispatcher does with its aggregator: it serves the request of a call, or it
sweeps. -/
inductive Service where
  | batch (call : Nat) (events : List Event) (now : Instant)
  | rules (call : Nat) (list : List SharedRule)
  | sweep (now : Instant)

namespace Service

def operation : Service → Operation
  | .batch _ events now => .aggregate events now
  | .rules _ list => .replaceRules list
  | .sweep now => .sweep now

def action : Service → Action
  | .batch _ _ now => .serveBatch now
  | .rules _ _ => .serveRules
  | .sweep now => .sweep now

/-- The call that is served, with its request. -/
def asked? : Service → Option (Nat × Request)
  | .batch call events _ => some (call, .batch events)
  | .rules call list => some (call, .rules list)
  | .sweep _ => none

def call? (s : Service) : Option Nat := s.asked?.map (·.1)

def calls (order : List Service) : List Nat := order.filterMap call?

theorem isService_action (s : Service) : s.action.isService = true := by cases s <;> rfl

theorem requests_action (s : Service) : Action.requests [s.action] = [] := by cases s <;> rfl

theorem accepted_action (s : Service) : Action.accepted [s.action] = [] := by cases s <;> rfl

theorem calls_append (l₁ l₂ : List Service) : calls (l₁ ++ l₂) = calls l₁ ++ calls l₂ :=
  List.filterMap_append

theorem mem_calls {order : List Service} {call : Nat} :
    call ∈ calls order ↔ ∃ s ∈ order, ∃ request, s.asked? = some (call, request) := by
  simp [calls, call?]

def ReplacesRules : Service → Prop
  | .rules _ _ => True
  | _ => False

def Precedes (order : List Service) (a b : Nat) : Prop :=
  ∃ l₁ l₂, order = l₁ ++ l₂ ∧ a ∈ calls l₁ ∧ b ∈ calls l₂

end Service

namespace Dispatcher

variable {σ : Type}

/-- What services come to when they are done one after the other. -/
def inOrder (r : Receiver σ) (d : Dispatcher σ) (order : List Service) : Turn σ (List Outcome) :=
  Aggregator.performAll r d.aggregator d.receiver (order.map Service.operation)

/-- The outcomes of services that are done one after the other, each with the call that is served. -/
def outcomes (r : Receiver σ) (d : Dispatcher σ) (order : List Service) :
    List (Option Nat × Outcome) :=
  (order.map Service.call?).zip (inOrder r d order).result

/-- An action comes to these services, and to nothing else that the aggregator or the receiver
notices. -/
structure Advances (r : Receiver σ) (d : Dispatcher σ) (a : Action) (d' : Dispatcher σ)
    (effects : List Effect) (new : List Service) : Prop where
  services : new.map Service.action = [a].filter Action.isService
  aggregator : d'.aggregator = (inOrder r d new).aggregator
  receiver : d'.receiver = (inOrder r d new).receiver
  calls : Effect.calls effects = Effect.calls (inOrder r d new).effects

theorem advances_nil {r : Receiver σ} {d d' : Dispatcher σ} {a : Action} {effects : List Effect}
    (ha : a.isService = false) (hg : d'.aggregator = d.aggregator) (hw : d'.receiver = d.receiver)
    (hcalls : Effect.calls effects = []) : Advances r d a d' effects [] where
  services := by rw [List.map_nil, List.filter_singleton, ha]; rfl
  aggregator := hg
  receiver := hw
  calls := hcalls

theorem advances_carryOut (r : Receiver σ) {d d₁ : Dispatcher σ} (caller : Option Nat) (s : Service)
    (hg : d₁.aggregator = d.aggregator) (hw : d₁.receiver = d.receiver) :
    Advances r d s.action (d₁.carryOut r caller s.operation).1
      (d₁.carryOut r caller s.operation).2 [s] where
  services := by rw [List.filter_singleton, s.isService_action]; rfl
  aggregator := by
    change (d₁.aggregator.perform r d₁.receiver s.operation).aggregator = _
    rw [hg, hw]
    rfl
  receiver := by
    change (d₁.aggregator.perform r d₁.receiver s.operation).receiver = _
    rw [hg, hw]
    rfl
  calls := by
    change Effect.calls (d₁.aggregator.perform r d₁.receiver s.operation).effects = _
    rw [hg, hw]
    change _ = Effect.calls (_ ++ [])
    rw [List.append_nil]

end Dispatcher

end Alerting
