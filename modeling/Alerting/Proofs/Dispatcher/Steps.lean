import Alerting.Proofs.Dispatcher.Books

/-!
# Steps

What one action does to the books and to the aggregator. An action is one service or none.
-/

namespace Alerting.Dispatcher

variable {σ : Type} {r : Receiver σ} {d d' : Dispatcher σ} {a : Action} {effects : List Effect}
  {requests : List Request} {accepted : List Nat} {order : List Service}
  {outcomes : List (Option Nat × Outcome)}

theorem aggregator_begin (d : Dispatcher σ) (request : Request) :
    (d.begin request).aggregator = d.aggregator := by
  unfold begin
  split
  · cases request <;> rfl
  · rfl

theorem receiver_begin (d : Dispatcher σ) (request : Request) :
    (d.begin request).receiver = d.receiver := by
  unfold begin
  split
  · cases request <;> rfl
  · rfl

theorem state_accept? {call : Nat} (h : d.accept? call = some d') :
    d'.aggregator = d.aggregator ∧ d'.receiver = d.receiver := by
  obtain ⟨_, -, rfl⟩ | ⟨_, -, rfl⟩ := accept?_cases h <;> exact ⟨rfl, rfl⟩

theorem Books.quiet (ha : a.isService = false) (hg : d'.aggregator = d.aggregator)
    (hw : d'.receiver = d.receiver) (hcalls : Effect.calls effects = [])
    (h : Books (requests ++ Action.requests [a]) (accepted ++ Action.accepted [a]) order outcomes d') :
    ∃ new, Advances r d a d' effects new ∧
      Books (requests ++ Action.requests [a]) (accepted ++ Action.accepted [a]) (order ++ new)
        (outcomes ++ d.outcomes r new) d' := by
  refine ⟨[], advances_nil ha hg hw hcalls, ?_⟩
  rw [List.append_nil]
  exact (List.append_nil outcomes).symm ▸ h

theorem Books.still (ha : a.isService = false) (hbegun : a.begun? = none)
    (haccepted : a.accepted? = none) (hg : d'.aggregator = d.aggregator)
    (hw : d'.receiver = d.receiver) (hcalls : Effect.calls effects = [])
    (h : Books requests accepted order outcomes d') :
    ∃ new, Advances r d a d' effects new ∧
      Books (requests ++ Action.requests [a]) (accepted ++ Action.accepted [a]) (order ++ new)
        (outcomes ++ d.outcomes r new) d' := by
  apply Books.quiet ha hg hw hcalls
  rw [Action.requests, Action.accepted, List.filterMap_cons_none hbegun,
    List.filterMap_cons_none haccepted, List.filterMap_nil, List.filterMap_nil, List.append_nil,
    List.append_nil]
  exact h

theorem Books.served {d₁ : Dispatcher σ} {caller : Option Nat} (s : Service)
    (hturn : d₁.carryOut r caller s.operation = (d', effects))
    (hg : d₁.aggregator = d.aggregator) (hw : d₁.receiver = d.receiver)
    (h : Books requests accepted (order ++ [s])
      (outcomes ++ [(s.call?, (d.aggregator.perform r d.receiver s.operation).result)])
      (d₁.carryOut r caller s.operation).1) :
    ∃ new, Advances r d s.action d' effects new ∧
      Books (requests ++ Action.requests [s.action]) (accepted ++ Action.accepted [s.action])
        (order ++ new) (outcomes ++ d.outcomes r new) d' := by
  have hadvances := advances_carryOut r caller s hg hw
  rw [hturn] at h hadvances
  refine ⟨[s], hadvances, ?_⟩
  rw [s.requests_action, s.accepted_action, List.append_nil, List.append_nil]
  exact h

/-- Every action but giving up the dispatcher keeps the books. -/
theorem Books.step (h : Books requests accepted order outcomes d)
    (halive : d.isHeld = true → d.IsAlive) (hact : d.act? r a = some (d', effects))
    (hkill : a ≠ .kill) :
    ∃ new, Advances r d a d' effects new ∧
      Books (requests ++ Action.requests [a]) (accepted ++ Action.accepted [a]) (order ++ new)
        (outcomes ++ d.outcomes r new) d' := by
  cases happens_of_act? hact with
  | call request hheld =>
    have hbooks := h.begin (halive hheld) request
    exact Books.quiet rfl (aggregator_begin d request) (receiver_begin d request) rfl
      ((List.append_nil accepted).symm ▸ hbooks)
  | accept call _ halive haccept =>
    have hbooks := h.accept haccept
    exact Books.quiet rfl (state_accept? haccept).1 (state_accept? haccept).2 rfl
      ((List.append_nil requests).symm ▸ hbooks)
  | abandon call => exact Books.still rfl rfl rfl rfl rfl rfl (h.abandon call)
  | finish call hanswered =>
    exact Books.still rfl rfl rfl rfl rfl rfl
      (h.of_eq rfl ⟨rfl, rfl⟩ ⟨rfl, rfl⟩ (List.filter_subset_self _))
  | close hheld hbatches hruleLists =>
    exact Books.still rfl rfl rfl rfl rfl rfl
      (h.of_eq rfl ⟨rfl, rfl⟩ ⟨rfl, rfl⟩ (List.Subset.refl _))
  | kill halive => exact absurd rfl hkill
  | start hready =>
    exact Books.still rfl rfl rfl rfl rfl rfl
      (h.of_eq rfl ⟨rfl, rfl⟩ ⟨rfl, rfl⟩ (List.Subset.refl _))
  | serveBatch now caller events rest hserving hopen hqueue turn hturn =>
    obtain ⟨call, hbooks⟩ := h.serveBatch r now hqueue rfl
    exact Books.served (.batch call events now) hturn rfl rfl hbooks
  | serveRules caller rules rest hserving hopen hqueue turn hturn =>
    obtain ⟨call, hbooks⟩ := h.serveRules r hqueue rfl
    exact Books.served (.rules call rules) hturn rfl rfl hbooks
  | sweep now hserving hopen turn hturn =>
    exact Books.served (.sweep now) hturn rfl rfl (h.sweep r now _)
  | leaveBatches hserving hopen hclosed hqueue | leaveRules hserving hopen hclosed hqueue =>
    exact Books.still rfl rfl rfl rfl rfl rfl
      (h.of_eq rfl ⟨rfl, rfl⟩ ⟨rfl, rfl⟩ (List.Subset.refl _))
  | stop hserving hbatches hruleLists =>
    exact Books.still rfl rfl rfl rfl rfl rfl
      (h.of_eq rfl ⟨rfl, rfl⟩ ⟨rfl, rfl⟩ (List.Subset.refl _))

end Alerting.Dispatcher
