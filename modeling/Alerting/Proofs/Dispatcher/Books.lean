import Alerting.Proofs.Dispatcher.Ledger
import Alerting.Proofs.Dispatcher.Services

/-!
# Books

What a dispatcher holds, in terms of what happened to it: the calls that were begun and accepted and
the services that were done. An action changes the books by one line.
-/

namespace Alerting

/-- The calls among these that asked for requests of a kind. -/
def Request.callsOf (requests : List Request) (kind : Kind) (calls : List Nat) : List Nat :=
  calls.filter fun call => requests[call]?.any (·.kind = kind)

namespace Request

variable {requests : List Request} {request : Request} {kind : Kind} {calls : List Nat} {call : Nat}

theorem mem_callsOf (hask : requests[call]? = some request) :
    call ∈ callsOf requests request.kind calls ↔ call ∈ calls := by
  simp [callsOf, hask]

theorem callsOf_append (more : List Request) (h : ∀ call ∈ calls, call < requests.length) :
    callsOf (requests ++ more) kind calls = callsOf requests kind calls := by
  apply List.filter_congr
  intro call hcall
  rw [List.getElem?_append_left (h call hcall)]

theorem callsOf_snoc_self (calls : List Nat) (hask : requests[call]? = some request) :
    callsOf requests request.kind (calls ++ [call]) = callsOf requests request.kind calls ++ [call] := by
  simp [callsOf, hask]

theorem callsOf_snoc_other (calls : List Nat) (hask : requests[call]? = some request)
    (hkind : request.kind ≠ kind) :
    callsOf requests kind (calls ++ [call]) = callsOf requests kind calls := by
  simp [callsOf, hask, hkind]

end Request

open Request

namespace Dispatcher

variable {σ : Type} {requests : List Request} {accepted : List Nat} {order : List Service}
  {outcomes : List (Option Nat × Outcome)} {d d' : Dispatcher σ}

/-- The channels hold what is accepted and not served, and each answer is the outcome of its call's
service. -/
structure Books (requests : List Request) (accepted : List Nat) (order : List Service)
    (outcomes : List (Option Nat × Outcome)) (d : Dispatcher σ) : Prop where
  calls : d.calls = requests.length
  known : ∀ call ∈ accepted, call < requests.length
  asked : ∀ s ∈ order, ∀ call request, s.asked? = some (call, request) →
    requests[call]? = some request
  once : (Service.calls order).Nodup
  batches : d.batches.Follows .batch requests (callsOf requests .batch accepted)
    (callsOf requests .batch (Service.calls order))
  ruleLists : d.ruleLists.Follows .rules requests (callsOf requests .rules accepted)
    (callsOf requests .rules (Service.calls order))
  answered : ∀ a ∈ d.answered, (some a.1, .replied a.2) ∈ outcomes

theorem Books.call_lt (h : Books requests accepted order outcomes d) {call : Nat}
    (hcall : call ∈ Service.calls order) : call < requests.length := by
  obtain ⟨s, hs, request, hask⟩ := Service.mem_calls.1 hcall
  exact (List.getElem?_eq_some_iff.1 (h.asked s hs call request hask)).1

theorem Books.of_eq (h : Books requests accepted order outcomes d) (hcalls : d'.calls = d.calls)
    (hbatches : d'.batches.waiting = d.batches.waiting ∧ d'.batches.queue = d.batches.queue)
    (hruleLists : d'.ruleLists.waiting = d.ruleLists.waiting ∧ d'.ruleLists.queue = d.ruleLists.queue)
    (hanswered : d'.answered ⊆ d.answered) : Books requests accepted order outcomes d' where
  calls := hcalls.trans h.calls
  known := h.known
  asked := h.asked
  once := h.once
  batches := h.batches.of_eq hbatches.1 hbatches.2
  ruleLists := h.ruleLists.of_eq hruleLists.1 hruleLists.2
  answered := fun a ha => h.answered a (hanswered ha)

/-! ## Calls -/

theorem Books.begin (h : Books requests accepted order outcomes d) (halive : d.IsAlive)
    (request : Request) :
    Books (requests ++ [request]) accepted order outcomes (d.begin request) := by
  have hlt : ∀ call ∈ Service.calls order, call < requests.length := fun _ => h.call_lt
  have hknown : ∀ kind, ∀ call ∈ callsOf requests kind accepted, call < requests.length :=
    fun _ call hcall => h.known call (List.mem_of_mem_filter hcall)
  have hbatches := h.batches.append [request]
  have hruleLists := h.ruleLists.append [request]
  refine ⟨?_, ?_, ?_, h.once, ?_, ?_, ?_⟩
  · unfold Dispatcher.begin
    rw [if_pos halive, List.length_append, ← h.calls]
    cases request <;> rfl
  · intro call hcall
    rw [List.length_append]
    exact Nat.lt_add_right _ (h.known call hcall)
  · intro s hs call request hask
    exact Action.getElem?_requests_append (h.asked s hs call request hask) _
  · rw [callsOf_append _ h.known, callsOf_append _ hlt]
    unfold Dispatcher.begin
    rw [if_pos halive]
    cases request with
    | batch events => exact h.calls ▸ h.batches.join events (hknown .batch)
    | rules rules => exact hbatches
  · rw [callsOf_append _ h.known, callsOf_append _ hlt]
    unfold Dispatcher.begin
    rw [if_pos halive]
    cases request with
    | batch events => exact hruleLists
    | rules rules => exact h.calls ▸ h.ruleLists.join rules (hknown .rules)
  · unfold Dispatcher.begin
    rw [if_pos halive]
    cases request <;> exact h.answered

theorem Books.accept {call : Nat} (h : Books requests accepted order outcomes d)
    (haccept : d.accept? call = some d') :
    Books requests (accepted ++ [call]) order outcomes d' := by
  have hknown : ∀ {request}, requests[call]? = some request →
      ∀ call' ∈ accepted ++ [call], call' < requests.length := by
    intro request hask call' hcall'
    rcases List.mem_append.1 hcall' with hcall' | hcall'
    · exact h.known call' hcall'
    · rw [List.mem_singleton.1 hcall']
      exact (List.getElem?_eq_some_iff.1 hask).1
  obtain ⟨batches, hbatches, rfl⟩ | ⟨ruleLists, hruleLists, rfl⟩ := accept?_cases haccept
  · obtain ⟨⟨events, hask⟩, hfollows⟩ := h.batches.accept hbatches
    refine ⟨h.calls, hknown hask, h.asked, h.once, ?_, ?_, h.answered⟩
    · exact callsOf_snoc_self accepted hask ▸ hfollows
    · rw [callsOf_snoc_other accepted hask (by decide : Kind.batch ≠ .rules)]
      exact h.ruleLists
  · obtain ⟨⟨rules, hask⟩, hfollows⟩ := h.ruleLists.accept hruleLists
    refine ⟨h.calls, hknown hask, h.asked, h.once, ?_, ?_, h.answered⟩
    · rw [callsOf_snoc_other accepted hask (by decide : Kind.rules ≠ .batch)]
      exact h.batches
    · exact callsOf_snoc_self accepted hask ▸ hfollows

theorem Books.abandon (call : Nat) (h : Books requests accepted order outcomes d) :
    Books requests accepted order outcomes (d.abandon call) where
  calls := h.calls
  known := h.known
  asked := h.asked
  once := h.once
  batches := h.batches.abandon call
  ruleLists := h.ruleLists.abandon call
  answered := fun a ha => h.answered a (List.mem_of_mem_filter ha)

/-! ## Services -/

theorem mem_answered_carryOut {r : Receiver σ} {caller : Option Nat} {op : Operation}
    {a : Nat × Reply} (ha : a ∈ (d.carryOut r caller op).1.answered) :
    a ∈ d.answered ∨
      caller = some a.1 ∧ (d.aggregator.perform r d.receiver op).result = .replied a.2 := by
  rcases List.mem_append.1 ha with ha | ha
  · exact .inl ha
  · right
    split at ha
    · rename_i call reply hresult _
      obtain rfl := List.mem_singleton.1 ha
      exact ⟨rfl, hresult⟩
    · exact absurd ha List.not_mem_nil

theorem Books.serve {s : Service} {call : Nat} {request : Request} {outcome : Outcome}
    (h : Books requests accepted order outcomes d) (hs : s.asked? = some (call, request))
    (hask : requests[call]? = some request)
    (hfresh : call ∉ callsOf requests request.kind (Service.calls order))
    (hcalls : d'.calls = d.calls)
    (hbatches : d'.batches.Follows .batch requests (callsOf requests .batch accepted)
      (callsOf requests .batch (Service.calls order ++ [call])))
    (hruleLists : d'.ruleLists.Follows .rules requests (callsOf requests .rules accepted)
      (callsOf requests .rules (Service.calls order ++ [call])))
    (hanswered : ∀ a ∈ d'.answered, a ∈ d.answered ∨ call = a.1 ∧ outcome = .replied a.2) :
    Books requests accepted (order ++ [s]) (outcomes ++ [(some call, outcome)]) d' := by
  have hserved : Service.calls (order ++ [s]) = Service.calls order ++ [call] := by
    rw [Service.calls_append]
    congr 1
    simp [Service.calls, Service.call?, hs]
  refine ⟨hcalls.trans h.calls, h.known, ?_, ?_, hserved ▸ hbatches, hserved ▸ hruleLists, ?_⟩
  · intro s' hs' call' request' hask'
    rcases List.mem_append.1 hs' with hs' | hs'
    · exact h.asked s' hs' call' request' hask'
    · obtain rfl := List.mem_singleton.1 hs'
      obtain ⟨rfl, rfl⟩ := Prod.mk.inj (Option.some.inj (hs.symm.trans hask'))
      exact hask
  · rw [hserved, ← List.concat_eq_append]
    exact h.once.concat fun hin => hfresh ((mem_callsOf hask).2 hin)
  · intro a ha
    rw [List.mem_append]
    rcases hanswered a ha with ha | ⟨rfl, rfl⟩
    · exact .inl (h.answered a ha)
    · exact .inr (List.mem_singleton_self _)

theorem Books.serveBatch {caller : Option Nat} {events : List Event}
    {rest : List (Option Nat × List Event)} (r : Receiver σ) (now : Instant)
    (h : Books requests accepted order outcomes d) (hqueue : d.batches.queue = (caller, events) :: rest)
    (hd' : d' = { d with batches := { d.batches with queue := rest } }) :
    ∃ call, Books requests accepted (order ++ [.batch call events now])
      (outcomes ++ [(some call, (d.aggregator.perform r d.receiver (.aggregate events now)).result)])
      (d'.carryOut r caller (.aggregate events now)).1 := by
  obtain ⟨call, ⟨hcaller, hask⟩, hfresh, hfollows⟩ := h.batches.take hqueue
  subst hd'
  refine ⟨call, h.serve rfl hask hfresh rfl ?_ ?_ ?_⟩
  · exact callsOf_snoc_self (Service.calls order) hask ▸ hfollows
  · rw [callsOf_snoc_other (Service.calls order) hask (by decide : Kind.batch ≠ .rules)]
    exact h.ruleLists
  · intro a ha
    refine (mem_answered_carryOut ha).imp_right fun hnew => ⟨?_, hnew.2⟩
    exact (hcaller _ hnew.1).symm

theorem Books.serveRules {caller : Option Nat} {rules : List SharedRule}
    {rest : List (Option Nat × List SharedRule)} (r : Receiver σ)
    (h : Books requests accepted order outcomes d)
    (hqueue : d.ruleLists.queue = (caller, rules) :: rest)
    (hd' : d' = { d with ruleLists := { d.ruleLists with queue := rest } }) :
    ∃ call, Books requests accepted (order ++ [.rules call rules])
      (outcomes ++ [(some call, (d.aggregator.perform r d.receiver (.replaceRules rules)).result)])
      (d'.carryOut r caller (.replaceRules rules)).1 := by
  obtain ⟨call, ⟨hcaller, hask⟩, hfresh, hfollows⟩ := h.ruleLists.take hqueue
  subst hd'
  refine ⟨call, h.serve rfl hask hfresh rfl ?_ ?_ ?_⟩
  · rw [callsOf_snoc_other (Service.calls order) hask (by decide : Kind.rules ≠ .batch)]
    exact h.batches
  · exact callsOf_snoc_self (Service.calls order) hask ▸ hfollows
  · intro a ha
    refine (mem_answered_carryOut ha).imp_right fun hnew => ⟨?_, hnew.2⟩
    exact (hcaller _ hnew.1).symm

theorem Books.sweep (r : Receiver σ) (now : Instant) (outcome : Outcome)
    (h : Books requests accepted order outcomes d) :
    Books requests accepted (order ++ [.sweep now]) (outcomes ++ [(none, outcome)])
      (d.carryOut r none (.sweep now)).1 := by
  have hserved : Service.calls (order ++ [.sweep now]) = Service.calls order := by
    rw [Service.calls_append]
    exact List.append_nil _
  refine ⟨h.calls, h.known, ?_, hserved ▸ h.once, hserved ▸ h.batches,
    hserved ▸ h.ruleLists, ?_⟩
  · intro s hs call request hask
    rcases List.mem_append.1 hs with hs | hs
    · exact h.asked s hs call request hask
    · rw [List.mem_singleton.1 hs] at hask
      cases hask
  · intro a ha
    rcases mem_answered_carryOut ha with ha | ha
    · exact List.mem_append_left _ (h.answered a ha)
    · cases ha.1

end Dispatcher

end Alerting
