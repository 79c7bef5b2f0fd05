import Alerting.Proofs.Dispatcher.Closing

/-!
# Callers

Who is known to a dispatcher: the calls that wait for room, for their turn or for nothing but to take
their answer. A call is known from its beginning until it takes its answer or is given up.
-/

namespace Alerting

theorem Action.length_requests_singleton (a : Action) :
    (requests [a]).length = a.begun?.isSome.toNat := by
  cases a <;> rfl

namespace Channel

variable {α : Type} {c c' : Channel α} {call n : Nat}

theorem mem_calls_join (x : α) : call ∈ (c.join n x).calls ↔ call ∈ c.calls ∨ call = n := by
  simp only [calls, join, List.map_append, List.mem_append, List.map_singleton,
    List.mem_singleton]
  tauto

theorem mem_calls_accept? {capacity : Nat} (haccept : c.accept? capacity n = some c') :
    call ∈ c'.calls ↔ call ∈ c.calls := by
  obtain ⟨x, hwaits, rfl⟩ := exists_of_accept? haccept
  have hn : n ∈ c.waiting.map (·.1) := List.mem_map_of_mem hwaits
  simp only [calls, List.filterMap_append, List.mem_append]
  by_cases hcall : call = n
  · simp [hcall, hn]
  · simp [hcall]

theorem calls_abandon (n : Nat) (c : Channel α) :
    (c.abandon n).calls = c.calls.filter (· ≠ n) := by
  unfold calls abandon
  rw [List.filter_append, List.filter_map]
  congr 1
  induction c.queue with
  | nil => rfl
  | cons entry rest ih =>
    obtain ⟨_ | caller, x⟩ := entry
    · simpa using ih
    · by_cases hcaller : caller = n <;> simpa [hcaller] using ih

theorem mem_calls_take {caller : Option Nat} {x : α} {rest : List (Option Nat × α)}
    (hqueue : c.queue = (caller, x) :: rest) :
    call ∈ c.calls ↔ call ∈ { c with queue := rest }.calls ∨ caller = some call := by
  cases caller with
  | none => simp [calls, hqueue]
  | some caller =>
    simp [calls, hqueue]
    tauto

end Channel

namespace Dispatcher

variable {σ : Type} {r : Receiver σ} {d d' : Dispatcher σ} {a : Action} {actions : List Action}
  {effects : List Effect} {c c' : Course σ} {call n : Nat}

/-- The calls that wait or can take their answers. -/
def callers (d : Dispatcher σ) : List Nat :=
  d.batches.calls ++ d.ruleLists.calls ++ d.answered.map (·.1)

theorem mem_callers : call ∈ d.callers ↔
    call ∈ d.batches.calls ∨ call ∈ d.ruleLists.calls ∨ call ∈ d.answered.map (·.1) := by
  rw [callers, List.mem_append, List.mem_append, or_assoc]

theorem mem_callers_begin (request : Request) :
    call ∈ (d.begin request).callers ↔ call ∈ d.callers ∨ call = d.calls := by
  unfold begin
  split
  · cases request <;> simp only [mem_callers, Channel.mem_calls_join] <;> tauto
  · simp [mem_callers, or_assoc]

theorem mem_callers_accept? (haccept : d.accept? n = some d') :
    call ∈ d'.callers ↔ call ∈ d.callers := by
  obtain ⟨batches, hbatches, rfl⟩ | ⟨ruleLists, hruleLists, rfl⟩ := accept?_cases haccept
  · rw [mem_callers, mem_callers, Channel.mem_calls_accept? hbatches]
  · rw [mem_callers, mem_callers, Channel.mem_calls_accept? hruleLists]

theorem callers_abandon (n : Nat) (d : Dispatcher σ) :
    (d.abandon n).callers = d.callers.filter (· ≠ n) := by
  simp only [callers, abandon, Channel.calls_abandon, List.filter_append, List.filter_map]
  rfl

theorem mem_callers_kill : call ∈ d.kill.callers ↔ call ∈ d.callers := by
  simp only [mem_callers, kill, Channel.emptied, Channel.calls, List.map_append, List.map_map,
    List.mem_append, Function.comp_def, List.map_id']
  simp
  tauto

theorem answered_carryOut {op : Operation} {reply : Reply} (caller : Option Nat)
    (h : (d.aggregator.perform r d.receiver op).result = .replied reply) :
    (d.carryOut r caller op).1.answered = d.answered ++ (caller.map (·, reply)).toList := by
  cases caller <;> simp [carryOut, h]

theorem mem_callers_carryOut {caller : Option Nat} {op : Operation} {reply : Reply}
    (h : (d.aggregator.perform r d.receiver op).result = .replied reply) :
    call ∈ (d.carryOut r caller op).1.callers ↔ call ∈ d.callers ∨ caller = some call := by
  rw [mem_callers, answered_carryOut caller h, mem_callers]
  cases caller <;> simp [carryOut, or_assoc, eq_comm]

/-- A call becomes known when it is begun, and stays so until it takes its answer or is given up. -/
theorem mem_callers_step (hact : d.act? r a = some (d', effects)) (hfinish : a ≠ .finish call) :
    call ∈ d'.callers ↔
      (call ∈ d.callers ∨ call = d.calls ∧ a.begun?.isSome) ∧ a ≠ .abandon call := by
  cases happens_of_act? hact with
  | call request hheld => simp [mem_callers_begin, Action.begun?]
  | accept n _ halive haccept => simp [mem_callers_accept? haccept, Action.begun?]
  | abandon n => simp [callers_abandon, Action.begun?, @eq_comm _ n]
  | finish n hanswered =>
    have hother : call ≠ n := fun hcall => hfinish (hcall ▸ rfl)
    simp [mem_callers, Action.begun?, hother]
  | kill halive => simp [mem_callers_kill, Action.begun?]
  | serveBatch now caller events rest hserving hopen hqueue turn hturn =>
    subst hturn
    rw [mem_callers_carryOut rfl, mem_callers, mem_callers, Channel.mem_calls_take hqueue]
    simp [Action.begun?]
    tauto
  | serveRules caller rules rest hserving hopen hqueue turn hturn =>
    subst hturn
    rw [mem_callers_carryOut rfl, mem_callers, mem_callers, Channel.mem_calls_take hqueue]
    simp [Action.begun?]
    tauto
  | sweep now hserving hopen turn hturn =>
    subst hturn
    simp [mem_callers, carryOut, Action.begun?, Aggregator.perform]
  | close | start | leaveBatches | leaveRules | stop =>
    simp [mem_callers, Channel.calls, Action.begun?]

theorem callers_finish (hact : d.act? r (.finish n) = some (d', effects)) :
    d'.callers ⊆ d.callers := by
  cases happens_of_act? hact with
  | finish n hanswered =>
    intro call hcall
    rw [mem_callers] at hcall ⊢
    exact hcall.imp_right (.imp_right fun h => List.map_subset _ (List.filter_subset_self _) h)

/-! ## Numbers -/

theorem calls_begin (d : Dispatcher σ) (request : Request) :
    (d.begin request).calls = d.calls + 1 := by
  unfold begin
  split
  · cases request <;> rfl
  · rfl

theorem calls_accept? (haccept : d.accept? n = some d') : d'.calls = d.calls := by
  obtain ⟨_, -, rfl⟩ | ⟨_, -, rfl⟩ := accept?_cases haccept <;> rfl

theorem calls_act? (hact : d.act? r a = some (d', effects)) :
    d'.calls = d.calls + (Action.requests [a]).length := by
  cases happens_of_act? hact with
  | call request hheld => exact calls_begin d request
  | accept n _ halive haccept => exact calls_accept? haccept
  | serveBatch _ _ _ _ _ _ _ turn hturn | serveRules _ _ _ _ _ _ turn hturn
    | sweep _ _ _ turn hturn =>
    subst hturn
    rfl
  | _ => rfl

variable {settings : Settings} {w : σ}

theorem calls_run (hnew : new? settings w = some d) (hrun : run? r d actions = some c) :
    c.dispatcher.calls = (Action.requests actions).length := by
  induction actions using List.reverseRecOn generalizing c with
  | nil =>
    obtain rfl := Option.some.inj hrun
    exact (books_new hnew).calls
  | append_singleton actions a ih =>
    obtain ⟨c', effects, hc', hact⟩ := run?_last hrun
    rw [calls_act? hact, ih hc', Action.requests_append, List.length_append]

theorem callers_new (hnew : new? settings w = some d) : d.callers = [] := by
  obtain ⟨-, rfl⟩ := new?_eq_some_iff.1 hnew
  rfl

theorem lt_calls_of_mem_callers (hnew : new? settings w = some d) (hrun : run? r d actions = some c)
    (hcall : call ∈ c.dispatcher.callers) : call < c.dispatcher.calls := by
  induction actions using List.reverseRecOn generalizing c with
  | nil =>
    obtain rfl := Option.some.inj hrun
    simp [callers_new hnew] at hcall
  | append_singleton actions a ih =>
    obtain ⟨c', effects, hc', hact⟩ := run?_last hrun
    rw [calls_act? hact]
    by_cases hfinish : a = .finish call
    · subst hfinish
      exact Nat.lt_add_right _ (ih hc' (callers_finish hact hcall))
    · rcases ((mem_callers_step hact hfinish).1 hcall).1 with hcall | ⟨rfl, hbegun⟩
      · exact Nat.lt_add_right _ (ih hc' hcall)
      · rw [Action.length_requests_singleton, hbegun]
        exact Nat.lt_succ_self _

theorem lt_calls_of_mem_replies {reply : Reply} (hnew : new? settings w = some d)
    (hrun : run? r d actions = some c) (hreply : (call, reply) ∈ c.replies) :
    call < c.dispatcher.calls := by
  induction actions using List.reverseRecOn generalizing c with
  | nil =>
    obtain rfl := Option.some.inj hrun
    exact absurd hreply List.not_mem_nil
  | append_singleton actions a ih =>
    obtain ⟨c', hc', hact⟩ := run?_snoc hrun
    obtain ⟨⟨d', effects⟩, hd', rfl⟩ := Option.map_eq_some_iff.1 hact
    rw [calls_act? hd']
    apply Nat.lt_add_right
    rcases List.mem_append.1 hreply with hreply | hreply
    · exact ih hc' hreply
    · have hanswered := List.mem_map_of_mem (f := (·.1)) (mem_answered_of_told hreply)
      exact lt_calls_of_mem_callers hnew hc' (mem_callers.2 (.inr (.inr hanswered)))

theorem not_mem_kill_of_isAlive (hnew : new? settings w = some d) (hrun : run? r d actions = some c)
    (halive : c.dispatcher.IsAlive) : .kill ∉ actions := by
  rw [← (orderly_run hnew hrun).2.2]
  intro hgone
  rcases halive with h | h <;> cases hgone.symm.trans h

/-- Every call that was begun waits, can take its answer or has taken it, unless it was given up. -/
theorem mem_callers_or_replied (hnew : new? settings w = some d) (hrun : run? r d actions = some c)
    (hcall : call < (Action.requests actions).length) (hkept : .abandon call ∉ actions) :
    call ∈ c.dispatcher.callers ∨ ∃ reply, (call, reply) ∈ c.replies := by
  induction actions using List.reverseRecOn generalizing c with
  | nil => exact absurd hcall (Nat.not_lt_zero _)
  | append_singleton actions a ih =>
    obtain ⟨c', hc', hact⟩ := run?_snoc hrun
    obtain ⟨⟨d', effects⟩, hd', rfl⟩ := Option.map_eq_some_iff.1 hact
    rw [List.mem_append, not_or, List.mem_singleton] at hkept
    by_cases hfinish : a = .finish call
    · subst hfinish
      obtain ⟨reply, hlookup, -⟩ := Option.map_eq_some_iff.1 hd'
      exact .inr ⟨reply, by simp [told, hlookup]⟩
    · rw [mem_callers_step hd' hfinish]
      by_cases hbefore : call < (Action.requests actions).length
      · rcases ih hc' hbefore hkept.1 with h | ⟨reply, h⟩
        · exact .inl ⟨.inl h, Ne.symm hkept.2⟩
        · exact .inr ⟨reply, List.mem_append_left _ h⟩
      · -- the call has just been begun
        rw [Action.requests_append, List.length_append, Action.length_requests_singleton] at hcall
        rw [calls_run hnew hc']
        cases hbegun : a.begun?.isSome with
        | false =>
          rw [hbegun] at hcall
          exact absurd hcall hbefore
        | true =>
          rw [hbegun] at hcall
          have hnow : call = (Action.requests actions).length :=
            Nat.le_antisymm (Nat.le_of_lt_succ hcall) (Nat.le_of_not_lt hbefore)
          exact .inl ⟨.inr ⟨hnow, rfl⟩, Ne.symm hkept.2⟩

end Dispatcher

end Alerting
