import Alerting.Proofs.Dispatcher.Callers

/-!
# Losing a dispatcher

When a dispatcher is given up, whoever waits is told that it is closed, and so is whoever calls later. No
request of theirs has done anything, so each of them may be tried again elsewhere.
-/

namespace Alerting

open Request

namespace Channel

variable {α : Type} {ask : α → Request} {requests : List Request} {accepted served : List Nat}
  {c c' : Channel α} {call : Nat}

theorem waiting_of_calls (h : c.calls = []) : c.waiting = [] :=
  List.map_eq_nil_iff.1 (List.append_eq_nil_iff.1 h).1

theorem mem_of_caller {queue : List (Option Nat × α)} {queued : List Nat}
    (h : List.Forall₂ (IsOf ask requests) queue queued) (hcall : call ∈ queue.filterMap (·.1)) :
    call ∈ queued ∧ ∃ x, requests[call]? = some (ask x) := by
  induction h with
  | nil => exact absurd hcall List.not_mem_nil
  | @cons entry call' queue queued hentry _ ih =>
    obtain ⟨q, hq, hcaller⟩ := List.mem_filterMap.1 hcall
    rcases List.mem_cons.1 hq with rfl | hq
    · obtain rfl := hentry.1 call hcaller
      exact ⟨List.mem_cons_self, q.2, hentry.2⟩
    · obtain ⟨hmem, hask⟩ := ih (List.mem_filterMap.2 ⟨q, hq, hcaller⟩)
      exact ⟨List.mem_cons_of_mem _ hmem, hask⟩

theorem Follows.not_served (h : c.Follows ask requests accepted served) (hcall : call ∈ c.calls) :
    (∃ x, requests[call]? = some (ask x)) ∧ call ∉ served := by
  obtain ⟨queued, rfl, hqueue⟩ := h.queue
  obtain ⟨-, hnodup, hdisjoint⟩ := List.nodup_append'.1 h.once
  rcases List.mem_append.1 hcall with hcall | hcall
  · obtain ⟨w, hw, rfl⟩ := List.mem_map.1 hcall
    refine ⟨⟨w.2, h.waiting w hw⟩, fun hserved => ?_⟩
    exact hdisjoint hcall (List.mem_append_left _ hserved)
  · obtain ⟨hqueued, hask⟩ := mem_of_caller hqueue hcall
    exact ⟨hask, fun hserved => List.disjoint_of_nodup_append hnodup hserved hqueued⟩

end Channel

namespace Dispatcher

variable {σ : Type} {r : Receiver σ} {d d' : Dispatcher σ} {a : Action} {actions : List Action}
  {effects : List Effect} {c c' : Course σ} {call : Nat}

/-! ## A dispatcher that is gone -/

/-- The dispatcher was given up, and nobody waits for it any more. -/
structure IsLost (d : Dispatcher σ) : Prop where
  phase : d.phase = .gone
  signal : d.signal = .dropped
  batches : d.batches.calls = []
  ruleLists : d.ruleLists.calls = []

theorem isLost_kill (d : Dispatcher σ) : d.kill.IsLost := ⟨rfl, rfl, rfl, rfl⟩

/-- Nothing that happens to a dispatcher that is gone changes anything but answers, and the only new
answer is that it is closed. -/
structure Abides (d d' : Dispatcher σ) (effects : List Effect) : Prop where
  isLost : d'.IsLost
  aggregator : d'.aggregator = d.aggregator
  receiver : d'.receiver = d.receiver
  effects : effects = []
  answered : ∀ answer ∈ d'.answered, answer ∈ d.answered ∨ answer = (d.calls, .error .closed)

theorem IsLost.step (h : d.IsLost) (hact : d.act? r a = some (d', effects)) :
    Abides d d' effects := by
  obtain ⟨hgone, hsignal, hbatches, hruleLists⟩ := h
  have hdead : ¬d.IsAlive := by
    simp [IsAlive, hgone]
  have hidle : d.phase ≠ .serving := by
    simp [hgone]
  cases happens_of_act? hact with
  | call request hheld =>
    simp only [begin, if_neg hdead]
    refine ⟨⟨hgone, hsignal, hbatches, hruleLists⟩, rfl, rfl, rfl, ?_⟩
    simp
  | abandon n =>
    refine ⟨⟨hgone, hsignal, ?_, ?_⟩, rfl, rfl, rfl, fun answer h => .inl (List.mem_of_mem_filter h)⟩
    · simp [Dispatcher.abandon, Channel.calls_abandon, hbatches]
    · simp [Dispatcher.abandon, Channel.calls_abandon, hruleLists]
  | finish n hanswered =>
    exact ⟨⟨hgone, hsignal, hbatches, hruleLists⟩, rfl, rfl, rfl,
      fun _ h => .inl (List.mem_of_mem_filter h)⟩
  | close => exact ⟨⟨hgone, hsignal, hbatches, hruleLists⟩, rfl, rfl, rfl, fun _ h => .inl h⟩
  | accept n _ halive | kill halive => exact absurd halive hdead
  | start hready => simp [hgone] at hready
  | serveBatch _ _ _ _ hserving | serveRules _ _ _ hserving | sweep _ hserving
    | leaveBatches hserving | leaveRules hserving | stop hserving => exact absurd hserving hidle

/-- The answers that were given so far, taken or not. -/
def Course.answers (c : Course σ) : List (Nat × Reply) := c.replies ++ c.dispatcher.answered

/-- The second course goes on without its dispatcher: it answers those who waited when the first one
ended, and later ones. -/
structure BreaksOff (c' c : Course σ) : Prop where
  isLost : c.dispatcher.IsLost
  aggregator : c.dispatcher.aggregator = c'.dispatcher.aggregator
  receiver : c.dispatcher.receiver = c'.dispatcher.receiver
  effects : c.effects = c'.effects
  calls : c'.dispatcher.calls ≤ c.dispatcher.calls
  answers : ∀ answer ∈ c.answers, answer ∈ c'.answers ∨ answer.2 = .error .closed ∧
    (answer.1 ∈ c'.dispatcher.batches.calls ∨ answer.1 ∈ c'.dispatcher.ruleLists.calls ∨
      c'.dispatcher.calls ≤ answer.1)

theorem breaksOff_kill (c : Course σ) :
    BreaksOff c ⟨c.dispatcher.kill, c.effects, c.replies⟩ := by
  refine ⟨isLost_kill _, rfl, rfl, rfl, Nat.le_refl _, ?_⟩
  rintro ⟨call, reply⟩ h
  simp only [Course.answers, Dispatcher.kill, List.mem_append, List.mem_map, Prod.mk.injEq] at h ⊢
  rcases h with h | h | ⟨lost, hlost, rfl, rfl⟩
  · exact .inl (.inl h)
  · exact .inl (.inr h)
  · exact .inr ⟨rfl, hlost.imp_right .inl⟩

theorem BreaksOff.step {c₁ : Course σ} (h : BreaksOff c' c₁) (hact : c₁.act? r a = some c) :
    BreaksOff c' c := by
  obtain ⟨⟨d', effects⟩, hd', rfl⟩ := Option.map_eq_some_iff.1 hact
  obtain ⟨hlost, hg, hw, rfl, hanswered⟩ := h.isLost.step hd'
  refine ⟨hlost, hg.trans h.aggregator, hw.trans h.receiver, ?_, ?_, ?_⟩
  · rw [List.append_nil, h.effects]
  · rw [calls_act? hd']
    exact Nat.le_add_right_of_le h.calls
  · intro answer hanswer
    rcases List.mem_append.1 hanswer with hanswer | hanswer
    · refine h.answers answer (List.mem_append.2 ?_)
      exact (List.mem_append.1 hanswer).imp_right mem_answered_of_told
    · -- the only call that can be answered anew is the one that has just begun
      rcases hanswered answer hanswer with hold | rfl
      · exact h.answers answer (List.mem_append_right _ hold)
      · exact .inr ⟨rfl, .inr (.inr h.calls)⟩

theorem breaksOff_run {past later : List Action} (hpast : run? r d past = some c')
    (hrun : run? r d (past ++ .kill :: later) = some c) : BreaksOff c' c := by
  induction later using List.reverseRecOn generalizing c with
  | nil =>
    obtain ⟨c₁, hc₁, hact⟩ := run?_snoc hrun
    obtain rfl := Option.some.inj (hpast.symm.trans hc₁)
    obtain ⟨⟨d', effects⟩, hd', rfl⟩ := Option.map_eq_some_iff.1 hact
    obtain ⟨-, hkill⟩ := Option.ite_none_right_eq_some.1 hd'
    obtain ⟨rfl, rfl⟩ := Prod.mk.inj (Option.some.inj hkill)
    simpa [told] using breaksOff_kill c'
  | append_singleton later a ih =>
    rw [← List.cons_append, ← List.append_assoc] at hrun
    obtain ⟨c₁, hc₁, hact⟩ := run?_snoc hrun
    exact (ih hc₁).step hact

/-! ## What is lost -/

variable {requests : List Request} {accepted : List Nat} {order : List Service}
  {outcomes : List (Option Nat × Outcome)}

/-- Whoever waits is not served yet, and neither is whoever has not called yet. -/
theorem Books.not_served (h : Books requests accepted order outcomes d)
    (hcall : call ∈ d.batches.calls ∨ call ∈ d.ruleLists.calls ∨ d.calls ≤ call) :
    call ∉ Service.calls order := by
  rcases hcall with hcall | hcall | hcall
  · obtain ⟨⟨events, hask⟩, hserved⟩ := h.batches.not_served hcall
    exact fun hin => hserved ((mem_callsOf hask).2 hin)
  · obtain ⟨⟨rules, hask⟩, hserved⟩ := h.ruleLists.not_served hcall
    exact fun hin => hserved ((mem_callsOf hask).2 hin)
  · rw [h.calls] at hcall
    exact fun hin => absurd (h.call_lt hin) (Nat.not_lt.2 hcall)

/-- What callers find after a dispatcher was given up, where an order explains what happened before. -/
structure FindsClosed (r : Receiver σ) (d : Dispatcher σ) (actions : List Action)
    (order : List Service) (c' c : Course σ) : Prop where
  aggregator : c.dispatcher.aggregator = c'.dispatcher.aggregator
  receiver : c.dispatcher.receiver = c'.dispatcher.receiver
  effects : c.effects = c'.effects
  /-- An answer is from before and says what came of the request, or it says that the dispatcher is
  closed. -/
  answers : ∀ answer ∈ c.answers,
    answer ∈ c'.answers ∧ (some answer.1, .replied answer.2) ∈ d.outcomes r order ∨
      answer.2 = .error .closed ∧ answer.1 ∉ Service.calls order
  /-- Everybody has an answer or can take it. -/
  attends : ∀ call < (Action.requests actions).length, .abandon call ∉ actions →
    (∃ reply, (call, reply) ∈ c.replies) ∨ (c.dispatcher.act? r (.finish call)).isSome
  /-- Whoever closes the handle does not wait. -/
  close : c.dispatcher.isHeld = true →
    ∃ d', c.dispatcher.act? r .close = some (d', []) ∧ d'.IsClosed
  isClosed : c.dispatcher.isHeld = false → c.dispatcher.IsClosed

/-- **Losing a dispatcher.** What was answered before had been served; everybody else is told that
it is closed, and nothing was done. -/
theorem leaves_nothing_half_done {past later : List Action} (hnew : new? settings w = some d)
    (hrun : run? r d (past ++ .kill :: later) = some c) :
    ∃ c' order, run? r d past = some c' ∧ Linearizes r d past c' order ∧
      FindsClosed r d (past ++ .kill :: later) order c' c := by
  obtain ⟨c₁, hc₁⟩ := run?_append (List.append_assoc past [.kill] later ▸ hrun)
  obtain ⟨c', effects, hc', hkill⟩ := run?_last hc₁
  obtain ⟨halive, -⟩ := Option.ite_none_right_eq_some.1 hkill
  obtain ⟨order, haccords⟩ := accords_run hnew hc' (not_mem_kill_of_isAlive hnew hc' halive)
  have hoff := breaksOff_run hc' hrun
  obtain ⟨-, hsignal, hbatches, hruleLists⟩ := hoff.isLost
  have htold : c.dispatcher.signal ≠ .pending := by simp [hsignal]
  refine ⟨c', order, hc', haccords.linearizes, hoff.aggregator, hoff.receiver, hoff.effects, ?_, ?_,
    ?_, ?_⟩
  · intro answer hanswer
    rcases hoff.answers answer hanswer with hbefore | ⟨hclosed, hwaits⟩
    · refine .inl ⟨hbefore, ?_⟩
      rcases List.mem_append.1 hbefore with hbefore | hbefore
      · exact haccords.replies answer hbefore
      · exact haccords.books.answered answer hbefore
    · exact .inr ⟨hclosed, haccords.books.not_served hwaits⟩
  · intro call hcall hkept
    refine (mem_callers_or_replied hnew hrun hcall hkept).symm.imp_right fun hwaits => ?_
    rw [mem_callers, hbatches, hruleLists] at hwaits
    simp only [List.not_mem_nil, false_or] at hwaits
    obtain ⟨answer, hanswer, rfl⟩ := List.mem_map.1 hwaits
    rw [act?, Option.isSome_map, List.lookup_isSome_iff]
    exact ⟨answer, hanswer, beq_self_eq_true _⟩
  · intro hheld
    refine ⟨{ c.dispatcher with isHeld := false }, ?_, Bool.false_ne_true, htold⟩
    simp [act?, hheld, Channel.waiting_of_calls hbatches, Channel.waiting_of_calls hruleLists]
  · intro hclosed
    exact ⟨by simp [hclosed], htold⟩

/-- A list of rules is served, one batch is lost in its channel, one as it waits for room, and one
comes too late. -/
theorem leaves_nothing_half_done_full :
    let r : Receiver Unit := ⟨fun w _ => ⟨w, .ok (), []⟩⟩
    let past : List Action :=
      [.start, .call (.rules [⟨0, {}⟩]), .accept 0, .serveRules, .call (.batch []), .accept 1,
        .call (.batch [])]
    let later : List Action :=
      [.call (.batch []), .finish 3, .finish 2, .finish 1, .finish 0]
    ∃ d c, new? {} () = some d ∧ run? r d (past ++ .kill :: later) = some c ∧
      c.replies = [(3, .error .closed), (2, .error .closed), (1, .error .closed), (0, .ok ())] ∧
      ∃ c' order, run? r d past = some c' ∧ Linearizes r d past c' order ∧
        FindsClosed r d (past ++ .kill :: later) order c' c := by
  intro r past later
  have hreplies : ((new? {} ()).bind fun d =>
      run? r d (past ++ .kill :: later)).map (·.replies) =
        some [(3, .error .closed), (2, .error .closed), (1, .error .closed), (0, .ok ())] := by
    decide +kernel
  obtain ⟨c, hcourse, hreplies⟩ := Option.map_eq_some_iff.1 hreplies
  obtain ⟨d, hnew, hrun⟩ := Option.bind_eq_some_iff.1 hcourse
  exact ⟨d, c, hnew, hrun, hreplies, leaves_nothing_half_done hnew hrun⟩

end Dispatcher

end Alerting
