import Alerting.Proofs.Dispatcher.Abandoning

/-!
# Giving up a call in time

Whichever callers give up once their requests are accepted, everything goes on as if they waited,
save that nobody waits for their answers: one order of services explains both courses. A call that
is given up before its request is accepted, and before it is told that the dispatcher is closed,
leaves nothing behind. Everything goes on as if it had never been begun, save that the calls after
it have other numbers.
-/

namespace Alerting

namespace Labelling

variable {β : Type} {g : Labelling} {n m calls : Nat}

/-- All calls but this one. Those that were begun later move up. -/
def closeUp (n : Nat) : Labelling := fun m =>
  if m < n then some m else if m = n then none else some (m - 1)

theorem closeUp_eq_some_iff {k : Nat} :
    closeUp n m = some k ↔ (m < n ∧ m = k) ∨ (n < m ∧ m = k + 1) := by
  unfold closeUp
  split
  · simp
    omega
  · split
    · simp
      omega
    · simp
      omega

theorem closeUp_eq_none_iff : closeUp n m = none ↔ m = n := by
  unfold closeUp
  split
  · simp
    omega
  · simp

theorem continues_closeUp (h : n < calls) : (closeUp n).Continues calls where
  separates := by
    intro i j k hi hj
    rw [closeUp_eq_some_iff] at hi hj
    omega
  next := by
    intro i hi
    refine ⟨i - 1, ?_, ?_⟩ <;> rw [closeUp_eq_some_iff] <;> omega

theorem pairs_eq_self {l : List (Nat × β)} (h : ∀ e ∈ l, g e.1 = some e.1) : g.pairs l = l := by
  induction l with
  | nil => rfl
  | cons e rest ih =>
    rw [pairs_cons_some (h e List.mem_cons_self), ih fun e he => h e (List.mem_cons_of_mem _ he)]

theorem pairs_snoc_none (hn : g n = none) (l : List (Nat × β)) (x : β) :
    g.pairs (l ++ [(n, x)]) = g.pairs l := by
  rw [pairs_append, pairs_cons_none hn]
  exact List.append_nil _

theorem pairs_filter (hn : g n = none) (l : List (Nat × β)) :
    g.pairs (l.filter (·.1 ≠ n)) = g.pairs l := by
  unfold pairs
  rw [List.filterMap_filter]
  congr 1
  funext e
  by_cases h : e.1 = n <;> simp [h, hn]

end Labelling

namespace Channel

variable {α : Type} {g : Labelling} {c : Channel α} {n : Nat}

theorem relabel_eq_self (h : ∀ call ∈ c.calls, g call = some call) : c.relabel g = c := by
  have hwaiting : g.pairs c.waiting = c.waiting := Labelling.pairs_eq_self fun w hw =>
    h w.1 (List.mem_append_left _ (List.mem_map_of_mem hw))
  have hqueue : c.queue.map (fun q => (q.1.bind g, q.2)) = c.queue.map id := by
    apply List.map_congr_left
    rintro ⟨_ | caller, x⟩ hq
    · rfl
    · have hcaller : caller ∈ c.calls := List.mem_append_right _ (List.mem_filterMap.2 ⟨_, hq, rfl⟩)
      simp [h caller hcaller]
  rw [List.map_id] at hqueue
  unfold relabel
  rw [hwaiting, hqueue]

theorem relabel_join (hn : g n = none) (x : α) : (c.join n x).relabel g = c.relabel g := by
  unfold relabel join
  rw [Labelling.pairs_snoc_none hn]

theorem relabel_abandon (hn : g n = none) : (c.abandon n).relabel g = c.relabel g := by
  unfold relabel abandon
  rw [Labelling.pairs_filter hn, List.map_map]
  congr 2
  funext q
  obtain ⟨caller, x⟩ := q
  cases caller with
  | none => rfl
  | some call => by_cases h : call = n <;> simp [h, hn]

end Channel

namespace Dispatcher

variable {σ : Type} {r : Receiver σ} {d : Dispatcher σ} {actions : List Action} {c : Course σ}
  {n : Nat} {settings : Settings} {w : σ}

theorem relabel_abandon {g : Labelling} (hn : g n = none) (d : Dispatcher σ) :
    (d.abandon n).relabel g = d.relabel g := by
  simp only [relabel, abandon, Channel.relabel_abandon hn, Labelling.pairs_filter hn]

theorem relabel_eq_self {g : Labelling} (h : ∀ call ∈ d.callers, g call = some call)
    (hcalls : (g d.calls).getD d.calls = d.calls) : d.relabel g = d := by
  have hbatches := Channel.relabel_eq_self fun call hcall => h call (mem_callers.2 (.inl hcall))
  have hruleLists := Channel.relabel_eq_self fun call hcall =>
    h call (mem_callers.2 (.inr (.inl hcall)))
  have hanswered := Labelling.pairs_eq_self fun answer hanswer =>
    h answer.1 (mem_callers.2 (.inr (.inr (List.mem_map_of_mem hanswer))))
  unfold relabel
  rw [hbatches, hruleLists, hanswered, hcalls]

theorem closeUp_begin (request : Request) (h : ∀ call ∈ d.callers, call < d.calls) :
    (d.begin request).relabel (.closeUp d.calls) = d := by
  have hn := (Labelling.closeUp_eq_none_iff (n := d.calls)).2 rfl
  have hnext : Labelling.closeUp d.calls (d.calls + 1) = some d.calls := by
    rw [Labelling.closeUp_eq_some_iff]
    omega
  have hsame : d.relabel (.closeUp d.calls) = d := by
    refine relabel_eq_self (fun call hcall => ?_) (by rw [hn]; rfl)
    rw [Labelling.closeUp_eq_some_iff]
    exact .inl ⟨h call hcall, rfl⟩
  refine Eq.trans ?_ hsame
  unfold begin relabel
  split
  · cases request <;> simp only [Channel.relabel_join hn, hnext, hn] <;> rfl
  · simp only [Labelling.pairs_snoc_none hn, hnext, hn]
    rfl

theorem closeUp_run {past later : List Action} {request : Request} (hnew : new? settings w = some d)
    (hn : n = (Action.requests past).length)
    (hrun : run? r d (past ++ .call request :: later) = some c)
    (haccept : .accept n ∉ later) (hfinish : .finish n ∉ later) :
    run? r d (past ++ later.filterMap (Action.relabel (.closeUp n))) =
        some (c.relabel (.closeUp n)) ∧
      ∀ reply, (n, reply) ∉ c.replies := by
  induction later using List.reverseRecOn generalizing c with
  | nil =>
    obtain ⟨c', hc', hact⟩ := run?_snoc hrun
    obtain ⟨⟨d', effects⟩, hd', rfl⟩ := Option.map_eq_some_iff.1 hact
    obtain ⟨-, hbegin⟩ := Option.ite_none_right_eq_some.1 hd'
    obtain ⟨rfl, rfl⟩ := Prod.mk.inj (Option.some.inj hbegin)
    rw [← calls_run hnew hc'] at hn
    subst hn
    have hreplies : (Labelling.closeUp c'.dispatcher.calls).pairs c'.replies = c'.replies := by
      apply Labelling.pairs_eq_self
      intro answer hanswer
      rw [Labelling.closeUp_eq_some_iff]
      exact .inl ⟨lt_calls_of_mem_replies hnew hc' hanswer, rfl⟩
    refine ⟨?_, fun reply hreply => ?_⟩
    · simp only [Course.relabel, told, List.append_nil, List.filterMap_nil, hreplies,
        closeUp_begin request fun call => lt_calls_of_mem_callers hnew hc']
      exact hc'
    · simp only [told, List.append_nil] at hreply
      exact absurd (lt_calls_of_mem_replies hnew hc' hreply) (Nat.lt_irrefl _)
  | append_singleton later a ih =>
    rw [← List.cons_append, ← List.append_assoc] at hrun
    obtain ⟨c', hc', hact⟩ := run?_snoc hrun
    rw [List.mem_append, not_or, List.mem_singleton] at haccept hfinish
    obtain ⟨hsame, hreplies⟩ := ih hc' haccept.1 hfinish.1
    have hbegun : n < c'.dispatcher.calls := by
      rw [calls_run hnew hc', hn, Action.requests_append, List.length_append]
      simp [Action.requests, Action.begun?]
    refine ⟨?_, ?_⟩
    · cases ha : a.relabel (.closeUp n) with
      | some a' =>
        rw [List.filterMap_append, List.filterMap_cons_some ha, ← List.append_assoc]
        exact run?_snoc_eq hsame (Course.act?_relabel (Labelling.continues_closeUp hbegun) ha hact)
      | none =>
        obtain ⟨m, hm, h⟩ := Action.exists_of_relabel ha
        obtain rfl := Labelling.closeUp_eq_none_iff.1 hm
        rcases h with rfl | rfl | rfl
        · exact absurd rfl haccept.2
        -- the call has no number any more, so giving it up changes nothing
        · rw [Course.act?_abandon, Option.some.injEq] at hact
          subst hact
          rw [List.filterMap_append, List.filterMap_cons_none ha, List.filterMap_nil,
            List.append_nil, hsame]
          simp only [Course.relabel, Course.abandon, relabel_abandon hm]
        · exact absurd rfl hfinish.2
    · intro reply hreply
      obtain ⟨⟨d', effects⟩, hd', rfl⟩ := Option.map_eq_some_iff.1 hact
      rcases List.mem_append.1 hreply with hreply | hreply
      · exact hreplies reply hreply
      · exact hfinish.2 (eq_finish_of_told hreply).symm

theorem unknown_of_abandon {past later : List Action} (hnew : new? settings w = some d)
    (hn : n < (Action.requests past).length)
    (hrun : run? r d (past ++ .abandon n :: later) = some c) :
    n ∉ c.dispatcher.callers ∧ .accept n ∉ later ∧ .finish n ∉ later := by
  induction later using List.reverseRecOn generalizing c with
  | nil =>
    obtain ⟨c', hc', hact⟩ := run?_snoc hrun
    rw [Course.act?_abandon, Option.some.injEq] at hact
    subst hact
    simp [Course.abandon, callers_abandon]
  | append_singleton later a ih =>
    rw [← List.cons_append, ← List.append_assoc] at hrun
    obtain ⟨c', effects, hc', hact⟩ := run?_last hrun
    obtain ⟨hunknown, haccept, hfinish⟩ := ih hc'
    have haccept' : a ≠ .accept n := by
      rintro rfl
      rw [act?_accept_of_unknown hunknown] at hact
      cases hact
    have hfinish' : a ≠ .finish n := by
      rintro rfl
      rw [act?_finish_of_unknown hunknown] at hact
      cases hact
    have hold : n ≠ c'.dispatcher.calls := by
      rw [calls_run hnew hc', Action.requests_append, List.length_append]
      omega
    rw [mem_callers_step hact hfinish']
    simp [hunknown, hold, haccept, hfinish, haccept'.symm, hfinish'.symm]

/-! ## Giving up at any time -/

/-- **Giving up.** A run in which callers give up is the one in which they wait, or never called,
save for their answers. -/
theorem giving_up_is_not_noticed (hnew : new? settings w = some d)
    (hrun : run? r d actions = some c) :
    (∀ S : Nat → Bool, LeavesAfterAcceptance S actions →
      ∃ c', run? r d (actions.filter (!·.leaves S)) = some c' ∧ c.SameBut S c' ∧
        (.kill ∉ actions → ∃ order, Accords r d actions c order ∧
          Accords r d (actions.filter (!·.leaves S)) c' order ∧
          (.stop ∈ actions → (Service.calls order).Perm (Action.accepted actions)))) ∧
    ∀ past request mid n rest, actions = past ++ .call request :: (mid ++ .abandon n :: rest) →
      n = (Action.requests past).length → .accept n ∉ mid → .finish n ∉ mid →
        run? r d (past ++ (mid ++ rest).filterMap (Action.relabel (.closeUp n))) =
            some (c.relabel (.closeUp n)) ∧
          n ∉ c.dispatcher.callers ∧ ∀ reply, (n, reply) ∉ c.replies := by
  refine ⟨?_, ?_⟩
  · intro S hafter
    have hlast := run?_staying hnew hrun hafter
    obtain ⟨c', hc'⟩ := run?_append hlast
    obtain ⟨hsame, hbooks⟩ := sameBut_of_leaving hnew hc' hlast fun a ha => by
      rw [Action.accepted_staying]
      exact hafter.accepted ha
    refine ⟨c', hc', hsame, fun hkill => ?_⟩
    have hkill' : .kill ∉ actions.filter (!·.leaves S) := fun h => hkill (List.mem_of_mem_filter h)
    obtain ⟨order, haccords⟩ := accords_run hnew hc' hkill'
    have hbooks' := hbooks haccords.books
    rw [Action.requests_staying, Action.accepted_staying] at hbooks'
    have haccords' := haccords.of_staying hsame hbooks'
    exact ⟨order, haccords', haccords, haccords'.perm_of_stop_mem hnew hrun⟩
  · rintro past request mid n rest rfl hn haccept hfinish
    have hsplit : past ++ .call request :: (mid ++ .abandon n :: rest) =
        past ++ .call request :: mid ++ .abandon n :: rest := by simp
    have hbegun : n < (Action.requests (past ++ .call request :: mid)).length := by
      rw [hn, Action.requests_append, List.length_append]
      simp [Action.requests, Action.begun?]
    obtain ⟨hunknown, haccept', hfinish'⟩ := unknown_of_abandon hnew hbegun (hsplit ▸ hrun)
    obtain ⟨hsame, hreplies⟩ := closeUp_run hnew hn hrun (by simp [haccept, haccept'])
      (by simp [hfinish, hfinish'])
    have hnone : Action.relabel (.closeUp n) (.abandon n) = none := by
      rw [Action.relabel, Labelling.closeUp_eq_none_iff.2 rfl, Option.map_none]
    rw [List.filterMap_append, List.filterMap_cons_none hnone, ← List.filterMap_append] at hsame
    exact ⟨hsame, hunknown, hreplies⟩

/-- One caller gives up while its batch is queued, and one while its batch waits for room. -/
theorem giving_up_is_not_noticed_twice :
    let r : Receiver Unit := ⟨fun w _ => ⟨w, .ok (), []⟩⟩
    let actions : List Action :=
      [.start, .call (.rules [⟨0, {}⟩]), .accept 0, .call (.batch [{ createdAt := .epoch }]), .accept 1,
        .call (.batch []), .abandon 1, .abandon 2, .serveRules, .serveBatch .epoch, .finish 0, .close,
        .leaveRules, .leaveBatches, .stop]
    ∃ d c, new? {} () = some d ∧ run? r d actions = some c ∧
      c.replies = [(0, .ok ())] ∧
      (∃ c', run? r d [.start, .call (.rules [⟨0, {}⟩]), .accept 0,
          .call (.batch [{ createdAt := .epoch }]), .accept 1, .call (.batch []), .abandon 2, .serveRules,
          .serveBatch .epoch, .finish 0, .close, .leaveRules, .leaveBatches, .stop] = some c' ∧
        c.SameBut (· = 1) c' ∧
        ∃ order, Accords r d actions c order ∧ (Service.calls order).Perm [0, 1]) ∧
      run? r d [.start, .call (.rules [⟨0, {}⟩]), .accept 0,
        .call (.batch [{ createdAt := .epoch }]), .accept 1, .abandon 1, .serveRules,
        .serveBatch .epoch, .finish 0, .close, .leaveRules, .leaveBatches, .stop] =
          some (c.relabel (.closeUp 2)) := by
  intro r actions
  have hreplies : ((new? {} ()).bind fun d => run? r d actions).map (·.replies) =
      some [(0, .ok ())] := by
    decide +kernel
  obtain ⟨c, hcourse, hreplies⟩ := Option.map_eq_some_iff.1 hreplies
  obtain ⟨d, hnew, hrun⟩ := Option.bind_eq_some_iff.1 hcourse
  obtain ⟨hstaying, hdropped⟩ := giving_up_is_not_noticed hnew hrun
  have hafter : LeavesAfterAcceptance (· = 1) actions := by
    intro past n later hsplit hn
    obtain rfl := of_decide_eq_true hn
    simp [actions, List.cons_eq_append_iff] at hsplit
    simp [hsplit, Action.accepted, Action.accepted?]
  obtain ⟨c', hc', hsame, horder⟩ := hstaying _ hafter
  obtain ⟨order, haccords, -, hperm⟩ := horder (by simp [actions])
  have hdropped := (hdropped (actions.take 5) (.batch []) [.abandon 1] 2 (actions.drop 8) rfl rfl
    (by simp) (by simp)).1
  exact ⟨d, c, hnew, hrun, hreplies, ⟨c', hc', hsame, order, haccords, hperm (by simp [actions])⟩,
    hdropped⟩

end Dispatcher

end Alerting
