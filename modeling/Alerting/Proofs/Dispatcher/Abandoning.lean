import Alerting.Proofs.Dispatcher.Callers
import Alerting.Proofs.Dispatcher.Relabelling

/-!
# Giving up a call

A caller may give up while its request is queued or being served. Doing so could as well happen at the
very end: the request keeps its place and is served there, and nobody but the caller notices.
-/

namespace Alerting

open Request

namespace Labelling

variable {β : Type} {n m calls : Nat}

/-- All calls but this one, under their old numbers. -/
def allBut (n : Nat) : Labelling := fun m => if m = n then none else some m

theorem allBut_eq_some_iff {k : Nat} : allBut n m = some k ↔ m = k ∧ m ≠ n := by
  unfold allBut
  split <;> simp_all

theorem allBut_eq_none_iff : allBut n m = none ↔ m = n := by
  unfold allBut
  split <;> simp_all

theorem continues_allBut (h : n < calls) : (allBut n).Continues calls where
  separates := by
    intro i j k hi hj
    rw [allBut_eq_some_iff] at hi hj
    omega
  next := by
    intro i hi
    refine ⟨i, ?_, ?_⟩ <;> rw [allBut_eq_some_iff] <;> omega

theorem pairs_allBut (l : List (Nat × β)) : (allBut n).pairs l = l.filter (·.1 ≠ n) := by
  rw [pairs, ← List.filterMap_eq_filter]
  congr 1
  funext e
  by_cases h : e.1 = n <;> simp [allBut, h, Option.guard]

end Labelling

namespace Channel

variable {α : Type} {c c' : Channel α} {n : Nat} {S : Nat → Bool}

/-- Two channels hold the same, save for which of these callers still wait for their answers. -/
structure SameBut (S : Nat → Bool) (c c' : Channel α) : Prop where
  isOpen : c.isOpen = c'.isOpen
  waiting : c.waiting = c'.waiting
  queue : c.queue.map (fun q => (q.1.filter (!S ·), q.2)) =
    c'.queue.map (fun q => (q.1.filter (!S ·), q.2))

theorem SameBut.abandon (h : c.SameBut S c') (hn : S n = true) (hwaits : n ∉ c.waiting.map (·.1)) :
    (c.abandon n).SameBut S c' where
  isOpen := h.isOpen
  waiting := by
    rw [← h.waiting]
    apply List.filter_eq_self.2
    intro w hw
    exact decide_eq_true fun hcall => hwaits (hcall ▸ List.mem_map_of_mem hw)
  queue := by
    rw [← h.queue, Channel.abandon, List.map_map]
    congr 1
    funext q
    obtain ⟨caller, x⟩ := q
    cases caller with
    | none => rfl
    | some call => by_cases hcall : call = n <;> simp [Option.filter, hcall, hn]

theorem waiting_accept? {capacity : Nat} (haccept : c.accept? capacity n = some c') :
    c'.waiting ⊆ c.waiting := by
  obtain ⟨x, -, rfl⟩ := exists_of_accept? haccept
  exact List.filter_subset_self _

theorem accept?_of_unknown {capacity : Nat} (h : n ∉ c.calls) :
    c.accept? capacity n = none := by
  rw [Option.eq_none_iff_forall_ne_some]
  intro c' haccept
  obtain ⟨x, hwaits, -⟩ := exists_of_accept? haccept
  exact h (List.mem_append_left _ (List.mem_map_of_mem hwaits))

theorem abandon_eq_relabel (n : Nat) (c : Channel α) : c.abandon n = c.relabel (.allBut n) := by
  unfold abandon relabel
  rw [Labelling.pairs_allBut]
  congr 2
  funext q
  obtain ⟨caller, x⟩ := q
  cases caller with
  | none => rfl
  | some call => by_cases h : call = n <;> simp [Labelling.allBut, h]

end Channel

namespace Action

variable {a a' : Action} {g : Labelling} {n : Nat}

theorem relabel_allBut (h : a.relabel (.allBut n) = some a') : a = a' := by
  cases a <;> simp_all [relabel, Labelling.allBut_eq_some_iff]

theorem exists_of_relabel (h : a.relabel g = none) :
    ∃ m, g m = none ∧ (a = .accept m ∨ a = .abandon m ∨ a = .finish m) := by
  cases a with
  | accept m => exact ⟨m, Option.map_eq_none_iff.1 h, .inl rfl⟩
  | abandon m => exact ⟨m, Option.map_eq_none_iff.1 h, .inr (.inl rfl)⟩
  | finish m => exact ⟨m, Option.map_eq_none_iff.1 h, .inr (.inr rfl)⟩
  | _ => cases h

end Action

namespace Dispatcher

variable {σ : Type} {r : Receiver σ} {d d' : Dispatcher σ} {a : Action} {actions : List Action}
  {effects : List Effect} {c c' : Course σ} {n : Nat}

theorem abandon_eq_relabel (n : Nat) (d : Dispatcher σ) : d.abandon n = d.relabel (.allBut n) := by
  have hcalls : (Labelling.allBut n d.calls).getD d.calls = d.calls := by
    by_cases h : d.calls = n <;> simp [Labelling.allBut, h]
  simp only [abandon, relabel, Channel.abandon_eq_relabel, Labelling.pairs_allBut, hcalls]

theorem eq_finish_of_told {answer : Nat × Reply} (h : answer ∈ d.told a) : a = .finish answer.1 := by
  cases a with
  | finish m =>
    obtain ⟨reply, -, rfl⟩ := Option.map_eq_some_iff.1 (Option.mem_toList.1 h)
    rfl
  | _ => exact absurd h List.not_mem_nil

theorem act?_accept_of_unknown (h : n ∉ d.callers) : d.act? r (.accept n) = none := by
  rw [mem_callers, not_or, not_or] at h
  simp [act?, accept?, Channel.accept?_of_unknown h.1, Channel.accept?_of_unknown h.2.1]

theorem act?_finish_of_unknown (h : n ∉ d.callers) : d.act? r (.finish n) = none := by
  rw [mem_callers, not_or, not_or] at h
  rw [act?, Option.map_eq_none_iff, List.lookup_eq_none_iff]
  intro answer hanswer
  exact bne_iff_ne.2 fun hn => h.2.2 (hn ▸ List.mem_map_of_mem hanswer)

/-! ## A call whose request is accepted -/

/-- The call was begun, and its request does not wait for room. -/
structure IsSettled (d : Dispatcher σ) (n : Nat) : Prop where
  begun : n < d.calls
  batches : n ∉ d.batches.waiting.map (·.1)
  ruleLists : n ∉ d.ruleLists.waiting.map (·.1)

theorem Books.isSettled {requests : List Request} {accepted : List Nat} {order : List Service}
    {outcomes : List (Option Nat × Outcome)} (h : Books requests accepted order outcomes d)
    (hn : n ∈ accepted) : d.IsSettled n := by
  have hbegun := h.known n hn
  obtain ⟨request, hask⟩ : ∃ request, requests[n]? = some request :=
    ⟨_, List.getElem?_eq_getElem hbegun⟩
  have hin := (mem_callsOf hask).2 hn
  refine ⟨h.calls ▸ hbegun, ?_, ?_⟩
  · intro hwaits
    obtain ⟨w, hw, rfl⟩ := List.mem_map.1 hwaits
    obtain rfl := Option.some.inj (hask.symm.trans (h.batches.waiting w hw))
    exact List.disjoint_of_nodup_append h.batches.once hwaits hin
  · intro hwaits
    obtain ⟨w, hw, rfl⟩ := List.mem_map.1 hwaits
    obtain rfl := Option.some.inj (hask.symm.trans (h.ruleLists.waiting w hw))
    exact List.disjoint_of_nodup_append h.ruleLists.once hwaits hin

theorem IsSettled.of_subset (h : d.IsSettled n) (hcalls : d.calls ≤ d'.calls)
    (hbatches : d'.batches.waiting ⊆ d.batches.waiting)
    (hruleLists : d'.ruleLists.waiting ⊆ d.ruleLists.waiting) : d'.IsSettled n where
  begun := Nat.lt_of_lt_of_le h.begun hcalls
  batches := fun hn => h.batches (List.map_subset _ hbatches hn)
  ruleLists := fun hn => h.ruleLists (List.map_subset _ hruleLists hn)

theorem IsSettled.begin (h : d.IsSettled n) (request : Request) : (d.begin request).IsSettled n := by
  obtain ⟨hbegun, hbatches, hruleLists⟩ := h
  have hnew : n ≠ d.calls := Nat.ne_of_lt hbegun
  unfold Dispatcher.begin
  split
  · cases request with
    | batch events =>
      exact ⟨Nat.lt_succ_of_lt hbegun, by simp_all [Channel.join], hruleLists⟩
    | rules rules =>
      exact ⟨Nat.lt_succ_of_lt hbegun, hbatches, by simp_all [Channel.join]⟩
  · exact ⟨Nat.lt_succ_of_lt hbegun, hbatches, hruleLists⟩

theorem IsSettled.accept {m : Nat} (h : d.IsSettled n) (haccept : d.accept? m = some d') :
    d'.IsSettled n := by
  obtain ⟨batches, hbatches, rfl⟩ | ⟨ruleLists, hruleLists, rfl⟩ := accept?_cases haccept
  · exact h.of_subset (Nat.le_refl _) (Channel.waiting_accept? hbatches) (List.Subset.refl _)
  · exact h.of_subset (Nat.le_refl _) (List.Subset.refl _) (Channel.waiting_accept? hruleLists)

theorem IsSettled.step (h : d.IsSettled n) (hact : d.act? r a = some (d', effects)) :
    d'.IsSettled n := by
  cases happens_of_act? hact with
  | call request hheld => exact h.begin request
  | accept m _ halive haccept => exact h.accept haccept
  | abandon m =>
    exact h.of_subset (Nat.le_refl _) (List.filter_subset_self _) (List.filter_subset_self _)
  | kill halive => exact h.of_subset (Nat.le_refl _) (List.nil_subset _) (List.nil_subset _)
  | serveBatch _ _ _ _ _ _ _ turn hturn | serveRules _ _ _ _ _ _ turn hturn
    | sweep _ _ _ turn hturn =>
    subst hturn
    exact h.of_subset (Nat.le_refl _) (List.Subset.refl _) (List.Subset.refl _)
  | finish | close | start | leaveBatches | leaveRules | stop =>
    exact h.of_subset (Nat.le_refl _) (List.Subset.refl _) (List.Subset.refl _)

variable {settings : Settings} {w : σ}

theorem isSettled_run (hnew : new? settings w = some d) (hrun : run? r d actions = some c)
    (hn : n ∈ Action.accepted actions) : c.dispatcher.IsSettled n := by
  induction actions using List.reverseRecOn generalizing c with
  | nil => exact absurd hn List.not_mem_nil
  | append_singleton actions a ih =>
    obtain ⟨c', effects, hc', hact⟩ := run?_last hrun
    have hn' := hn
    rw [Action.accepted_append, List.mem_append] at hn
    rcases hn with hn | hn
    · exact (ih hc' hn).step hact
    · cases a with
      | accept m =>
        -- nothing is accepted by a dispatcher that was given up, so the books say who waits
        obtain ⟨halive, -⟩ := Option.ite_none_right_eq_some.1 hact
        have hkill : .kill ∉ actions ++ [.accept m] := by
          simp [not_mem_kill_of_isAlive hnew hc' halive]
        obtain ⟨order, haccords⟩ := accords_run hnew hrun hkill
        exact haccords.books.isSettled hn'
      | _ => exact absurd hn List.not_mem_nil

/-- What happens after an accepted call was given up can happen just as well before that. -/
theorem act?_of_abandon (hn : d.IsSettled n)
    (hact : (d.abandon n).act? r a = some (d', effects)) :
    ∃ d₁, d.act? r a = some (d₁, effects) ∧ d' = d₁.abandon n ∧ (d.abandon n).told a = d.told a := by
  have hg := Labelling.continues_allBut hn.begun
  have hclose : a = .close → ∀ call, Labelling.allBut n call = none →
      call ∉ d.batches.waiting.map (·.1) ∧ call ∉ d.ruleLists.waiting.map (·.1) := by
    rintro - call hcall
    obtain rfl := Labelling.allBut_eq_none_iff.1 hcall
    exact ⟨hn.batches, hn.ruleLists⟩
  cases ha : a.relabel (.allBut n) with
  | some a' =>
    -- an action of another call, or of none: it has nothing to do with who waits for the answer
    obtain rfl := Action.relabel_allBut ha
    rw [abandon_eq_relabel, act?_relabel hg ha hclose] at hact
    obtain ⟨⟨d₁, effects⟩, hd₁, heq⟩ := Option.map_eq_some_iff.1 hact
    obtain ⟨rfl, rfl⟩ := Prod.mk.inj heq
    refine ⟨d₁, hd₁, (abandon_eq_relabel n d₁).symm, ?_⟩
    rw [abandon_eq_relabel, told_relabel hg.separates ha, Labelling.pairs_allBut, List.filter_eq_self]
    intro answer hanswer
    obtain rfl := eq_finish_of_told hanswer
    obtain ⟨k, hk, -⟩ := Option.map_eq_some_iff.1 ha
    exact decide_eq_true (Labelling.allBut_eq_some_iff.1 hk).2
  | none =>
    obtain ⟨m, hm, h⟩ := Action.exists_of_relabel ha
    obtain rfl := Labelling.allBut_eq_none_iff.1 hm
    -- nobody knows the call any more, so it can be neither let in nor answered
    have hgone : m ∉ (d.abandon m).callers := by simp [callers_abandon]
    rcases h with rfl | rfl | rfl
    · rw [act?_accept_of_unknown hgone] at hact
      cases hact
    · obtain ⟨rfl, rfl⟩ := Prod.mk.inj (Option.some.inj hact)
      exact ⟨d.abandon m, rfl, rfl, rfl⟩
    · rw [act?_finish_of_unknown hgone] at hact
      cases hact

/-- A course whose last event is that a call is given up. -/
def Course.abandon (n : Nat) (c : Course σ) : Course σ :=
  { c with dispatcher := c.dispatcher.abandon n }

theorem Course.act?_abandon (c : Course σ) : c.act? r (.abandon n) = some (c.abandon n) := by
  simp [Course.act?, Dispatcher.act?, told, Course.abandon]

theorem Course.act?_of_abandon (hn : c.dispatcher.IsSettled n)
    (hact : (c.abandon n).act? r a = some c') :
    ∃ c₁, c.act? r a = some c₁ ∧ c' = c₁.abandon n := by
  obtain ⟨⟨d', effects⟩, hd', rfl⟩ := Option.map_eq_some_iff.1 hact
  obtain ⟨d₁, hd₁, rfl, htold⟩ := Dispatcher.act?_of_abandon hn hd'
  refine ⟨⟨d₁, c.effects ++ effects, c.replies ++ c.dispatcher.told a⟩, ?_, ?_⟩
  · rw [Course.act?, hd₁, Option.map_some]
  · rw [← htold]
    rfl

theorem run?_swap (hnew : new? settings w = some d) (hn : n ∈ Action.accepted actions)
    (hrun : run? r d (actions ++ [.abandon n] ++ [a]) = some c) :
    run? r d (actions ++ [a] ++ [.abandon n]) = some c := by
  obtain ⟨c₁, hc₁, hact⟩ := run?_snoc hrun
  obtain ⟨c', hc', habandon⟩ := run?_snoc hc₁
  rw [Course.act?_abandon, Option.some.injEq] at habandon
  subst habandon
  obtain ⟨c₂, hc₂, rfl⟩ := Course.act?_of_abandon (isSettled_run hnew hc' hn) hact
  exact run?_snoc_eq (run?_snoc_eq hc' hc₂) (Course.act?_abandon c₂)

theorem run?_before {left : List Action} (hnew : new? settings w = some d)
    (hleft : ∀ a' ∈ left, ∃ n ∈ Action.accepted actions, a' = .abandon n)
    (hrun : run? r d (actions ++ left ++ [a]) = some c) :
    run? r d (actions ++ [a] ++ left) = some c := by
  induction left using List.reverseRecOn generalizing c with
  | nil => simpa using hrun
  | append_singleton left a' ih =>
    obtain ⟨n, hn, rfl⟩ := hleft a' (List.mem_append_right _ (List.mem_singleton_self _))
    have hn' : n ∈ Action.accepted (actions ++ left) := by
      rw [Action.accepted_append]
      exact List.mem_append_left _ hn
    rw [← List.append_assoc] at hrun
    obtain ⟨c₁, hc₁, hact⟩ := run?_snoc (run?_swap hnew hn' hrun)
    have hbefore := ih (fun a' ha' => hleft a' (List.mem_append_left _ ha')) hc₁
    rw [← List.append_assoc]
    exact run?_snoc_eq hbefore hact

end Dispatcher

namespace Action

variable {actions : List Action} {S : Nat → Bool}

/-- The action is that one of these callers gives up. -/
def leaves (S : Nat → Bool) : Action → Bool
  | .abandon n => S n
  | _ => false

theorem eq_abandon_of_leaves {a : Action} (h : a.leaves S = true) : ∃ n, S n = true ∧ a = .abandon n := by
  cases a with
  | abandon n => exact ⟨n, h, rfl⟩
  | _ => cases h

theorem filterMap_staying {β : Type} {f : Action → Option β} (hf : ∀ n, f (.abandon n) = none)
    (actions : List Action) : (actions.filter (!·.leaves S)).filterMap f = actions.filterMap f := by
  induction actions with
  | nil => rfl
  | cons a rest ih =>
    cases ha : a.leaves S with
    | true =>
      obtain ⟨n, -, rfl⟩ := eq_abandon_of_leaves ha
      rw [List.filter_cons_of_neg (by simp [ha]), ih, List.filterMap_cons_none (hf n)]
    | false => rw [List.filter_cons_of_pos (by simp [ha]), List.filterMap_cons, List.filterMap_cons, ih]

theorem requests_staying (actions : List Action) :
    requests (actions.filter (!·.leaves S)) = requests actions :=
  filterMap_staying (fun _ => rfl) actions

theorem accepted_staying (actions : List Action) :
    accepted (actions.filter (!·.leaves S)) = accepted actions :=
  filterMap_staying (fun _ => rfl) actions

end Action

namespace Dispatcher

variable {σ : Type} {r : Receiver σ} {d : Dispatcher σ} {a : Action} {actions : List Action}
  {c c' : Course σ} {n : Nat} {settings : Settings} {w : σ} {S : Nat → Bool}

/-- Each of these callers gives up only when its request is accepted. -/
def LeavesAfterAcceptance (S : Nat → Bool) (actions : List Action) : Prop :=
  ∀ past n later, actions = past ++ .abandon n :: later → S n = true → n ∈ Action.accepted past

theorem LeavesAfterAcceptance.of_snoc (h : LeavesAfterAcceptance S (actions ++ [a])) :
    LeavesAfterAcceptance S actions := by
  rintro past n later rfl hn
  exact h past n (later ++ [a]) (by simp) hn

theorem LeavesAfterAcceptance.accepted (h : LeavesAfterAcceptance S actions)
    (ha : a ∈ actions.filter (·.leaves S)) :
    ∃ n ∈ Action.accepted actions, S n = true ∧ a = .abandon n := by
  obtain ⟨hmem, hleaves⟩ := List.mem_filter.1 ha
  obtain ⟨n, hn, rfl⟩ := Action.eq_abandon_of_leaves hleaves
  obtain ⟨past, later, rfl⟩ := List.append_of_mem hmem
  rw [Action.accepted_append]
  exact ⟨n, List.mem_append_left _ (h past n later rfl hn), hn, rfl⟩

/-- Callers whose requests are accepted could as well all give up at the very end. -/
theorem run?_staying (hnew : new? settings w = some d) (hrun : run? r d actions = some c)
    (hafter : LeavesAfterAcceptance S actions) :
    run? r d (actions.filter (!·.leaves S) ++ actions.filter (·.leaves S)) = some c := by
  induction actions using List.reverseRecOn generalizing c with
  | nil => exact hrun
  | append_singleton actions a ih =>
    obtain ⟨c', hc', hact⟩ := run?_snoc hrun
    have hlast := run?_snoc_eq (ih hc' hafter.of_snoc) hact
    rw [List.filter_append, List.filter_append]
    cases ha : a.leaves S with
    | true =>
      rw [List.filter_cons_of_neg (by simp [ha]), List.filter_cons_of_pos ha, List.filter_nil,
        List.filter_nil, List.append_nil, ← List.append_assoc]
      exact hlast
    | false =>
      -- an action that stays moves in front of all who have left so far
      rw [List.filter_cons_of_pos (by simp [ha]), List.filter_cons_of_neg (by simp [ha]),
        List.filter_nil, List.filter_nil, List.append_nil]
      refine run?_before hnew (fun a' ha' => ?_) hlast
      rw [Action.accepted_staying]
      obtain ⟨n, haccepted, -, rfl⟩ := hafter.of_snoc.accepted ha'
      exact ⟨n, haccepted, rfl⟩

/-! ## What is the same -/

/-- Two courses are the same, save for which of these callers still wait for their answers. -/
structure Course.SameBut (S : Nat → Bool) (c c' : Course σ) : Prop where
  aggregator : c.dispatcher.aggregator = c'.dispatcher.aggregator
  receiver : c.dispatcher.receiver = c'.dispatcher.receiver
  effects : c.effects = c'.effects
  replies : c.replies = c'.replies
  phase : c.dispatcher.phase = c'.dispatcher.phase
  signal : c.dispatcher.signal = c'.dispatcher.signal
  isHeld : c.dispatcher.isHeld = c'.dispatcher.isHeld
  batches : c.dispatcher.batches.SameBut S c'.dispatcher.batches
  ruleLists : c.dispatcher.ruleLists.SameBut S c'.dispatcher.ruleLists
  answered : c.dispatcher.answered.filter (!S ·.1) = c'.dispatcher.answered.filter (!S ·.1)

theorem Course.SameBut.abandon (h : c.SameBut S c') (hn : S n = true)
    (hsettled : c.dispatcher.IsSettled n) : (c.abandon n).SameBut S c' where
  aggregator := h.aggregator
  receiver := h.receiver
  effects := h.effects
  replies := h.replies
  phase := h.phase
  signal := h.signal
  isHeld := h.isHeld
  batches := h.batches.abandon hn hsettled.batches
  ruleLists := h.ruleLists.abandon hn hsettled.ruleLists
  answered := by
    rw [← h.answered]
    change (c.dispatcher.answered.filter _).filter _ = _
    rw [List.filter_filter]
    apply List.filter_congr
    intro answer _
    by_cases hanswer : answer.1 = n <;> simp [hanswer, hn]

theorem sameBut_of_leaving {stayed left : List Action} (hnew : new? settings w = some d)
    (hstayed : run? r d stayed = some c') (hrun : run? r d (stayed ++ left) = some c)
    (hleft : ∀ a ∈ left, ∃ n ∈ Action.accepted stayed, S n = true ∧ a = .abandon n) :
    c.SameBut S c' ∧ ∀ {requests accepted order outcomes},
      Books requests accepted order outcomes c'.dispatcher →
        Books requests accepted order outcomes c.dispatcher := by
  induction left using List.reverseRecOn generalizing c with
  | nil =>
    rw [List.append_nil] at hrun
    obtain rfl := Option.some.inj (hstayed.symm.trans hrun)
    exact ⟨⟨rfl, rfl, rfl, rfl, rfl, rfl, rfl, ⟨rfl, rfl, rfl⟩, ⟨rfl, rfl, rfl⟩, rfl⟩, id⟩
  | append_singleton left a ih =>
    rw [← List.append_assoc] at hrun
    obtain ⟨c₁, hc₁, hact⟩ := run?_snoc hrun
    obtain ⟨n, haccepted, hn, rfl⟩ := hleft a (List.mem_append_right _ (List.mem_singleton_self _))
    rw [Course.act?_abandon, Option.some.injEq] at hact
    subst hact
    obtain ⟨hsame, hbooks⟩ := ih hc₁ fun a ha => hleft a (List.mem_append_left _ ha)
    have hsettled := isSettled_run hnew hc₁ (n := n) (by
      rw [Action.accepted_append]
      exact List.mem_append_left _ haccepted)
    exact ⟨hsame.abandon hn hsettled, fun h => (hbooks h).abandon n⟩

/-- The order that explains a course in which callers wait explains it when they give up. -/
theorem Accords.of_staying {order : List Service}
    (h : Accords r d (actions.filter (!·.leaves S)) c' order) (hsame : c.SameBut S c')
    (hbooks : Books (Action.requests actions) (Action.accepted actions) order (d.outcomes r order)
      c.dispatcher) : Accords r d actions c order where
  books := hbooks
  services := by
    rw [h.services, List.filter_filter]
    apply List.filter_congr
    intro a _
    cases a <;> simp [Action.isService, Action.leaves]
  aggregator := hsame.aggregator.trans h.aggregator
  receiver := hsame.receiver.trans h.receiver
  calls := hsame.effects ▸ h.calls
  replies := hsame.replies ▸ h.replies
  cut := by
    rintro past later rfl
    obtain ⟨l₁, l₂, horder, hdone, hbegun⟩ := h.cut (List.filter_append past later)
    rw [Action.requests_staying] at hbegun
    refine ⟨l₁, l₂, horder, fun call hcall => hdone call (List.mem_filter.2 ⟨hcall, ?_⟩), hbegun⟩
    rfl

end Dispatcher

end Alerting
