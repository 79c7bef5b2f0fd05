import Alerting.Proofs.Dispatcher.Order

/-!
# Closing

A dispatcher stops only when nothing is under way any more: with both channels closed and empty,
when each request that was ever accepted has been served once. Once its handle is closed, each turn
either serves a request that is still queued or leaves a channel that is empty, so the number of
turns up to the end is known beforehand, however the dispatcher picks them and however often it
sweeps in between. It can always go on until it stops, and whoever closed the handle waits until
then.
-/

namespace Alerting

open Request

namespace Channel

variable {α : Type}

/-- Nothing is under way in the channel, and the dispatcher has left it. -/
structure IsDrained (c : Channel α) : Prop where
  isOpen : c.isOpen = false
  waiting : c.waiting = []
  queue : c.queue = []

end Channel

namespace Dispatcher

variable {σ : Type} {r : Receiver σ} {d d' : Dispatcher σ} {a : Action} {actions : List Action}
  {effects : List Effect} {c c' : Course σ}

/-! ## The way to the end -/

/-- A dispatcher whose handle is closed has so many turns left, one at least for each channel that
it listens to. -/
structure WindsUp (r : Receiver σ) (left : Nat) (d : Dispatcher σ) : Prop where
  start : d.phase = .ready → (d.act? r .start).isSome
  listens : 0 < left → d.batches.isOpen = true ∨ d.ruleLists.isOpen = true
  batches : d.phase = .serving → d.batches.isOpen = true → ∀ now,
    (d.act? r (.serveBatch now)).isSome ∨ (d.act? r .leaveBatches).isSome
  ruleLists : d.phase = .serving → d.ruleLists.isOpen = true →
    (d.act? r .serveRules).isSome ∨ (d.act? r .leaveRules).isSome
  stop : d.phase = .serving → ((d.act? r .stop).isSome ↔ left = 0)

theorem Orderly.turns_eq_zero_iff (h : d.Orderly) :
    d.turns = 0 ↔ d.batches.isOpen = false ∧ d.ruleLists.isOpen = false := by
  constructor
  · intro hturns
    cases hbatches : d.batches.isOpen <;> cases hruleLists : d.ruleLists.isOpen <;>
      simp [turns, Channel.turns, hbatches, hruleLists] at hturns ⊢
  · rintro ⟨hbatches, hruleLists⟩
    simp [turns, Channel.turns, hbatches, hruleLists, h.batches, h.ruleLists]

theorem Orderly.windsUp (h : d.Orderly) (hclosed : d.isHeld = false) : WindsUp r d.turns d where
  start := fun hready => by simp [act?, hready]
  listens := by
    intro hleft
    by_contra hopen
    rw [not_or, Bool.not_eq_true, Bool.not_eq_true, ← h.turns_eq_zero_iff] at hopen
    omega
  batches := by
    intro hserving hopen now
    cases hqueue : d.batches.queue with
    | nil => exact .inr (by simp [act?, hserving, hopen, hclosed, hqueue])
    | cons entry rest => exact .inl (by simp [act?, hserving, hopen, hqueue])
  ruleLists := by
    intro hserving hopen
    cases hqueue : d.ruleLists.queue with
    | nil => exact .inr (by simp [act?, hserving, hopen, hclosed, hqueue])
    | cons entry rest => exact .inl (by simp [act?, hserving, hopen, hqueue])
  stop := by
    intro hserving
    rw [h.turns_eq_zero_iff]
    simp [act?, hserving]

/-! ## Runs -/

variable {settings : Settings} {w : σ}

/-- Once the handle is closed, the turns that were taken and those that are left are always the same
number together. -/
theorem turns_after_close {past later : List Action} (hnew : new? settings w = some d)
    (hpast : run? r d past = some c') (hrun : run? r d (past ++ .close :: later) = some c)
    (hkill : .kill ∉ later) :
    c.dispatcher.isHeld = false ∧ later.countP Action.isTurn + c.dispatcher.turns =
      c'.dispatcher.batches.queue.length + c'.dispatcher.ruleLists.queue.length + 2 := by
  induction later using List.reverseRecOn generalizing c with
  | nil =>
    obtain ⟨c₁, effects, hc₁, hact⟩ := run?_last hrun
    obtain rfl := Option.some.inj (hpast.symm.trans hc₁)
    generalize c.dispatcher = d' at hact
    cases happens_of_act? hact with
    | close hheld _ _ =>
      obtain ⟨hbatches, hruleLists⟩ := (orderly_run hnew hpast).1.isOpen (.inl hheld)
      refine ⟨rfl, ?_⟩
      simp only [turns, Channel.turns, hbatches, hruleLists, Bool.toNat_true, List.countP_nil]
      omega
  | append_singleton later a ih =>
    rw [← List.cons_append, ← List.append_assoc] at hrun
    obtain ⟨c₁, effects, hc₁, hact⟩ := run?_last hrun
    rw [List.mem_append, not_or] at hkill
    obtain ⟨hclosed, hturns⟩ := ih hc₁ hkill.1
    have hstep := (orderly_run hnew hc₁).1.step hact
    have hone := hstep.turns hclosed fun ha => hkill.2 (ha ▸ List.mem_singleton_self _)
    refine ⟨hstep.isHeld hclosed, ?_⟩
    have hcount : [a].countP Action.isTurn = a.isTurn.toNat := by cases h : a.isTurn <;> simp [h]
    rw [List.countP_append, hcount]
    omega

theorem perm_of_callsOf {requests : List Request} {l₁ l₂ : List Nat}
    (h₁ : ∀ call ∈ l₁, call < requests.length) (h₂ : ∀ call ∈ l₂, call < requests.length)
    (hsame : ∀ kind, callsOf requests kind l₁ = callsOf requests kind l₂) : l₁.Perm l₂ := by
  refine perm_of_projections (fun call => requests[call]?.map (·.kind)) fun k => ?_
  cases k with
  | none =>
    -- each call has asked for something
    rw [List.filter_eq_nil_iff.2, List.filter_eq_nil_iff.2] <;>
      intro call hcall hnone
    · exact absurd (h₂ call hcall) (by simpa using hnone)
    · exact absurd (h₁ call hcall) (by simpa using hnone)
  | some kind =>
    have hkind (l : List Nat) :
        l.filter (requests[·]?.map (·.kind) = some kind) = callsOf requests kind l := by
      apply List.filter_congr
      intro call _
      cases requests[call]? <;> simp
    rw [hkind, hkind, hsame]

theorem Accords.perm_of_drained {order : List Service} (h : Accords r d actions c order)
    (hbatches : c.dispatcher.batches.queue = []) (hruleLists : c.dispatcher.ruleLists.queue = []) :
    (Service.calls order).Perm (Action.accepted actions) := by
  refine perm_of_callsOf (fun call => h.books.call_lt) h.books.known fun kind => ?_
  cases kind with
  | batch =>
    obtain ⟨queued, haccepted, hqueue⟩ := h.books.batches.queue
    rw [hbatches, List.forall₂_nil_left_iff] at hqueue
    rw [haccepted, hqueue, List.append_nil]
  | rules =>
    obtain ⟨queued, haccepted, hqueue⟩ := h.books.ruleLists.queue
    rw [hruleLists, List.forall₂_nil_left_iff] at hqueue
    rw [haccepted, hqueue, List.append_nil]

theorem Orderly.drained_of_stop (h : d.Orderly) (hact : d.act? r .stop = some (d', effects)) :
    d.isHeld = false ∧ d.batches.IsDrained ∧ d.ruleLists.IsDrained := by
  cases happens_of_act? hact with
  | stop hserving hbatches hruleLists =>
    have hclosed := h.isHeld_eq_false hbatches
    obtain ⟨hwaiting₁, hwaiting₂⟩ := h.waiting hclosed
    exact ⟨hclosed, ⟨hbatches, hwaiting₁, h.batches hbatches⟩,
      ⟨hruleLists, hwaiting₂, h.ruleLists hruleLists⟩⟩

/-- Unless the dispatcher is given up, whoever closes the handle waits until it stops. -/
theorem isClosed_iff_stop_mem (hnew : new? settings w = some d) (hrun : run? r d actions = some c)
    (hkill : .kill ∉ actions) : c.dispatcher.IsClosed ↔ .stop ∈ actions := by
  obtain ⟨horderly, hstopped, hgone⟩ := orderly_run hnew hrun
  rw [← hgone] at hkill
  rw [← hstopped]
  constructor
  · rintro ⟨-, hsignal⟩
    rw [horderly.signal] at hsignal
    cases hphase : c.dispatcher.phase <;> simp_all [Phase.signal]
  · intro hstop
    simp [IsClosed, (horderly.stopped hstop).1, horderly.signal, hstop, Phase.signal]

theorem Accords.perm_of_stop_mem {order : List Service} (h : Accords r d actions c order)
    (hnew : new? settings w = some d) (hrun : run? r d actions = some c) (hstop : .stop ∈ actions) :
    (Service.calls order).Perm (Action.accepted actions) := by
  obtain ⟨horderly, hstopped, -⟩ := orderly_run hnew hrun
  obtain ⟨-, hbatches, hruleLists⟩ := horderly.stopped (hstopped.2 hstop)
  exact h.perm_of_drained (horderly.batches hbatches) (horderly.ruleLists hruleLists)

theorem turns_of_stop {past done : List Action} (hnew : new? settings w = some d)
    (hpast : run? r d past = some c') (hrun : run? r d (past ++ .close :: done ++ [.stop]) = some c)
    (hkill : .kill ∉ done) : done.countP Action.isTurn =
      c'.dispatcher.batches.queue.length + c'.dispatcher.ruleLists.queue.length + 2 := by
  obtain ⟨c₁, effects, hc₁, hact⟩ := run?_last hrun
  have horderly := (orderly_run hnew hc₁).1
  obtain ⟨-, hbatches, hruleLists⟩ := horderly.drained_of_stop hact
  have hleft := horderly.turns_eq_zero_iff.2 ⟨hbatches.isOpen, hruleLists.isOpen⟩
  obtain ⟨-, hturns⟩ := turns_after_close hnew hpast hc₁ hkill
  rwa [hleft, Nat.add_zero] at hturns

/-- **Closing.** A dispatcher stops only when all that was accepted is served, one turn for each
queued request and two more after closing. -/
theorem stops_when_drained (hnew : new? settings w = some d) (hrun : run? r d actions = some c) :
    (∀ past rest, actions = past ++ .stop :: rest → ∃ c' order, run? r d past = some c' ∧
      c'.dispatcher.isHeld = false ∧ c'.dispatcher.batches.IsDrained ∧
      c'.dispatcher.ruleLists.IsDrained ∧ Linearizes r d past c' order ∧
      (Service.calls order).Perm (Action.accepted past)) ∧
    (∀ past later, actions = past ++ .close :: later → .kill ∉ later →
      ∃ c', run? r d past = some c' ∧
        let total := c'.dispatcher.batches.queue.length + c'.dispatcher.ruleLists.queue.length + 2
        (∀ done rest, later = done ++ .stop :: rest → done.countP Action.isTurn = total) ∧
        ∃ left, later.countP Action.isTurn + left = total ∧ WindsUp r left c.dispatcher) ∧
    (.kill ∉ actions → (c.dispatcher.IsClosed ↔ .stop ∈ actions)) := by
  refine ⟨?_, ?_, isClosed_iff_stop_mem hnew hrun⟩
  · rintro past rest rfl
    obtain ⟨c₁, hc₁⟩ := run?_append (List.append_assoc past [.stop] rest ▸ hrun)
    obtain ⟨c', effects, hc', hact⟩ := run?_last hc₁
    obtain ⟨horderly, -, hgone⟩ := orderly_run hnew hc'
    have hserving : c'.dispatcher.phase = .serving :=
      (Option.ite_none_right_eq_some.1 (horderly.step hact).phase).1
    have hkill : .kill ∉ past := by
      rw [← hgone, hserving]
      exact nofun
    obtain ⟨order, haccords⟩ := accords_run hnew hc' hkill
    obtain ⟨hclosed, hbatches, hruleLists⟩ := horderly.drained_of_stop hact
    exact ⟨c', order, hc', hclosed, hbatches, hruleLists, haccords.linearizes,
      haccords.perm_of_drained hbatches.queue hruleLists.queue⟩
  · rintro past later rfl hkill
    obtain ⟨c', hc'⟩ := run?_append hrun
    obtain ⟨hclosed, hturns⟩ := turns_after_close hnew hc' hrun hkill
    refine ⟨c', hc', ?_, _, hturns, (orderly_run hnew hrun).1.windsUp hclosed⟩
    rintro done rest rfl
    have hsplit : past ++ .close :: (done ++ .stop :: rest) =
        past ++ .close :: done ++ [.stop] ++ rest := by simp
    obtain ⟨c₁, hc₁⟩ := run?_append (hsplit ▸ hrun)
    exact turns_of_stop hnew hc' hc₁ fun hin => hkill (List.mem_append_left _ hin)

/-- A batch and a list of rules whose callers have given up are still served after the handle is closed,
in four turns. -/
theorem stops_when_drained_abandoned :
    let r : Receiver Unit := ⟨fun w _ => ⟨w, .ok (), []⟩⟩
    let past : List Action :=
      [.start, .call (.batch [{ createdAt := .epoch }]), .call (.rules [⟨0, {}⟩]), .accept 0, .accept 1,
        .abandon 0, .abandon 1]
    let later : List Action :=
      [.serveRules, .sweep .epoch, .leaveRules, .serveBatch .epoch, .sweep .epoch, .leaveBatches]
    ∃ d c c', new? {} () = some d ∧ run? r d (past ++ .close :: (later ++ [.stop])) = some c ∧
      run? r d past = some c' ∧ c'.dispatcher.batches.queue.length = 1 ∧
      c'.dispatcher.ruleLists.queue.length = 1 ∧ later.countP Action.isTurn = 1 + 1 + 2 ∧
      c.dispatcher.IsClosed := by
  intro r past later
  have hran : ((new? {} ()).bind fun d => run? r d (past ++ .close :: (later ++ [.stop]))).isSome := by
    decide +kernel
  have hqueues : ((new? {} ()).bind fun d => run? r d past).map
      (fun c => (c.dispatcher.batches.queue.length, c.dispatcher.ruleLists.queue.length)) =
        some (1, 1) := by
    decide +kernel
  obtain ⟨c, hc⟩ := Option.isSome_iff_exists.1 hran
  obtain ⟨d, hnew, hrun⟩ := Option.bind_eq_some_iff.1 hc
  obtain ⟨-, hclose, hclosed⟩ := stops_when_drained hnew hrun
  obtain ⟨c', hc', htotal, -⟩ := hclose past (later ++ [.stop]) rfl (by simp [later])
  rw [hnew, Option.bind_some, hc', Option.map_some, Option.some.injEq, Prod.mk.injEq] at hqueues
  obtain ⟨hbatches, hruleLists⟩ := hqueues
  rw [hbatches, hruleLists] at htotal
  exact ⟨d, c, c', hnew, hrun, hc', hbatches, hruleLists, htotal later [] rfl,
    (hclosed (by simp [past, later])).2 (by simp)⟩

end Dispatcher

end Alerting
