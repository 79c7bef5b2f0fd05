import Alerting.Proofs.Aggregator.Rules
import Alerting.Proofs.Dispatcher.Orderly
import Alerting.Proofs.Dispatcher.Steps

/-!
# One order for everything

Calls go through two channels that know nothing of each other, and callers come and go at any time.
Yet what a dispatcher does, and what it answers, is what its aggregator does when the requests that
were served are carried out one after the other, in one order that all callers can agree on.
-/

namespace Alerting

open Request

namespace Dispatcher

variable {σ : Type} {r : Receiver σ} {d : Dispatcher σ} {actions : List Action} {c c' : Course σ}
  {order : List Service} {a : Action}

/-- An order explains a course. -/
structure Linearizes (r : Receiver σ) (d : Dispatcher σ) (actions : List Action) (c : Course σ)
    (order : List Service) : Prop where
  services : order.map Service.action = actions.filter Action.isService
  /-- What is served is what the call asked for. -/
  asked : ∀ s ∈ order, ∀ call request, s.asked? = some (call, request) →
    (Action.requests actions)[call]? = some request
  once : (Service.calls order).Nodup
  /-- Each channel is served in the order of acceptance. -/
  fifo : ∀ kind, callsOf (Action.requests actions) kind (Service.calls order) <+:
    callsOf (Action.requests actions) kind (Action.accepted actions)
  aggregator : c.dispatcher.aggregator = (inOrder r d order).aggregator
  receiver : c.dispatcher.receiver = (inOrder r d order).receiver
  calls : Effect.calls c.effects = Effect.calls (inOrder r d order).effects
  /-- Callers are told what their services come to in this order. -/
  replies : ∀ reply ∈ c.replies, (some reply.1, .replied reply.2) ∈ d.outcomes r order
  /-- A call that has returned before another one begins is served before it. -/
  realTime : ∀ {past later : List Action}, actions = past ++ later → ∀ {first second : Nat},
    .finish first ∈ past → (Action.requests past).length ≤ second →
    second ∈ Service.calls order → Service.Precedes order first second
  /-- A batch that begins after a list of rules was acknowledged meets this list or a later one
  throughout. -/
  rules : ∀ {past later : List Action}, actions = past ++ later → ∀ {first second : Nat}
    {list : List SharedRule} {events : List Event} {now : Instant},
    .finish first ∈ past → (Action.requests actions)[first]? = some (.rules list) →
    (Action.requests past).length ≤ second → .batch second events now ∈ order →
    ∃ l₁ call list' l₂ l₃, order = l₁ ++ .rules call list' :: l₂ ++ .batch second events now :: l₃ ∧
      (call = first ∨ first ∈ Service.calls l₁) ∧
      let turn := inOrder r d (l₁ ++ .rules call list' :: l₂)
      ∀ m ∈ turn.aggregator.moments r turn.receiver
        (turn.aggregator.deeds (.aggregate events now)), m.before.rules = list'

/-- What a course and an order have in common at any time. -/
structure Accords (r : Receiver σ) (d : Dispatcher σ) (actions : List Action) (c : Course σ)
    (order : List Service) : Prop where
  books : Books (Action.requests actions) (Action.accepted actions) order (d.outcomes r order)
    c.dispatcher
  services : order.map Service.action = actions.filter Action.isService
  aggregator : c.dispatcher.aggregator = (inOrder r d order).aggregator
  receiver : c.dispatcher.receiver = (inOrder r d order).receiver
  calls : Effect.calls c.effects = Effect.calls (inOrder r d order).effects
  replies : ∀ reply ∈ c.replies, (some reply.1, .replied reply.2) ∈ d.outcomes r order
  /-- At each point the calls that have returned are served already, and those that have not begun
  are served later. -/
  cut : ∀ {past later : List Action}, actions = past ++ later → ∃ l₁ l₂, order = l₁ ++ l₂ ∧
    (∀ call, .finish call ∈ past → call ∈ Service.calls l₁) ∧
    ∀ call ∈ Service.calls l₁, call < (Action.requests past).length

theorem books_new {settings : Settings} {w : σ} (h : new? settings w = some d) :
    Books [] [] [] [] d := by
  obtain ⟨-, rfl⟩ := new?_eq_some_iff.1 h
  refine ⟨rfl, ?_, ?_, List.nodup_nil, Channel.follows_new, Channel.follows_new, ?_⟩
  · exact fun call hcall => absurd hcall List.not_mem_nil
  · exact fun s hs => absurd hs List.not_mem_nil
  · exact fun a ha => absurd ha List.not_mem_nil

theorem accords_new {settings : Settings} {w : σ} (r : Receiver σ) (h : new? settings w = some d) :
    Accords r d [] ⟨d, [], []⟩ [] where
  books := books_new h
  services := rfl
  aggregator := rfl
  receiver := rfl
  calls := rfl
  replies := nofun
  cut := by
    intro past later hsplit
    obtain ⟨rfl, rfl⟩ := List.append_eq_nil_iff.1 hsplit.symm
    exact ⟨[], [], rfl, nofun, nofun⟩

/-! ## Steps -/

theorem inOrder_append {d' : Dispatcher σ} {l₁ : List Service}
    (hg : d'.aggregator = (inOrder r d l₁).aggregator)
    (hw : d'.receiver = (inOrder r d l₁).receiver) (l₂ : List Service) :
    inOrder r d (l₁ ++ l₂) =
      { inOrder r d' l₂ with
        effects := (inOrder r d l₁).effects ++ (inOrder r d' l₂).effects
        result := (inOrder r d l₁).result ++ (inOrder r d' l₂).result } := by
  unfold inOrder at hg hw ⊢
  rw [List.map_append, Aggregator.performAll_append, hg, hw]

theorem outcomes_append {d' : Dispatcher σ} {l₁ : List Service}
    (hg : d'.aggregator = (inOrder r d l₁).aggregator)
    (hw : d'.receiver = (inOrder r d l₁).receiver) (l₂ : List Service) :
    d.outcomes r (l₁ ++ l₂) = d.outcomes r l₁ ++ d'.outcomes r l₂ := by
  have hlength : (l₁.map Service.call?).length = (inOrder r d l₁).result.length := by
    rw [inOrder, Aggregator.length_performAll, List.length_map, List.length_map]
  unfold outcomes
  rw [List.map_append, inOrder_append hg hw, List.zip_append hlength]

theorem mem_calls_of_outcomes {call : Nat} {outcome : Outcome}
    (h : (some call, outcome) ∈ d.outcomes r order) : call ∈ Service.calls order := by
  obtain ⟨s, hs, hcall⟩ := List.mem_map.1 (List.of_mem_zip h).1
  exact List.mem_filterMap.2 ⟨s, hs, hcall⟩

theorem mem_answered_of_told {reply : Nat × Reply} (h : reply ∈ d.told a) : reply ∈ d.answered := by
  cases a with
  | finish call =>
    obtain ⟨answer, hlookup, rfl⟩ := Option.map_eq_some_iff.1 (Option.mem_toList.1 h)
    exact mem_of_lookup hlookup
  | _ => exact absurd h List.not_mem_nil

theorem Accords.finished (h : Accords r d actions c order) {call : Nat}
    (hcall : .finish call ∈ actions) : call ∈ Service.calls order := by
  obtain ⟨l₁, l₂, rfl, hdone, _⟩ := h.cut (List.append_nil actions).symm
  rw [Service.calls_append]
  exact List.mem_append_left _ (hdone call hcall)

/-- Every action but giving up the dispatcher can be explained by more services, or none. -/
theorem Accords.step (h : Accords r d actions c order)
    (halive : c.dispatcher.isHeld = true → c.dispatcher.IsAlive) (hact : c.act? r a = some c')
    (hkill : a ≠ .kill) : ∃ new, Accords r d (actions ++ [a]) c' (order ++ new) := by
  obtain ⟨⟨d', effects⟩, hd', rfl⟩ := Option.map_eq_some_iff.1 hact
  obtain ⟨new, hadvances, hbooks⟩ := h.books.step halive hd' hkill
  have happend := inOrder_append h.aggregator h.receiver new
  have houtcomes := outcomes_append h.aggregator h.receiver new
  rw [← houtcomes, ← Action.requests_append, ← Action.accepted_append] at hbooks
  refine ⟨new, hbooks, ?_, ?_, ?_, ?_, ?_, ?_⟩
  · rw [List.map_append, h.services, hadvances.services, List.filter_append]
  · rw [happend]
    exact hadvances.aggregator
  · rw [happend]
    exact hadvances.receiver
  · rw [happend, Effect.calls_append, h.calls, hadvances.calls, Effect.calls_append]
  · intro reply hreply
    rw [houtcomes]
    apply List.mem_append_left
    rcases List.mem_append.1 hreply with hreply | hreply
    · exact h.replies reply hreply
    · exact h.books.answered reply (mem_answered_of_told hreply)
  · intro past later hsplit
    rcases List.eq_nil_or_concat later with rfl | ⟨later, a', rfl⟩
    · rw [List.append_nil] at hsplit
      subst hsplit
      refine ⟨order ++ new, [], (List.append_nil _).symm, ?_, fun call hcall => hbooks.call_lt hcall⟩
      intro call hcall
      rw [Service.calls_append]
      apply List.mem_append_left
      rcases List.mem_append.1 hcall with hcall | hcall
      · exact h.finished hcall
      · -- whoever takes an answer was served before
        obtain rfl := List.mem_singleton.1 hcall
        obtain ⟨answered, hlookup, -⟩ := Option.map_eq_some_iff.1 hd'
        exact mem_calls_of_outcomes (h.books.answered _ (mem_of_lookup hlookup))
    · rw [List.concat_eq_append, ← List.append_assoc] at hsplit
      obtain ⟨l₁, l₂, rfl, hdone, hbegun⟩ := h.cut (List.append_inj' hsplit rfl).1
      exact ⟨l₁, l₂ ++ new, List.append_assoc .., hdone, hbegun⟩

theorem accords_run {settings : Settings} {w : σ} (hnew : new? settings w = some d)
    (hrun : run? r d actions = some c) (hkill : .kill ∉ actions) :
    ∃ order, Accords r d actions c order := by
  induction actions using List.reverseRecOn generalizing c with
  | nil =>
    obtain rfl := Option.some.inj hrun
    exact ⟨[], accords_new r hnew⟩
  | append_singleton actions a ih =>
    obtain ⟨c', hc', hact⟩ := run?_snoc hrun
    rw [List.mem_append, not_or] at hkill
    obtain ⟨order, h⟩ := ih hc' hkill.1
    obtain ⟨horderly, -, hgone⟩ := orderly_run hnew hc'
    have halive (hheld : c'.dispatcher.isHeld = true) : c'.dispatcher.IsAlive :=
      horderly.isAlive hheld fun hlost => hkill.1 (hgone.1 hlost)
    obtain ⟨new, hnext⟩ := h.step halive hact fun ha => hkill.2 (ha ▸ List.mem_singleton_self _)
    exact ⟨order ++ new, hnext⟩

/-! ## What an order says about a course -/

theorem Accords.fifo (h : Accords r d actions c order) (kind : Kind) :
    callsOf (Action.requests actions) kind (Service.calls order) <+:
      callsOf (Action.requests actions) kind (Action.accepted actions) := by
  cases kind with
  | batch =>
    obtain ⟨queued, haccepted, -⟩ := h.books.batches.queue
    exact ⟨queued, haccepted.symm⟩
  | rules =>
    obtain ⟨queued, haccepted, -⟩ := h.books.ruleLists.queue
    exact ⟨queued, haccepted.symm⟩

theorem Accords.precedes (h : Accords r d actions c order) {past later : List Action}
    (hsplit : actions = past ++ later) {first second : Nat} (hfirst : .finish first ∈ past)
    (hsecond : (Action.requests past).length ≤ second) (hserved : second ∈ Service.calls order) :
    Service.Precedes order first second := by
  obtain ⟨l₁, l₂, rfl, hdone, hbegun⟩ := h.cut hsplit
  refine ⟨l₁, l₂, rfl, hdone first hfirst, ?_⟩
  rw [Service.calls_append] at hserved
  rcases List.mem_append.1 hserved with hin | hin
  · exact absurd (hbegun second hin) (Nat.not_lt.2 hsecond)
  · exact hin

/-! ## The rules that a batch meets -/

theorem rules_performAll_of_no_rules (r : Receiver σ) {l : List Service}
    (h : ∀ s ∈ l, ¬s.ReplacesRules) (g : Aggregator) (w : σ) :
    (g.performAll r w (l.map Service.operation)).aggregator.rules = g.rules := by
  induction l generalizing g w with
  | nil => rfl
  | cons s rest ih =>
    have hfirst : (g.perform r w s.operation).aggregator.rules = g.rules := by
      cases s with
      | batch call events now => exact g.rules_aggregate r w events now
      | rules call list => exact absurd trivial (h _ List.mem_cons_self)
      | sweep now => rfl
    rw [List.map_cons, Aggregator.performAll, ih fun s' hs' => h s' (List.mem_cons_of_mem _ hs')]
    exact hfirst

theorem rules_inOrder (r : Receiver σ) (d : Dispatcher σ) (l₁ : List Service) (call : Nat)
    (list : List SharedRule) {l₂ : List Service} (h : ∀ s ∈ l₂, ¬s.ReplacesRules) :
    (inOrder r d (l₁ ++ .rules call list :: l₂)).aggregator.rules = list := by
  rw [inOrder, List.map_append, Aggregator.performAll_append]
  exact rules_performAll_of_no_rules r h _ _

theorem exists_last_rules {l : List Service} {call : Nat} {list : List SharedRule}
    (h : .rules call list ∈ l) : ∃ l₁ call' list' l₂, l = l₁ ++ .rules call' list' :: l₂ ∧
      ∀ s ∈ l₂, ¬s.ReplacesRules := by
  induction l using List.reverseRecOn with
  | nil => exact absurd h List.not_mem_nil
  | append_singleton l s ih =>
    cases s with
    | rules call' list' => exact ⟨l, call', list', [], rfl, fun _ hs => absurd hs List.not_mem_nil⟩
    | batch _ _ _ | sweep _ =>
      rcases List.mem_append.1 h with h | h
      · obtain ⟨l₁, call', list', l₂, rfl, hlast⟩ := ih h
        refine ⟨l₁, call', list', l₂ ++ [_], List.append_assoc .., ?_⟩
        intro s hs
        rcases List.mem_append.1 hs with hs | hs
        · exact hlast s hs
        · rw [List.mem_singleton.1 hs]
          exact id
      · cases List.mem_singleton.1 h

theorem Accords.rules (h : Accords r d actions c order) {past later : List Action}
    (hsplit : actions = past ++ later) {first second : Nat} {list : List SharedRule}
    {events : List Event} {now : Instant} (hfirst : .finish first ∈ past)
    (hlist : (Action.requests actions)[first]? = some (.rules list))
    (hsecond : (Action.requests past).length ≤ second) (hserved : .batch second events now ∈ order) :
    ∃ l₁ call list' l₂ l₃, order = l₁ ++ .rules call list' :: l₂ ++ .batch second events now :: l₃ ∧
      (call = first ∨ first ∈ Service.calls l₁) ∧
      let turn := inOrder r d (l₁ ++ .rules call list' :: l₂)
      ∀ m ∈ turn.aggregator.moments r turn.receiver
        (turn.aggregator.deeds (.aggregate events now)), m.before.rules = list' := by
  obtain ⟨o₁, o₂, rfl, hdone, hbegun⟩ := h.cut hsplit
  -- the list was served before the cut
  obtain ⟨s, hs, request, hask⟩ := Service.mem_calls.1 (hdone first hfirst)
  have hrequest := h.books.asked s (List.mem_append_left _ hs) first request hask
  obtain rfl := Option.some.inj (hrequest.symm.trans hlist)
  obtain rfl : s = .rules first list := by
    cases s <;> cases hask
    rfl
  -- the batch was served after it
  have hafter : .batch second events now ∈ o₂ := by
    rcases List.mem_append.1 hserved with hin | hin
    · have hcall : second ∈ Service.calls o₁ := Service.mem_calls.2 ⟨_, hin, _, rfl⟩
      exact absurd (hbegun second hcall) (Nat.not_lt.2 hsecond)
    · exact hin
  obtain ⟨k, l₃, rfl⟩ := List.append_of_mem hafter
  obtain ⟨l₁, call, list', l₂, hl, hlast⟩ :=
    exists_last_rules (List.mem_append_left k hs)
  refine ⟨l₁, call, list', l₂, l₃, by rw [← List.append_assoc, hl], ?_, ?_⟩
  · have hmem := hl ▸ List.mem_append_left k hs
    rcases List.mem_append.1 hmem with hmem | hmem
    · exact .inr (Service.mem_calls.2 ⟨_, hmem, _, rfl⟩)
    · rcases List.mem_cons.1 hmem with heq | hmem
      · cases heq
        exact .inl rfl
      · exact absurd trivial (hlast _ hmem)
  · intro turn m hm
    rw [Aggregator.rules_moments r _ _ (Aggregator.not_replaces_of_aggregate _ events now) m hm]
    exact rules_inOrder r d l₁ call list' hlast

/-! ## The order -/

theorem Accords.linearizes (h : Accords r d actions c order) : Linearizes r d actions c order :=
  ⟨h.services, h.books.asked, h.books.once, h.fifo, h.aggregator, h.receiver, h.calls, h.replies,
    h.precedes, h.rules⟩

/-- **A dispatcher is linearizable.** Unless it is given up, one order of the requests that it
served and of its sweeps explains it. -/
theorem run_linearizes {settings : Settings} {w : σ} (hnew : new? settings w = some d)
    (hrun : run? r d actions = some c) (hkill : .kill ∉ actions) :
    ∃ order, Linearizes r d actions c order := by
  obtain ⟨order, h⟩ := accords_run hnew hrun hkill
  exact ⟨order, h.linearizes⟩

/-- A batch is accepted before a list of rules and served after it. -/
theorem run_linearizes_crossing :
    let r : Receiver Unit := ⟨fun w _ => ⟨w, .ok (), []⟩⟩
    let actions : List Action :=
      [.start, .call (.batch [{ createdAt := .epoch }]), .call (.rules [⟨0, {}⟩]), .accept 0, .accept 1,
        .serveRules, .finish 1, .serveBatch .epoch, .finish 0, .sweep .epoch]
    ∃ d c, new? {} () = some d ∧ run? r d actions = some c ∧ .kill ∉ actions ∧
      c.replies = [(1, .ok ()), (0, .ok ())] ∧ ∃ order, Linearizes r d actions c order ∧
        order.map Service.action = [.serveRules, .serveBatch .epoch, .sweep .epoch] := by
  intro r actions
  have hreplies : ((new? {} ()).bind fun d => run? r d actions).map (·.replies) =
      some [(1, .ok ()), (0, .ok ())] := by
    decide +kernel
  obtain ⟨c, hcourse, hreplies⟩ := Option.map_eq_some_iff.1 hreplies
  obtain ⟨d, hnew, hrun⟩ := Option.bind_eq_some_iff.1 hcourse
  have hkill : .kill ∉ actions := by simp [actions]
  obtain ⟨order, horder⟩ := run_linearizes hnew hrun hkill
  exact ⟨d, c, hnew, hrun, hkill, hreplies, order, horder, horder.services⟩

end Dispatcher

end Alerting
