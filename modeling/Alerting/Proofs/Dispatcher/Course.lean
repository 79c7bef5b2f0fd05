import Alerting.Dispatcher.Basic
import Alerting.Proofs.Basic
import Mathlib.Data.List.Nodup

/-!
# Courses

What happens to a dispatcher while actions happen to it one after the other: where it ends, what
others see, and what callers are told. Nothing here depends on how the requests are served.
-/

namespace Alerting

/-- The two kinds of requests. Each has a channel of its own. -/
inductive Request.Kind where
  | batch
  | rules
  deriving DecidableEq

def Request.kind : Request → Kind
  | .batch _ => .batch
  | .rules _ => .rules

namespace Action

def begun? : Action → Option Request
  | .call request => some request
  | _ => none

def accepted? : Action → Option Nat
  | .accept caller => some caller
  | _ => none

/-- Something is served, or a sweep happens. -/
def isService : Action → Bool
  | .serveBatch _ | .serveRules | .sweep _ => true
  | _ => false

/-- The requests of the calls that are begun; a call is the place of its request in this list. -/
def requests (actions : List Action) : List Request := actions.filterMap begun?

def accepted (actions : List Action) : List Nat := actions.filterMap accepted?

theorem requests_append (l₁ l₂ : List Action) : requests (l₁ ++ l₂) = requests l₁ ++ requests l₂ :=
  List.filterMap_append

theorem accepted_append (l₁ l₂ : List Action) : accepted (l₁ ++ l₂) = accepted l₁ ++ accepted l₂ :=
  List.filterMap_append

theorem getElem?_requests_append {requests : List Request} {call : Nat} {request : Request}
    (h : requests[call]? = some request) (more : List Request) :
    (requests ++ more)[call]? = some request := by
  rw [List.getElem?_append_left (List.getElem?_eq_some_iff.1 h).1, h]

end Action

theorem Channel.exists_of_accept? {α : Type} {c c' : Channel α} {capacity n : Nat}
    (haccept : c.accept? capacity n = some c') :
    ∃ x, (n, x) ∈ c.waiting ∧
      c' = { c with
        waiting := c.waiting.filter (·.1 ≠ n)
        queue := c.queue ++ [(some n, x)] } := by
  unfold accept? at haccept
  split at haccept
  · obtain ⟨x, hlookup, rfl⟩ := Option.map_eq_some_iff.1 haccept
    exact ⟨x, mem_of_lookup hlookup, rfl⟩
  · cases haccept

namespace Dispatcher

variable {σ : Type}

theorem new?_eq_some_iff {settings : Settings} {w : σ} {d : Dispatcher σ} :
    new? settings w = some d ↔ settings.requestBuffer.toNat ≤ capacityLimit ∧
      d =
        { aggregator := .new (.ofSeconds settings.evictionGrace.toNat)
          receiver := w
          capacity := max settings.requestBuffer.toNat 1
          interval := max (settings.sweepInterval.toNat * 1000) 1 } := by
  rw [new?, Option.ite_none_right_eq_some, Option.some.injEq, eq_comm (b := d)]

theorem accept?_cases {d d' : Dispatcher σ} {n : Nat} (haccept : d.accept? n = some d') :
    (∃ batches, d.batches.accept? d.capacity n = some batches ∧ d' = { d with batches }) ∨
      ∃ ruleLists, d.ruleLists.accept? d.capacity n = some ruleLists ∧ d' = { d with ruleLists } := by
  unfold accept? at haccept
  split at haccept
  · exact .inl ⟨_, ‹_›, (Option.some.inj haccept).symm⟩
  · obtain ⟨ruleLists, hruleLists, rfl⟩ := Option.map_eq_some_iff.1 haccept
    exact .inr ⟨ruleLists, hruleLists, rfl⟩

/-! ## Actions -/

/-- An action happens to a dispatcher: what it takes, what becomes of the dispatcher, and what others
see. -/
inductive Happens (r : Receiver σ) (d : Dispatcher σ) : Action → Dispatcher σ → List Effect → Prop
  | call (request : Request) (hheld : d.isHeld = true) :
    Happens r d (.call request) (d.begin request) []
  | accept (call : Nat) (d' : Dispatcher σ) (halive : d.IsAlive) (haccept : d.accept? call = some d') :
    Happens r d (.accept call) d' []
  | abandon (call : Nat) : Happens r d (.abandon call) (d.abandon call) []
  | finish (call : Nat) (hanswered : (d.answered.lookup call).isSome) :
    Happens r d (.finish call) { d with answered := d.answered.filter fun a => a.1 ≠ call } []
  | close (hheld : d.isHeld = true) (hbatches : d.batches.waiting = [])
    (hruleLists : d.ruleLists.waiting = []) : Happens r d .close { d with isHeld := false } []
  | kill (halive : d.IsAlive) : Happens r d .kill d.kill []
  | start (hready : d.phase = .ready) : Happens r d .start { d with phase := .serving }
      [.log (.started (d.interval % Nat.pow 2 64))]
  | serveBatch (now : Instant) (caller : Option Nat) (events : List Event)
    (rest : List (Option Nat × List Event)) (hserving : d.phase = .serving)
    (hopen : d.batches.isOpen = true) (hqueue : d.batches.queue = (caller, events) :: rest)
    (turn : Dispatcher σ × List Effect)
    (hturn : { d with batches := { d.batches with queue := rest } }.carryOut r caller
      (.aggregate events now) = turn) : Happens r d (.serveBatch now) turn.1 turn.2
  | serveRules (caller : Option Nat) (rules : List SharedRule)
    (rest : List (Option Nat × List SharedRule)) (hserving : d.phase = .serving)
    (hopen : d.ruleLists.isOpen = true) (hqueue : d.ruleLists.queue = (caller, rules) :: rest)
    (turn : Dispatcher σ × List Effect)
    (hturn : { d with ruleLists := { d.ruleLists with queue := rest } }.carryOut r caller
      (.replaceRules rules) = turn) : Happens r d .serveRules turn.1 turn.2
  | sweep (now : Instant) (hserving : d.phase = .serving)
    (hopen : d.batches.isOpen = true ∨ d.ruleLists.isOpen = true)
    (turn : Dispatcher σ × List Effect) (hturn : d.carryOut r none (.sweep now) = turn) :
    Happens r d (.sweep now) turn.1 turn.2
  | leaveBatches (hserving : d.phase = .serving) (hopen : d.batches.isOpen = true)
    (hclosed : d.isHeld = false) (hqueue : d.batches.queue = []) :
    Happens r d .leaveBatches { d with batches := { d.batches with isOpen := false } } []
  | leaveRules (hserving : d.phase = .serving) (hopen : d.ruleLists.isOpen = true)
    (hclosed : d.isHeld = false) (hqueue : d.ruleLists.queue = []) :
    Happens r d .leaveRules { d with ruleLists := { d.ruleLists with isOpen := false } } []
  | stop (hserving : d.phase = .serving) (hbatches : d.batches.isOpen = false)
    (hruleLists : d.ruleLists.isOpen = false) :
    Happens r d .stop { d with phase := .stopped, signal := .sent }
      [.log (.stopped d.aggregator.table.length)]

theorem happens_of_act? {r : Receiver σ} {d d' : Dispatcher σ} {a : Action} {effects : List Effect}
    (h : d.act? r a = some (d', effects)) : Happens r d a d' effects := by
  cases a with
  | call request =>
    simp only [act?, Option.ite_none_right_eq_some, Option.some.injEq, Prod.mk.injEq] at h
    obtain ⟨hheld, rfl, rfl⟩ := h
    exact .call request hheld
  | accept call =>
    simp only [act?, Option.ite_none_right_eq_some, Option.map_eq_some_iff, Prod.mk.injEq] at h
    obtain ⟨halive, d₁, haccept, rfl, rfl⟩ := h
    exact .accept call d₁ halive haccept
  | abandon call =>
    simp only [act?, Option.some.injEq, Prod.mk.injEq] at h
    obtain ⟨rfl, rfl⟩ := h
    exact .abandon call
  | finish call =>
    simp only [act?, Option.map_eq_some_iff, Prod.mk.injEq] at h
    obtain ⟨reply, hlookup, rfl, rfl⟩ := h
    exact .finish call (by simp [hlookup])
  | close =>
    simp only [act?, Option.ite_none_right_eq_some, Option.some.injEq, Prod.mk.injEq,
      List.isEmpty_iff] at h
    obtain ⟨⟨hheld, hbatches, hruleLists⟩, rfl, rfl⟩ := h
    exact .close hheld hbatches hruleLists
  | kill =>
    simp only [act?, Option.ite_none_right_eq_some, Option.some.injEq, Prod.mk.injEq] at h
    obtain ⟨halive, rfl, rfl⟩ := h
    exact .kill halive
  | start =>
    simp only [act?, Option.ite_none_right_eq_some, Option.some.injEq, Prod.mk.injEq] at h
    obtain ⟨hready, rfl, rfl⟩ := h
    exact .start hready
  | serveBatch now =>
    simp only [act?] at h
    split at h
    · rename_i caller events rest hqueue
      simp only [Option.ite_none_right_eq_some, Option.some.injEq] at h
      obtain ⟨⟨hserving, hopen⟩, hturn⟩ := h
      exact .serveBatch now caller events rest hserving hopen hqueue (d', effects) hturn
    · cases h
  | serveRules =>
    simp only [act?] at h
    split at h
    · rename_i caller rules rest hqueue
      simp only [Option.ite_none_right_eq_some, Option.some.injEq] at h
      obtain ⟨⟨hserving, hopen⟩, hturn⟩ := h
      exact .serveRules caller rules rest hserving hopen hqueue (d', effects) hturn
    · cases h
  | sweep now =>
    simp only [act?, Option.ite_none_right_eq_some, Option.some.injEq] at h
    obtain ⟨⟨hserving, hopen⟩, hturn⟩ := h
    exact .sweep now hserving hopen (d', effects) hturn
  | leaveBatches =>
    simp only [act?, Option.ite_none_right_eq_some, Option.some.injEq, Prod.mk.injEq,
      Bool.not_eq_true, List.isEmpty_iff] at h
    obtain ⟨⟨hserving, hopen, hclosed, hqueue⟩, rfl, rfl⟩ := h
    exact .leaveBatches hserving hopen hclosed hqueue
  | leaveRules =>
    simp only [act?, Option.ite_none_right_eq_some, Option.some.injEq, Prod.mk.injEq,
      Bool.not_eq_true, List.isEmpty_iff] at h
    obtain ⟨⟨hserving, hopen, hclosed, hqueue⟩, rfl, rfl⟩ := h
    exact .leaveRules hserving hopen hclosed hqueue
  | stop =>
    simp only [act?, Option.ite_none_right_eq_some, Option.some.injEq, Prod.mk.injEq,
      Bool.not_eq_true] at h
    obtain ⟨⟨hserving, hbatches, hruleLists⟩, rfl, rfl⟩ := h
    exact .stop hserving hbatches hruleLists

/-! ## Courses of actions -/

/-- What a caller is told at an action: the answer that it takes. -/
def told (d : Dispatcher σ) : Action → List (Nat × Reply)
  | .finish call => ((d.answered.lookup call).map (call, ·)).toList
  | _ => []

/-- A dispatcher with what was seen of it so far. -/
structure Course (σ : Type) where
  dispatcher : Dispatcher σ
  /-- What others saw, oldest first. -/
  effects : List Effect := []
  /-- The answers that callers took, oldest first. -/
  replies : List (Nat × Reply) := []

/-- One more action, if it is possible. -/
def Course.act? (r : Receiver σ) (c : Course σ) (a : Action) : Option (Course σ) :=
  (c.dispatcher.act? r a).map fun next =>
    ⟨next.1, c.effects ++ next.2, c.replies ++ c.dispatcher.told a⟩

/-- The course that actions take, if all of them are possible. -/
def run? (r : Receiver σ) (d : Dispatcher σ) (actions : List Action) : Option (Course σ) :=
  actions.foldlM (Course.act? r) ⟨d, [], []⟩

theorem run?_append {r : Receiver σ} {d : Dispatcher σ} {l₁ l₂ : List Action} {c : Course σ}
    (h : run? r d (l₁ ++ l₂) = some c) : ∃ c', run? r d l₁ = some c' := by
  rw [run?, List.foldlM_append] at h
  obtain ⟨c', hc', -⟩ := Option.bind_eq_some_iff.1 h
  exact ⟨c', hc'⟩

theorem run?_snoc {r : Receiver σ} {d : Dispatcher σ} {actions : List Action} {a : Action}
    {c : Course σ} (h : run? r d (actions ++ [a]) = some c) :
    ∃ c', run? r d actions = some c' ∧ c'.act? r a = some c := by
  rw [run?, List.foldlM_append] at h
  obtain ⟨c', hc', h⟩ := Option.bind_eq_some_iff.1 h
  obtain ⟨c₁, hact, hrest⟩ := Option.bind_eq_some_iff.1 h
  obtain rfl := Option.some.inj hrest
  exact ⟨c', hc', hact⟩

theorem run?_snoc_eq {r : Receiver σ} {d : Dispatcher σ} {actions : List Action} {a : Action}
    {c c' : Course σ} (h : run? r d actions = some c) (hact : c.act? r a = some c') :
    run? r d (actions ++ [a]) = some c' := by
  rw [run?] at h ⊢
  rw [List.foldlM_append, h, Option.bind_eq_bind, Option.bind_some, List.foldlM_cons, hact]
  rfl

theorem run?_last {r : Receiver σ} {d : Dispatcher σ} {actions : List Action} {a : Action}
    {c : Course σ} (h : run? r d (actions ++ [a]) = some c) :
    ∃ c' effects, run? r d actions = some c' ∧
      c'.dispatcher.act? r a = some (c.dispatcher, effects) := by
  obtain ⟨c', hc', hact⟩ := run?_snoc h
  obtain ⟨⟨d', effects⟩, hd', rfl⟩ := Option.map_eq_some_iff.1 hact
  exact ⟨c', effects, hc', hd'⟩

end Dispatcher

end Alerting
