import Alerting.Proofs.Dispatcher.Course
import Mathlib.Data.List.Induction

/-!
# Order in the channels

When a dispatcher listens, who may still wait, and what the closing signal says: one invariant of all
runs, those in which the dispatcher is given up among them. The same step brings a dispatcher whose
handle is closed nearer to its end.
-/

namespace Alerting

/-- The action is a turn of the dispatcher to one of its channels. -/
def Action.isTurn : Action → Bool
  | .serveBatch _ | .serveRules | .leaveBatches | .leaveRules => true
  | _ => false

/-- The phase after an action, if the phase before allows it. -/
def Action.phase? (p : Phase) : Action → Option Phase
  | .start => if p = .ready then some .serving else none
  | .stop => if p = .serving then some .stopped else none
  | .kill => if p = .ready ∨ p = .serving then some .gone else none
  | _ => some p

theorem Action.phase?_eq_stopped_iff {p p' : Phase} {a : Action} (h : a.phase? p = some p') :
    p' = .stopped ↔ p = .stopped ∨ a = .stop := by
  cases a <;> cases p <;> simp_all [phase?, eq_comm]

theorem Action.phase?_eq_gone_iff {p p' : Phase} {a : Action} (h : a.phase? p = some p') :
    p' = .gone ↔ p = .gone ∨ a = .kill := by
  cases a <;> cases p <;> simp_all [phase?, eq_comm]

/-- What the closing signal says in a phase. -/
def Phase.signal : Phase → Signal
  | .ready | .serving => .pending
  | .stopped => .sent
  | .gone => .dropped

namespace Channel

variable {α : Type} {c c' : Channel α}

/-- The turns that a dispatcher takes to drain a channel: one for each request, and one to leave. -/
def turns (c : Channel α) : Nat := c.queue.length + c.isOpen.toNat

theorem turns_take {entry : Option Nat × α} {rest : List (Option Nat × α)}
    (h : c.queue = entry :: rest) : ({ c with queue := rest } : Channel α).turns + 1 = c.turns := by
  simp only [turns, h, List.length_cons]
  omega

theorem turns_leave (h : c.isOpen = true) :
    ({ c with isOpen := false } : Channel α).turns + 1 = c.turns := by
  simp [turns, h]

theorem isOpen_of_accept? {capacity call : Nat} (haccept : c.accept? capacity call = some c') :
    c'.isOpen = c.isOpen := by
  obtain ⟨x, -, rfl⟩ := exists_of_accept? haccept
  rfl

theorem waiting_of_accept? {capacity call : Nat} (haccept : c.accept? capacity call = some c') :
    c.waiting ≠ [] := by
  obtain ⟨x, hmem, -⟩ := exists_of_accept? haccept
  exact List.ne_nil_of_mem hmem

end Channel

namespace Dispatcher

variable {σ : Type} {r : Receiver σ} {d d' : Dispatcher σ} {a : Action} {actions : List Action}
  {effects : List Effect} {c : Course σ}

/-- The dispatcher listens while the handle is held, nobody waits once it is closed, and a channel
that was left is empty. -/
structure Orderly (d : Dispatcher σ) : Prop where
  isOpen : d.isHeld = true ∨ d.phase = .ready → d.batches.isOpen = true ∧ d.ruleLists.isOpen = true
  waiting : d.isHeld = false → d.batches.waiting = [] ∧ d.ruleLists.waiting = []
  batches : d.batches.isOpen = false → d.batches.queue = []
  ruleLists : d.ruleLists.isOpen = false → d.ruleLists.queue = []
  stopped : d.phase = .stopped →
    d.isHeld = false ∧ d.batches.isOpen = false ∧ d.ruleLists.isOpen = false
  signal : d.signal = d.phase.signal

theorem Orderly.not_stopped (h : d.Orderly) (hheld : d.isHeld = true) : d.phase ≠ .stopped :=
  fun hstopped => absurd (hheld.symm.trans (h.stopped hstopped).1) nofun

theorem Orderly.isHeld_eq_false (h : d.Orderly) (hleft : d.batches.isOpen = false) :
    d.isHeld = false := by
  by_contra hheld
  rw [Bool.not_eq_false] at hheld
  exact absurd ((h.isOpen (.inl hheld)).1.symm.trans hleft) nofun

/-- As long as the handle is held the dispatcher may serve, unless it was given up. -/
theorem Orderly.isAlive (h : d.Orderly) (hheld : d.isHeld = true) (hgone : d.phase ≠ .gone) :
    d.IsAlive := by
  have hstopped := h.not_stopped hheld
  unfold IsAlive
  cases hphase : d.phase <;> simp_all

/-- The turns that a dispatcher takes to drain its channels. -/
def turns (d : Dispatcher σ) : Nat := d.batches.turns + d.ruleLists.turns

theorem turns_of_batches (hbatches : d'.batches.turns + 1 = d.batches.turns)
    (hruleLists : d'.ruleLists = d.ruleLists) : d'.turns + 1 = d.turns := by
  rw [turns, turns, hruleLists]
  omega

theorem turns_of_ruleLists (hbatches : d'.batches = d.batches)
    (hruleLists : d'.ruleLists.turns + 1 = d.ruleLists.turns) : d'.turns + 1 = d.turns := by
  rw [turns, turns, hbatches]
  omega

/-! ## Steps -/

/-- An action brings a dispatcher nearer to its end: the handle stays closed, and a turn is one turn
less to take. -/
structure Proceeds (d : Dispatcher σ) (a : Action) (d' : Dispatcher σ) : Prop where
  orderly : d'.Orderly
  phase : a.phase? d.phase = some d'.phase
  isHeld : d.isHeld = false → d'.isHeld = false
  turns : d.isHeld = false → a ≠ .kill → d'.turns + a.isTurn.toNat = d.turns

theorem Orderly.proceeds_of_held (h : d.Orderly) (hheld : d.isHeld = true) (hheld' : d'.isHeld = true)
    (hbatches : d'.batches.isOpen = d.batches.isOpen)
    (hruleLists : d'.ruleLists.isOpen = d.ruleLists.isOpen) (hkept : d'.phase = d.phase)
    (hsignal : d'.signal = d.signal) (hphase : a.phase? d.phase = some d.phase) :
    Proceeds d a d' := by
  -- nothing is said of waiting calls or of turns before the handle is closed
  obtain ⟨hopen₁, hopen₂⟩ := h.isOpen (.inl hheld)
  rw [← hbatches] at hopen₁
  rw [← hruleLists] at hopen₂
  constructor
  · constructor <;> simp [hheld', hopen₁, hopen₂, h.not_stopped hheld, hsignal, hkept, h.signal]
  · rw [hphase, hkept]
  · simp [hheld]
  · simp [hheld]

theorem Orderly.proceeds_of_eq (h : d.Orderly) (hheld : d'.isHeld = d.isHeld)
    (hbatches : d'.batches = d.batches) (hruleLists : d'.ruleLists = d.ruleLists)
    (hready : d'.phase = .ready → d.phase = .ready)
    (hstopped : d'.phase = .stopped →
      d.isHeld = false ∧ d.batches.isOpen = false ∧ d.ruleLists.isOpen = false)
    (hsignal : d'.signal = d'.phase.signal)
    (hphase : a.phase? d.phase = some d'.phase) (hturn : a.isTurn = false) : Proceeds d a d' := by
  obtain ⟨hopen, hwaiting, hqueue₁, hqueue₂, -, -⟩ := h
  rw [← hheld, ← hbatches, ← hruleLists] at hopen hwaiting hstopped
  rw [← hbatches] at hqueue₁
  rw [← hruleLists] at hqueue₂
  constructor
  · exact ⟨fun hlistens => hopen (hlistens.imp_right hready), hwaiting, hqueue₁, hqueue₂, hstopped,
      hsignal⟩
  · exact hphase
  · simp [hheld]
  · intro _ _
    simp [turns, hbatches, hruleLists, hturn]

theorem Orderly.begin (h : d.Orderly) (hheld : d.isHeld = true) (request : Request) :
    Proceeds d (.call request) (d.begin request) := by
  unfold Dispatcher.begin
  split
  · cases request <;> exact h.proceeds_of_held hheld hheld rfl rfl rfl rfl rfl
  · exact h.proceeds_of_held hheld hheld rfl rfl rfl rfl rfl

theorem Orderly.accept (h : d.Orderly) {call : Nat} (haccept : d.accept? call = some d') :
    Proceeds d (.accept call) d' := by
  cases hheld : d.isHeld with
  | false =>
    -- nobody is left who could be let in
    obtain ⟨hbatches, hruleLists⟩ := h.waiting hheld
    obtain ⟨_, hchannel, -⟩ | ⟨_, hchannel, -⟩ := accept?_cases haccept
    · exact absurd hbatches (Channel.waiting_of_accept? hchannel)
    · exact absurd hruleLists (Channel.waiting_of_accept? hchannel)
  | true =>
    obtain ⟨batches, hchannel, rfl⟩ | ⟨ruleLists, hchannel, rfl⟩ := accept?_cases haccept
    · exact h.proceeds_of_held hheld hheld (Channel.isOpen_of_accept? hchannel) rfl rfl rfl rfl
    · exact h.proceeds_of_held hheld hheld rfl (Channel.isOpen_of_accept? hchannel) rfl rfl rfl

theorem Orderly.abandon (h : d.Orderly) (call : Nat) : Proceeds d (.abandon call) (d.abandon call) := by
  refine ⟨⟨h.isOpen, fun hheld => ?_, fun hopen => ?_, fun hopen => ?_, h.stopped, h.signal⟩, rfl, id,
    fun _ _ => ?_⟩
  · simp [Dispatcher.abandon, Channel.abandon, h.waiting hheld]
  · simp [Dispatcher.abandon, Channel.abandon, h.batches hopen]
  · simp [Dispatcher.abandon, Channel.abandon, h.ruleLists hopen]
  · simp [turns, Channel.turns, Dispatcher.abandon, Channel.abandon, Action.isTurn]

theorem Orderly.step (h : d.Orderly) (hact : d.act? r a = some (d', effects)) : Proceeds d a d' := by
  cases happens_of_act? hact with
  | call request hheld => exact h.begin hheld request
  | accept call _ halive haccept => exact h.accept haccept
  | abandon call => exact h.abandon call
  | finish call hanswered => exact h.proceeds_of_eq rfl rfl rfl id h.stopped h.signal rfl rfl
  | close hheld hbatches hruleLists =>
    have hopen := h.isOpen (.inl hheld)
    refine ⟨⟨fun _ => hopen, fun _ => ⟨hbatches, hruleLists⟩, h.batches, h.ruleLists,
      fun hstopped => absurd hstopped (h.not_stopped hheld), h.signal⟩, rfl, fun _ => rfl, ?_⟩
    simp [hheld]
  | kill halive =>
    have hopen : d.isHeld = true ∨ Phase.gone = .ready → _ :=
      fun hlistens => h.isOpen (hlistens.imp_right nofun)
    exact ⟨⟨hopen, fun _ => ⟨rfl, rfl⟩, fun _ => rfl, fun _ => rfl, nofun, rfl⟩, if_pos halive, id,
      nofun⟩
  | start hready =>
    have hsignal : d.signal = .pending := by rw [h.signal, hready, Phase.signal]
    exact h.proceeds_of_eq rfl rfl rfl nofun nofun hsignal (if_pos hready) rfl
  | serveBatch now caller events rest hserving hopen hqueue turn hturn =>
    subst hturn
    refine ⟨⟨h.isOpen, h.waiting, ?_, h.ruleLists, h.stopped, h.signal⟩, rfl, id, fun _ _ => ?_⟩
    · exact fun hleft => absurd (hopen.symm.trans hleft) nofun
    · exact turns_of_batches (Channel.turns_take hqueue) rfl
  | serveRules caller rules rest hserving hopen hqueue turn hturn =>
    subst hturn
    refine ⟨⟨h.isOpen, h.waiting, h.batches, ?_, h.stopped, h.signal⟩, rfl, id, fun _ _ => ?_⟩
    · exact fun hleft => absurd (hopen.symm.trans hleft) nofun
    · exact turns_of_ruleLists rfl (Channel.turns_take hqueue)
  | sweep now hserving hopen turn hturn =>
    subst hturn
    exact h.proceeds_of_eq rfl rfl rfl id h.stopped h.signal rfl rfl
  | leaveBatches hserving hopen hclosed hqueue =>
    refine ⟨⟨fun hlistens => ?_, h.waiting, fun _ => hqueue, h.ruleLists, fun hstopped => ?_, h.signal⟩,
      rfl, id, fun _ _ => ?_⟩
    · simp [hclosed, hserving] at hlistens
    · exact absurd (hserving.symm.trans hstopped) nofun
    · exact turns_of_batches (Channel.turns_leave hopen) rfl
  | leaveRules hserving hopen hclosed hqueue =>
    refine ⟨⟨fun hlistens => ?_, h.waiting, h.batches, fun _ => hqueue, fun hstopped => ?_, h.signal⟩,
      rfl, id, fun _ _ => ?_⟩
    · simp [hclosed, hserving] at hlistens
    · exact absurd (hserving.symm.trans hstopped) nofun
    · exact turns_of_ruleLists rfl (Channel.turns_leave hopen)
  | stop hserving hbatches hruleLists =>
    exact h.proceeds_of_eq rfl rfl rfl nofun
      (fun _ => ⟨h.isHeld_eq_false hbatches, hbatches, hruleLists⟩) rfl (if_pos hserving) rfl

/-! ## Runs -/

variable {settings : Settings} {w : σ}

theorem orderly_new (h : new? settings w = some d) : d.Orderly ∧ d.phase = .ready := by
  obtain ⟨-, rfl⟩ := new?_eq_some_iff.1 h
  exact ⟨⟨fun _ => ⟨rfl, rfl⟩, nofun, nofun, nofun, nofun, rfl⟩, rfl⟩

theorem orderly_run (hnew : new? settings w = some d) (hrun : run? r d actions = some c) :
    c.dispatcher.Orderly ∧ (c.dispatcher.phase = .stopped ↔ .stop ∈ actions) ∧
      (c.dispatcher.phase = .gone ↔ .kill ∈ actions) := by
  induction actions using List.reverseRecOn generalizing c with
  | nil =>
    obtain rfl := Option.some.inj hrun
    obtain ⟨horderly, hready⟩ := orderly_new hnew
    simp [horderly, hready]
  | append_singleton actions a ih =>
    obtain ⟨c', effects, hc', hact⟩ := run?_last hrun
    obtain ⟨horderly, hstopped, hgone⟩ := ih hc'
    have hstep := horderly.step hact
    rw [List.mem_append, List.mem_append, List.mem_singleton, List.mem_singleton, ← hstopped, ← hgone]
    exact ⟨hstep.orderly, by simpa [eq_comm] using Action.phase?_eq_stopped_iff hstep.phase,
      by simpa [eq_comm] using Action.phase?_eq_gone_iff hstep.phase⟩

end Dispatcher

end Alerting
