import Alerting.CommandLine.Basic
import Alerting.Proofs.Aggregator.Eviction
import Alerting.Proofs.Dispatcher.Closing
import Alerting.Proofs.Time.Deadline
import Alerting.RulesFile.Toml

/-!
# Starting

Whatever the settings, a dispatcher that is made has channels, a timer and a grace within their
limits. It keeps to these in every run, and it starts when it is first run, however long callers
went on before. Not every one is made: nothing caps the room that a rules file may ask for.
-/

namespace Alerting

namespace Aggregator

variable {σ : Type}

theorem grace_doAll (r : Receiver σ) (g : Aggregator) (w : σ) (ds : List Deed) :
    (doAll r g w ds).aggregator.grace = g.grace := by
  induction ds generalizing g w with
  | nil => rfl
  | cons d rest ih => exact (ih _ _).trans (grace_does r g w d)

theorem grace_perform (r : Receiver σ) (g : Aggregator) (w : σ) (op : Operation) :
    (g.perform r w op).aggregator.grace = g.grace := by
  have hdeeds := grace_doAll r g w (g.deeds op)
  rw [doAll_deeds] at hdeeds
  exact hdeeds

end Aggregator

namespace Dispatcher

variable {σ : Type} {r : Receiver σ} {d d' : Dispatcher σ} {a : Action} {actions : List Action}
  {effects : List Effect} {c : Course σ} {settings : Settings} {w : σ}

/-- What the parts of a dispatcher are made from lies within what they take. -/
structure WithinLimits (d : Dispatcher σ) : Prop where
  capacity_pos : 0 < d.capacity
  capacity_le : d.capacity ≤ capacityLimit
  interval_pos : 0 < d.interval
  grace_le : d.aggregator.grace ≤ .longest

/-- What an action leaves as it is: what the dispatcher was made from. -/
structure Keeps (d d' : Dispatcher σ) : Prop where
  capacity_eq : d'.capacity = d.capacity
  interval_eq : d'.interval = d.interval
  grace_eq : d'.aggregator.grace = d.aggregator.grace

/-- The dispatcher can start and tells its interval, and then it can sweep at any time. -/
def Starts (r : Receiver σ) (d : Dispatcher σ) : Prop :=
  ∃ d', d.act? r .start = some (d', [.log (.started (d.interval % Nat.pow 2 64))]) ∧
    ∀ now, (d'.act? r (.sweep now)).isSome

/-! ## Making one -/

theorem new?_eq_none_iff (settings : Settings) (w : σ) :
    new? settings w = none ↔ capacityLimit < settings.requestBuffer.toNat := by
  unfold new?
  split <;> simp <;> omega

theorem withinLimits_new (h : new? settings w = some d) : d.WithinLimits := by
  obtain ⟨hroom, rfl⟩ := new?_eq_some_iff.1 h
  have hone : 1 ≤ capacityLimit := by decide
  exact ⟨by simp, Nat.max_le.2 ⟨hroom, hone⟩, by simp, Span.grace_le_longest _⟩

/-! ## Steps -/

theorem keeps_begin (d : Dispatcher σ) (request : Request) : Keeps d (d.begin request) := by
  unfold begin
  split
  · cases request <;> exact ⟨rfl, rfl, rfl⟩
  · exact ⟨rfl, rfl, rfl⟩

theorem keeps_accept? {call : Nat} (h : d.accept? call = some d') : Keeps d d' := by
  obtain ⟨_, -, rfl⟩ | ⟨_, -, rfl⟩ := accept?_cases h <;> exact ⟨rfl, rfl, rfl⟩

theorem keeps_act? (hact : d.act? r a = some (d', effects)) : Keeps d d' := by
  cases happens_of_act? hact with
  | call request _ => exact keeps_begin d request
  | accept call _ _ haccept => exact keeps_accept? haccept
  | serveBatch _ _ _ _ _ _ _ turn hturn | serveRules _ _ _ _ _ _ turn hturn
  | sweep _ _ _ turn hturn =>
    subst hturn
    exact ⟨rfl, rfl, Aggregator.grace_perform r _ _ _⟩
  | _ => exact ⟨rfl, rfl, rfl⟩

theorem WithinLimits.kept (h : d.WithinLimits) (hkeeps : Keeps d d') : d'.WithinLimits := by
  obtain ⟨hcapacity, hinterval, hgrace⟩ := hkeeps
  constructor
  · exact hcapacity ▸ h.capacity_pos
  · exact hcapacity ▸ h.capacity_le
  · exact hinterval ▸ h.interval_pos
  · exact hgrace ▸ h.grace_le

theorem Orderly.starts (h : d.Orderly) (hready : d.phase = .ready) : Starts r d := by
  refine ⟨{ d with phase := .serving }, if_pos hready, fun now => ?_⟩
  simp [act?, (h.isOpen (.inr hready)).1]

/-! ## Runs -/

theorem withinLimits_run (hnew : new? settings w = some d) (hrun : run? r d actions = some c) :
    c.dispatcher.WithinLimits := by
  induction actions using List.reverseRecOn generalizing c with
  | nil =>
    obtain rfl := Option.some.inj hrun
    exact withinLimits_new hnew
  | append_singleton actions a ih =>
    obtain ⟨c', effects, hc', hact⟩ := run?_last hrun
    exact (ih hc').kept (keeps_act? hact)

/-- **Starting.** There is a dispatcher for all settings but those that ask for too large a channel,
and it starts within its limits. -/
theorem starts_unless_oversized (settings : Settings) (w : σ) (r : Receiver σ) :
    (new? settings w = none ↔ capacityLimit < settings.requestBuffer.toNat) ∧
      ∀ d actions c, new? settings w = some d → run? r d actions = some c →
        c.dispatcher.WithinLimits ∧ (c.dispatcher.phase = .ready → Starts r c.dispatcher) := by
  refine ⟨new?_eq_none_iff settings w, fun d actions c hnew hrun => ?_⟩
  exact ⟨withinLimits_run hnew hrun, (orderly_run hnew hrun).1.starts⟩

/-- A rules file that asks for the largest channel that can be written is accepted, but no
dispatcher comes of it. -/
theorem largest_request_buffer_never_starts :
    ∃ file, RulesFile.load (some "[aggregator]\nrequest_buffer = 9223372036854775807\n".toUTF8) =
        .ok file ∧
      ∀ arguments : CommandLine.Arguments, new? (arguments.settings file.settings) () = none := by
  have hload : (RulesFile.load
      (some "[aggregator]\nrequest_buffer = 9223372036854775807\n".toUTF8)).toOption =
        some { settings := { requestBuffer := 9223372036854775807 } } := by
    decide +kernel
  cases h : RulesFile.load (some "[aggregator]\nrequest_buffer = 9223372036854775807\n".toUTF8) with
  | error e =>
    rw [h] at hload
    cases hload
  | ok file =>
    rw [h] at hload
    cases hload
    refine ⟨_, rfl, fun arguments => (new?_eq_none_iff _ _).2 ?_⟩
    exact (by decide : capacityLimit < (9223372036854775807 : UInt64).toNat)

end Dispatcher

end Alerting
