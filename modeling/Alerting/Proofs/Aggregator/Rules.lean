import Alerting.Proofs.Aggregator.History

/-!
# The rules in force

Only a new list of rules changes which rules are in force, so a batch meets one list from its first
event to its last.
-/

namespace Alerting.Aggregator

variable {σ : Type}

def Deed.Replaces : Deed → Prop
  | .replaceRules _ => True
  | _ => False

theorem rules_land (g : Aggregator) (rule : SharedRule) (now : Instant) (e : Event) :
    (g.land rule now e).aggregator.rules = g.rules := by
  unfold land reach
  dsimp only
  split <;> rfl

theorem rules_take (r : Receiver σ) (now : Instant) (g : Aggregator) (w : σ) (e : Event) :
    (g.take r now w e).aggregator.rules = g.rules := by
  unfold take
  split
  · rfl
  · exact rules_land g _ now e

theorem rules_does {d : Deed} (r : Receiver σ) (g : Aggregator) (w : σ) (hd : ¬d.Replaces) :
    (g.does r w d).aggregator.rules = g.rules := by
  cases d with
  | take e now => exact rules_take r now g w e
  | replaceRules rules => exact absurd trivial hd
  | announce _ | gauge | reject | sweep _ => rfl

theorem rules_moments (r : Receiver σ) {ds : List Deed} (g : Aggregator) (w : σ)
    (hds : ∀ d ∈ ds, ¬d.Replaces) : ∀ m ∈ g.moments r w ds, m.before.rules = g.rules := by
  induction ds generalizing g w with
  | nil => exact fun m hm => absurd hm List.not_mem_nil
  | cons d rest ih =>
    intro m hm
    rcases List.mem_cons.1 hm with rfl | hm
    · rfl
    · rw [ih _ _ (fun d' hd' => hds d' (List.mem_cons_of_mem _ hd')) m hm]
      exact rules_does r g w (hds d List.mem_cons_self)

theorem rules_doAll (r : Receiver σ) {ds : List Deed} (g : Aggregator) (w : σ)
    (hds : ∀ d ∈ ds, ¬d.Replaces) : (doAll r g w ds).aggregator.rules = g.rules := by
  induction ds generalizing g w with
  | nil => rfl
  | cons d rest ih =>
    rw [doAll, ih _ _ fun d' hd' => hds d' (List.mem_cons_of_mem _ hd')]
    exact rules_does r g w (hds d List.mem_cons_self)

theorem not_replaces_of_aggregate (g : Aggregator) (events : List Event) (now : Instant) :
    ∀ d ∈ g.deeds (.aggregate events now), ¬d.Replaces := by
  simp only [deeds]
  split
  · rintro d hd
    rw [List.mem_singleton.1 hd]
    exact id
  · simp only [List.cons_append, List.mem_cons, List.mem_append, List.mem_map, List.not_mem_nil,
      or_false]
    rintro d (rfl | ⟨e, _, rfl⟩ | rfl) <;> exact id

theorem rules_aggregate (r : Receiver σ) (g : Aggregator) (w : σ) (events : List Event)
    (now : Instant) : (g.perform r w (.aggregate events now)).aggregator.rules = g.rules := by
  have hdeeds := congrArg (·.aggregator.rules) (doAll_deeds r g w (.aggregate events now))
  rw [← rules_doAll r g w (not_replaces_of_aggregate g events now)]
  exact hdeeds.symm

end Alerting.Aggregator
