import Alerting.Proofs.Aggregator.Ownership
import Alerting.Proofs.Time.Sum

/-!
# Deadlines of aggregations

An aggregator counts its deadlines with the grace that is stored for the one it was given. Up to the
last instant no number overflows on the way, and a deadline is not before the time that it is
counted from, and no later than that of a longer stored grace. So an aggregation never ends before
it is opened.
-/

namespace Alerting

theorem Instant.later_eq_right {a b : Instant} (h : a ≤ b) : a.later b = b := by
  unfold later
  split
  · rfl
  · rename_i hlt
    exact le_antisymm h (not_lt.1 hlt)

namespace Aggregator

open Aggregation

variable {σ : Type} {r : Receiver σ}

theorem endsAt_of_opens {g : Aggregator} {w : σ} {e : Event} {now : Instant} {f : Fingerprint}
    (hnow : now ≤ .latest) (h : (g.moment r w (.take e now)).Opens f) :
    ∃ a, (g.moment r w (.take e now)).after.table.get? f = some a ∧ a.endsAt = g.deadline now := by
  obtain rfl := fingerprint_of_opens h
  obtain ⟨hbefore, hafter⟩ := h
  simp only [moment, does] at hbefore hafter ⊢
  cases hrule : SharedRule.firstMatch? g.rules e with
  | none =>
    rw [take_of_unclaimed r g w now hrule, hbefore] at hafter
    cases hafter
  | some rule =>
    refine ⟨_, (get?_take r g w now hrule _).trans (if_pos rfl), ?_⟩
    rw [endsAt_send, land_eq_of_none rfl hbefore, endsAt_joined]
    exact Instant.later_eq_right (Instant.le_addCapped hnow g.grace)

/-- **Deadlines.** The deadline is what the calendar comes to for the stored grace, or the last
instant where there is no such date. -/
theorem deadline_is_capped_sum {now : Instant} (hnow : now ≤ .latest) (r : Receiver σ)
    (configured : Span) (w : σ) (ops : List Operation) :
    let start := Aggregator.new configured
    let run := history r start w ops
    let g := (performAll r start w ops).aggregator
    (∃ sum : Option Instant, now.civil.plus? configured.grace = some (sum.map Instant.civil) ∧
      g.deadline now = sum.getD .latest) ∧
    now ≤ g.deadline now ∧
    (∀ longer : Span, configured.grace ≤ longer.grace →
      g.deadline now ≤ (Aggregator.new longer).deadline now) ∧
    ∀ past m rest f e, run = past ++ m :: rest → m.deed = .take e now → m.Opens f →
      ∃ a, m.after.table.get? f = some a ∧ a.endsAt = g.deadline now ∧ now ≤ a.endsAt := by
  intro start run g
  have htrail := trail_history r start w ops
  have hdeadline : g.deadline now = now.addCapped configured.grace :=
    congrArg now.addCapped htrail.grace_eq.1
  have hle : now ≤ g.deadline now := hdeadline ▸ Instant.le_addCapped hnow configured.grace
  refine ⟨⟨now.add? configured.grace, now.civil_plus? configured.grace_le_longest, hdeadline⟩, hle,
    fun longer hlonger => ?_, fun past m rest f e hrun hdeed hopens => ?_⟩
  · rw [hdeadline]
    exact Instant.addCapped_le_addCapped hnow hlonger
  · obtain ⟨g', w', hpast, hm⟩ := htrail.at_moment hrun
    rw [hdeed] at hm
    rw [hm] at hopens ⊢
    obtain ⟨a, ha, hends⟩ := endsAt_of_opens hnow hopens
    have hsame : g'.deadline now = g.deadline now :=
      congrArg now.addCapped (hpast.grace_eq.1.trans htrail.grace_eq.1.symm)
    exact ⟨a, ha, hends.trans hsame, by rwa [hends, hsame]⟩

/-- Half a second into the leap second of 2016 a grace of 0.7 seconds leads out of it, into the first
second of 2017. -/
theorem deadline_is_capped_sum_leap :
    let pleased : Receiver Unit := ⟨fun w _ => ⟨w, .ok (), []⟩⟩
    let e : Event := { createdAt := .epoch }
    let now : Instant := ⟨1483228799, 1500000000, by decide, by decide, by decide, by decide⟩
    let ops : List Operation := [.replaceRules [⟨0, {}⟩], .aggregate [e] now]
    let run := history pleased (.new ⟨700000000⟩) () ops
    now ≤ .latest ∧ ∃ past m rest a, run = past ++ m :: rest ∧
      m.after.table.get? e.fingerprint = some a ∧ now ≤ a.endsAt ∧
      (a.endsAt.seconds, a.endsAt.nanos) = (1483228800, 200000000) := by
  intro pleased e now ops run
  have hnow : now ≤ .latest := by decide
  obtain ⟨n₁, n₂, m, n₃, hrun, hdeed, hopens⟩ : ∃ n₁ n₂ m n₃, run = [n₁, n₂] ++ m :: [n₃] ∧
      m.deed = .take e now ∧ m.Opens e.fingerprint :=
    ⟨_, _, _, _, rfl, rfl, rfl, by decide +kernel⟩
  obtain ⟨-, -, -, hends⟩ := deadline_is_capped_sum hnow pleased ⟨700000000⟩ () ops
  obtain ⟨a, ha, hdeadline, hle⟩ := hends [n₁, n₂] m [n₃] e.fingerprint e hrun hdeed hopens
  refine ⟨hnow, _, m, _, a, hrun, ha, hle, ?_⟩
  rw [hdeadline]
  decide +kernel

end Aggregator

end Alerting
