import Alerting.Proofs.Aggregator.QuietPeriod
import Alerting.Proofs.Aggregator.Rules

/-!
# Ownership

The rule that claimed the first event of a lifetime owns the aggregation until a sweep evicts it. It is
that very object, whatever lists come later. Where an event goes, and whether it goes anywhere, is up to
the list in force and to nothing else.
-/

namespace Alerting.Aggregator

open Aggregation

variable {σ : Type} {r : Receiver σ}

/-! ## The list in force -/

def Deed.rules? : Deed → Option (List SharedRule)
  | .replaceRules rules => some rules
  | _ => none

/-- The rules in force after these moments of a run: those of the last list that was set. -/
def inForce (past : List Moment) : List SharedRule :=
  ((past.filterMap (·.deed.rules?)).getLast?).getD []

theorem inForce_snoc (past : List Moment) (m : Moment) :
    inForce (past ++ [m]) = m.deed.rules?.getD (inForce past) := by
  unfold inForce
  cases h : m.deed.rules? <;> simp [h]

theorem Trail.rules_eq {grace : Span} {g : Aggregator} {w w' : σ} {past : List Moment}
    (h : Trail r (.new grace) w past g w') : g.rules = inForce past := by
  induction h with
  | start => rfl
  | @next past g' w' d _ ih =>
    rw [inForce_snoc, ← ih]
    cases d with
    | replaceRules rules => rfl
    | take _ _ | announce _ | gauge | reject | sweep _ => exact rules_does r g' w' id

theorem rules_of_reject {g : Aggregator} {w : σ} {ops : List Operation} {m : Moment}
    (hm : m ∈ history r g w ops) (hd : m.deed = .reject) : m.before.rules = [] := by
  induction ops generalizing g w with
  | nil => exact absurd hm List.not_mem_nil
  | cons op rest ih =>
    rcases List.mem_append.1 hm with hm | hm
    · have hmem := deed_mem_of_mem_moments hm
      rw [hd] at hmem
      cases op with
      | aggregate events now =>
        by_cases hrules : g.rules.isEmpty = true
        · simp only [deeds, hrules, if_true, moments, List.mem_singleton] at hm
          rw [hm]
          exact List.isEmpty_iff.1 hrules
        · simp [deeds, hrules] at hmem
      | replaceRules rules => simp [deeds] at hmem
      | sweep now => simp [deeds] at hmem
    · exact ih hm

/-! ## The owner -/

/-- Of the rules then in force it was the first to claim the event that opened the aggregation,
which no sweep has evicted since. -/
def Owns (rule : SharedRule) (f : Fingerprint) (past : List Moment) : Prop :=
  ∃ before m later e now, past = before ++ m :: later ∧ m.deed = .take e now ∧ e.fingerprint = f ∧
    m.Opens f ∧ SharedRule.firstMatch? (inForce before) e = some rule ∧ ∀ m' ∈ later, ¬m'.Evicts f

theorem fingerprint_of_opens {g : Aggregator} {w : σ} {e : Event} {now : Instant} {f : Fingerprint}
    (h : (g.moment r w (.take e now)).Opens f) : e.fingerprint = f := by
  obtain ⟨hbefore, hafter⟩ := h
  simp only [moment] at hbefore hafter
  by_contra hf
  have hd : ¬(Deed.take e now).Concerns g f := fun hd => hf hd.2
  rw [get?_does_of_not_concerns r w hd, hbefore] at hafter
  cases hafter

theorem exists_take_of_rule? {m : Moment} {rule : SharedRule} (h : m.rule? = some rule) :
    ∃ e now, m.deed = .take e now ∧ SharedRule.firstMatch? m.before.rules e = some rule := by
  unfold Moment.rule? at h
  split at h
  · rename_i e now hd
    exact ⟨e, now, hd, h⟩
  · cases h

namespace Trail

variable {grace : Span} {g g' : Aggregator} {w w' w'' : σ} {past mid : List Moment} {f : Fingerprint}

/-- A lifetime is the end of a run that begins where the aggregation was opened last. -/
theorem exists_before_lifetime (h : Trail r (.new grace) w past g w') {first : Moment}
    {later : List Moment} (hlife : lifetime f past = first :: later) :
    ∃ before, past = before ++ first :: later ∧ first.Opens f ∧ ∀ m ∈ later, ¬m.Evicts f := by
  induction h generalizing later with
  | start => cases hlife
  | @next past g' w' d htrail ih =>
    rw [lifetime_snoc, outlive] at hlife
    split at hlife
    · cases hlife
    · rename_i hbefore hafter
      obtain ⟨rfl, rfl⟩ := List.cons.inj hlife
      exact ⟨past, rfl, ⟨hbefore, by rw [hafter]; rfl⟩, fun m hm => absurd hm List.not_mem_nil⟩
    · rename_i a b hbefore hafter
      have hlived := htrail.life f
      have hbefore' : g'.table.get? f = some a := hbefore
      rw [hbefore'] at hlived
      obtain ⟨first', later', hlife', -⟩ := Life.rule_eq hlived
      rw [hlife', List.cons_append] at hlife
      obtain ⟨rfl, rfl⟩ := List.cons.inj hlife
      obtain ⟨before, rfl, hopens, hspared⟩ := ih hlife'
      refine ⟨before, by simp, hopens, ?_⟩
      rw [List.forall_mem_append]
      refine ⟨hspared, fun m hm => ?_⟩
      rw [List.mem_singleton.1 hm]
      rintro ⟨-, hnone⟩
      rw [hafter] at hnone
      cases hnone

theorem owns (h : Trail r (.new grace) w past g w') {a : Aggregation}
    (ha : g.table.get? f = some a) : Owns a.rule f past := by
  have hlived := h.life f
  rw [ha] at hlived
  obtain ⟨first, later, hlife, hrule⟩ := Life.rule_eq hlived
  obtain ⟨before, rfl, hopens, hspared⟩ := h.exists_before_lifetime hlife
  obtain ⟨g₀, w₀, hbefore, hfirst⟩ := h.at_moment rfl
  obtain ⟨e, now, hd, hmatch⟩ := exists_take_of_rule? hrule
  refine ⟨before, first, later, e, now, rfl, hd, ?_, hopens, ?_, hspared⟩
  · rw [hfirst, hd] at hopens
    exact fingerprint_of_opens hopens
  · rw [hfirst] at hmatch
    rw [← hbefore.rules_eq]
    exact hmatch

theorem keeps_rule (hpast : Trail r (.new grace) w past g w') (hmid : Trail r g w' mid g' w'')
    {a : Aggregation} (ha : g.table.get? f = some a) (hspared : ∀ m ∈ mid, ¬m.Evicts f) :
    ∃ b, g'.table.get? f = some b ∧ b.rule = a.rule := by
  obtain ⟨hsome, hlifetime⟩ := hmid.lives_on (by rw [ha]; rfl) hspared
  obtain ⟨b, hb⟩ := Option.isSome_iff_exists.1 hsome
  have hbefore := hpast.life f
  have hafter := (hpast.append hmid).life f
  rw [ha] at hbefore
  rw [hb, hlifetime past] at hafter
  -- both lifetimes begin with the same moment
  obtain ⟨first, later, hlife, hrule⟩ := Life.rule_eq hbefore
  obtain ⟨first', later', hlife', hrule'⟩ := Life.rule_eq hafter
  rw [hlife, List.cons_append] at hlife'
  obtain ⟨rfl, -⟩ := List.cons.inj hlife'
  exact ⟨b, hb, Option.some.inj (hrule'.symm.trans hrule)⟩

end Trail

/-! ## Routing -/

/-- An event that no rule claims changes nothing. Another one goes to its aggregation, opened for
the first such rule if need be. -/
structure Routes (rules : List SharedRule) (e : Event) (before after : Table) : Prop where
  dropped : SharedRule.firstMatch? rules e = none → after = before
  lands : ∀ rule, SharedRule.firstMatch? rules e = some rule →
    after.eventsOf e.fingerprint = before.eventsOf e.fingerprint ++ [e] ∧
    ∃ a, after.get? e.fingerprint = some a ∧
      a.rule = ((before.get? e.fingerprint).map (·.rule)).getD rule
  others : ∀ f, f ≠ e.fingerprint → after.get? f = before.get? f

theorem routes_take (g : Aggregator) (w : σ) (e : Event) (now : Instant) :
    Routes g.rules e g.table (g.take r now w e).aggregator.table := by
  constructor
  · intro h
    rw [take_of_unclaimed r g w now h]
  · intro rule h
    refine ⟨eventsOf_take r g w now h, _, by rw [get?_take r g w now h, if_pos rfl], ?_⟩
    rw [rule_send, aggregation_land, rule_joined]
    cases g.table.get? e.fingerprint <;> rfl
  · intro f hf
    exact get?_does_of_not_concerns r w (d := .take e now) fun hd => hf hd.2.symm

/-- **Ownership.** The rule of an aggregation is the object selected for the event that opened it,
until a sweep evicts the aggregation. -/
theorem owner_fixed_until_evicted (r : Receiver σ) (grace : Span) (w : σ) (ops : List Operation) :
    let start := Aggregator.new grace
    let run := history r start w ops
    (performAll r start w ops).aggregator = start.following run ∧
    (∀ past rest f a, run = past ++ rest → (start.following past).table.get? f = some a →
      Owns a.rule f past) ∧
    (∀ past mid rest f a, run = past ++ mid ++ rest →
      (start.following past).table.get? f = some a → (∀ m ∈ mid, ¬m.Evicts f) →
      ∃ b, (start.following (past ++ mid)).table.get? f = some b ∧ b.rule = a.rule) ∧
    ∀ past m rest, run = past ++ m :: rest →
      (∀ e now, m.deed = .take e now → Routes (inForce past) e m.before.table m.after.table) ∧
      (m.deed = .reject → inForce past = [] ∧ m.after.table = m.before.table) := by
  intro start run
  have htrail := trail_history r start w ops
  refine ⟨htrail.following_eq.symm, ?_, ?_, ?_⟩
  · intro past rest f a hrun ha
    obtain ⟨g, w', hpast⟩ := htrail.at_split hrun
    rw [hpast.following_eq] at ha
    exact hpast.owns ha
  · intro past mid rest f a hrun ha hspared
    obtain ⟨g', w'', hboth⟩ := htrail.at_split hrun
    obtain ⟨g, w', hpast, hmid⟩ := hboth.split
    rw [hpast.following_eq] at ha
    rw [hboth.following_eq]
    exact hpast.keeps_rule hmid ha hspared
  · intro past m rest hrun
    obtain ⟨g, w', hpast, hm⟩ := htrail.at_moment hrun
    constructor
    · intro e now hd
      rw [hm, hd, ← hpast.rules_eq]
      exact routes_take g w' e now
    · intro hd
      have hmem : m ∈ run := hrun ▸ List.mem_append_right past List.mem_cons_self
      have hrules := rules_of_reject hmem hd
      rw [hm] at hrules
      refine ⟨hpast.rules_eq.symm.trans hrules, ?_⟩
      rw [hm, hd]
      rfl

/-- An equal rule that is another object does not take over, but the event that it claims is kept. -/
example :
    let e : Event := { createdAt := .epoch }
    let ops : List Operation := [.replaceRules [⟨0, {}⟩], .aggregate [e] .epoch,
      .replaceRules [⟨1, {}⟩], .aggregate [e] .epoch]
    ((performAll Receiver.log (.new ⟨0⟩) () ops).aggregator.table.get? e.fingerprint).map
      (fun a => (a.rule.token, a.events.length)) = some (0, 2) := by
  decide +kernel

end Alerting.Aggregator
