import Alerting.Proofs.Aggregator.Lifetime

/-!
# When a receiver is called

A claimed event calls the receiver just when the notification of its aggregation is owed: every
answer of this lifetime asked for another try, and no sweep has left nothing to tell. So the answers
of a lifetime are failures that may be tried again, and after them at most one other answer.
-/

namespace Alerting.Aggregator

open Aggregation

variable {σ : Type}

/-- The moment is a sweep that leaves the aggregation of a fingerprint without events. -/
def Moment.Empties (m : Moment) (f : Fingerprint) : Prop :=
  (∃ now, m.deed = .sweep now) ∧ ∃ a, m.after.table.get? f = some a ∧ a.events = []

/-- The answers that a receiver gives for a fingerprint, at moments one after the other. -/
def answers (f : Fingerprint) (life : List Moment) : List Answer :=
  ((life.flatMap Moment.calls).filter fun c => c.1.fingerprint = f).map (·.2)

/-- After these moments of its lifetime, the notification of a fingerprint is still to be sent. -/
structure Owed (f : Fingerprint) (life : List Moment) : Prop where
  retryable : ∀ answer ∈ answers f life, IsRetryable answer
  filled : ∀ m ∈ life, ¬m.Empties f

/-- The moment is an event that a rule claims and whose notification is owed. -/
def Moment.IsDue (m : Moment) (past : List Moment) : Prop :=
  ∃ e now, m.deed = .take e now ∧ (SharedRule.firstMatch? m.before.rules e).isSome ∧
    Owed e.fingerprint (lifetime e.fingerprint past)

theorem answers_snoc (f : Fingerprint) (life : List Moment) (m : Moment) :
    answers f (life ++ [m]) = answers f life ++ answers f [m] := by
  simp [answers]

theorem answers_eq_nil {f : Fingerprint} {m : Moment} (h : ∀ c ∈ m.calls, c.1.fingerprint ≠ f) :
    answers f [m] = [] := by
  simpa [answers] using h

theorem owed_nil (f : Fingerprint) : Owed f [] :=
  ⟨fun _ h => absurd h List.not_mem_nil, fun _ h => absurd h List.not_mem_nil⟩

theorem owed_snoc (f : Fingerprint) (life : List Moment) (m : Moment) :
    Owed f (life ++ [m]) ↔ Owed f life ∧ (∀ answer ∈ answers f [m], IsRetryable answer) ∧
      ¬m.Empties f := by
  constructor
  · intro h
    refine ⟨⟨fun answer ha => h.retryable answer ?_, fun m' hm => h.filled m' ?_⟩, ?_, ?_⟩
    · rw [answers_snoc]
      exact List.mem_append_left _ ha
    · exact List.mem_append_left _ hm
    · intro answer ha
      apply h.retryable
      rw [answers_snoc]
      exact List.mem_append_right _ ha
    · exact h.filled m (List.mem_append_right _ (List.mem_singleton_self m))
  · rintro ⟨hlife, hanswers, hm⟩
    constructor
    · intro answer ha
      rw [answers_snoc, List.mem_append] at ha
      exact ha.elim (hlife.retryable answer) (hanswers answer)
    · intro m' hm'
      rcases List.mem_append.1 hm' with hm' | hm'
      · exact hlife.filled m' hm'
      · rwa [List.mem_singleton.1 hm']

/-! ## What a lifetime leaves to be sent -/

theorem calls_moment_take (r : Receiver σ) {g : Aggregator} (w : σ) {e : Event} {now : Instant}
    {rule : SharedRule} (hrule : SharedRule.firstMatch? g.rules e = some rule) {b : Aggregation}
    (hb : (g.land rule now e).aggregation = b) :
    (g.moment r w (.take e now)).calls = Effect.calls (b.send r w).effects := by
  rw [← hb]
  exact calls_take r g w now hrule

theorem calls_moment_of_unclaimed (r : Receiver σ) (g : Aggregator) (w : σ) {e : Event}
    (now : Instant) (h : SharedRule.firstMatch? g.rules e = none) :
    (g.moment r w (.take e now)).calls = [] := by
  rw [Moment.calls, moment, does, take_of_unclaimed r g w now h]
  rfl

theorem answers_of_calls {f : Fingerprint} {m : Moment} {r : Receiver σ} {w : σ} {b : Aggregation}
    (hf : b.fingerprint = f) (hm : m.calls = Effect.calls (b.send r w).effects) :
    answers f [m] = m.calls.map (·.2) := by
  have hall : ∀ c ∈ m.calls, decide (c.1.fingerprint = f) = true := by
    intro c hc
    rw [hm] at hc
    simpa [hf] using fingerprint_of_mem_calls_send hc
  rw [answers, List.flatMap_cons, List.flatMap_nil, List.append_nil, List.filter_eq_self.2 hall]

theorem land_eq_of_some {f : Fingerprint} {a : Aggregation} {g : Aggregator} {e : Event}
    (hf : e.fingerprint = f) (hsome : g.table.get? f = some a) (rule : SharedRule) (now : Instant) :
    (g.land rule now e).aggregation = a.joined e (g.deadline now) := by
  rw [aggregation_land, hf, hsome]
  rfl

theorem land_eq_of_none {f : Fingerprint} {g : Aggregator} {e : Event} (hf : e.fingerprint = f)
    (hnone : g.table.get? f = none) (rule : SharedRule) (now : Instant) :
    (g.land rule now e).aggregation = (Aggregation.opened f rule now).joined e (g.deadline now) := by
  rw [aggregation_land, hf, hnone]
  rfl

theorem Life.fingerprint_eq {r : Receiver σ} {f : Fingerprint} {life : List Moment}
    {a : Aggregation} (h : Life r f life a) : a.fingerprint = f := by
  induction h with
  | opened hrule hf hnone => exact fingerprint_send ..
  | joined h hrule hf hsome ih => exact (fingerprint_send ..).trans ih
  | swept h hleft hafter ih => exact (fingerprint_tidy ..).trans ih
  | spared h hd hcalls ih => exact ih

theorem dispatch_tidy (a : Aggregation) (now : Instant) :
    (a.tidy now).dispatch =
      if a.events ≠ [] ∧ (a.tidy now).events = [] then .sent else a.dispatch := by
  rw [events_tidy]
  unfold tidy
  by_cases h : a.events = []
  · simp [h]
  · simp [h]

theorem Life.sent_of_empty {r : Receiver σ} {f : Fingerprint} {life : List Moment} {a : Aggregation}
    (h : Life r f life a) : a.events = [] → a.dispatch = .sent := by
  induction h with
  | opened hrule hf hnone =>
    intro he
    simp at he
  | joined h hrule hf hsome ih =>
    intro he
    simp at he
  | @swept life a g w now h hleft hafter ih =>
    intro he
    rw [dispatch_tidy]
    split
    · rfl
    · rename_i hne
      exact ih (by_contra fun ha => hne ⟨ha, he⟩)
  | spared h hd hcalls ih => exact ih

theorem unsent_send_iff {r : Receiver σ} {w : σ} {f : Fingerprint} {life : List Moment} {m : Moment}
    {b : Aggregation} (hf : b.fingerprint = f) (hm : m.calls = Effect.calls (b.send r w).effects)
    (hfilled : ¬m.Empties f) (h : b.dispatch = .unsent ↔ Owed f life) :
    (b.send r w).aggregation.dispatch = .unsent ↔ Owed f (life ++ [m]) := by
  rw [owed_snoc, answers_of_calls hf hm, hm]
  cases hd : b.dispatch with
  | sent =>
    rw [send_of_sent r w hd, hd, ← h, hd]
    simp
  | unsent =>
    rw [aggregation_send_of_unsent r w hd, calls_send_of_unsent r w hd]
    have howed := h.1 hd
    by_cases hr : IsRetryable (r.receive w b.summary).answer
    · rw [settle_of_retryable b hr]
      simp [hd, howed, hr, hfilled]
    · rw [settle_of_final b hr]
      simp [hr]

theorem not_empties_take (r : Receiver σ) (g : Aggregator) (w : σ) (e : Event) (now : Instant)
    (f : Fingerprint) : ¬(g.moment r w (.take e now)).Empties f := by
  rintro ⟨⟨_, h⟩, _⟩
  cases h

theorem Life.unsent_iff_owed {r : Receiver σ} {f : Fingerprint} {life : List Moment}
    {a : Aggregation} (h : Life r f life a) : a.dispatch = .unsent ↔ Owed f life := by
  induction h with
  | @opened g w e now rule hrule hf hnone =>
    have hm := calls_moment_take r w hrule (land_eq_of_none hf hnone rule now)
    exact unsent_send_iff rfl hm (not_empties_take r g w e now f) (iff_of_true rfl (owed_nil f))
  | @joined life a g w e now rule h hrule hf hsome ih =>
    have hm := calls_moment_take r w hrule (land_eq_of_some hf hsome rule now)
    exact unsent_send_iff h.fingerprint_eq hm (not_empties_take r g w e now f) ih
  | @swept life a g w now h hleft hafter ih =>
    have hcalls : answers f [g.moment r w (.sweep now)] = [] := rfl
    have hempties : (g.moment r w (.sweep now)).Empties f ↔ (a.tidy now).events = [] := by
      constructor
      · rintro ⟨_, a', ha', he⟩
        obtain rfl := Option.some.inj (hafter.symm.trans ha')
        exact he
      · exact fun he => ⟨⟨now, rfl⟩, a.tidy now, hafter, he⟩
    rw [owed_snoc, hcalls, hempties, ← ih]
    by_cases he : (a.tidy now).events = []
    · have hsent : (a.tidy now).dispatch = .sent := (Life.swept (w := w) h hleft hafter).sent_of_empty he
      simp [hsent, he]
    · rw [dispatch_tidy, if_neg fun hne => he hne.2]
      simp [he]
  | @spared life a g w d h hd hcalls ih =>
    have hfilled : ¬(g.moment r w d).Empties f := by
      rintro ⟨⟨now, hsweep⟩, _⟩
      obtain rfl : d = .sweep now := hsweep
      exact hd trivial
    rw [owed_snoc, answers_eq_nil hcalls, ← ih]
    simp [hfilled]

/-! ## The answers of a lifetime -/

/-- Answers that end with the first one that asks for no other try. -/
def EndAtFinal (l : List Answer) : Prop :=
  ∃ (failures : List Answer) (last : Option Answer), l = failures ++ last.toList ∧
    (∀ answer ∈ failures, IsRetryable answer) ∧ ∀ answer ∈ last, ¬IsRetryable answer

theorem endAtFinal_of_retryable {l : List Answer} (h : ∀ answer ∈ l, IsRetryable answer) :
    EndAtFinal l :=
  ⟨l, none, by simp, h, by simp⟩

theorem endAtFinal_snoc {l : List Answer} (h : ∀ answer ∈ l, IsRetryable answer) (answer : Answer) :
    EndAtFinal (l ++ [answer]) := by
  by_cases hr : IsRetryable answer
  · apply endAtFinal_of_retryable
    intro x hx
    rcases List.mem_append.1 hx with hx | hx
    · exact h x hx
    · rwa [List.mem_singleton.1 hx]
  · exact ⟨l, some answer, rfl, h, by simpa using hr⟩

theorem endAtFinal_send {r : Receiver σ} {w : σ} {f : Fingerprint} {m : Moment} {b : Aggregation}
    (life : List Moment) (hf : b.fingerprint = f)
    (hm : m.calls = Effect.calls (b.send r w).effects) (h : b.dispatch = .unsent ↔ Owed f life)
    (hlife : EndAtFinal (answers f life)) : EndAtFinal (answers f (life ++ [m])) := by
  rw [answers_snoc, answers_of_calls hf hm, hm]
  cases hd : b.dispatch with
  | sent =>
    rw [send_of_sent r w hd]
    simpa [Effect.calls] using hlife
  | unsent =>
    rw [calls_send_of_unsent r w hd]
    exact endAtFinal_snoc (h.1 hd).retryable _

theorem Life.endAtFinal {r : Receiver σ} {f : Fingerprint} {life : List Moment} {a : Aggregation}
    (h : Life r f life a) : EndAtFinal (answers f life) := by
  induction h with
  | @opened g w e now rule hrule hf hnone =>
    have hm := calls_moment_take r w hrule (land_eq_of_none hf hnone rule now)
    exact endAtFinal_send [] rfl hm (iff_of_true rfl (owed_nil f))
      (endAtFinal_of_retryable fun _ h => absurd h List.not_mem_nil)
  | @joined life a g w e now rule h hrule hf hsome ih =>
    have hm := calls_moment_take r w hrule (land_eq_of_some hf hsome rule now)
    exact endAtFinal_send (b := a.joined e (g.deadline now)) life h.fingerprint_eq hm
      h.unsent_iff_owed ih
  | @swept life a g w now h hleft hafter ih =>
    have hcalls : answers f [g.moment r w (.sweep now)] = [] := rfl
    rwa [answers_snoc, hcalls, List.append_nil]
  | spared h hd hcalls ih => rwa [answers_snoc, answers_eq_nil hcalls, List.append_nil]

/-! ## Runs -/

/-- What an event lands in still has something to send just if the notification is owed. -/
theorem Lived.unsent_iff_owed {r : Receiver σ} {g : Aggregator} {life : List Moment} {e : Event}
    (h : Lived r e.fingerprint life (g.table.get? e.fingerprint)) (rule : SharedRule)
    (now : Instant) :
    (g.land rule now e).aggregation.dispatch = .unsent ↔ Owed e.fingerprint life := by
  cases ha : g.table.get? e.fingerprint with
  | none =>
    rw [ha] at h
    obtain rfl : life = [] := h
    rw [land_eq_of_none rfl ha]
    exact iff_of_true rfl (owed_nil _)
  | some a =>
    rw [ha] at h
    have hlife : Life r e.fingerprint life a := h
    rw [land_eq_of_some rfl ha]
    exact hlife.unsent_iff_owed

theorem Trail.calls_eq {r : Receiver σ} {grace : Span} {g : Aggregator} {w w' : σ}
    {past : List Moment} (h : Trail r (.new grace) w past g w') (d : Deed) :
    ((g.moment r w' d).IsDue past → (g.moment r w' d).calls.length = 1) ∧
      (¬(g.moment r w' d).IsDue past → (g.moment r w' d).calls = []) := by
  cases d with
  | take e now =>
    cases hrule : SharedRule.firstMatch? g.rules e with
    | none =>
      refine ⟨?_, fun _ => calls_moment_of_unclaimed r g w' now hrule⟩
      rintro ⟨_, _, hdeed, hclaimed, _⟩
      cases hdeed
      rw [show (g.moment r w' (.take e now)).before = g from rfl, hrule] at hclaimed
      cases hclaimed
    | some rule =>
      have howed := (h.life e.fingerprint).unsent_iff_owed rule now
      have hdue : (g.moment r w' (.take e now)).IsDue past ↔
          Owed e.fingerprint (lifetime e.fingerprint past) := by
        constructor
        · rintro ⟨_, _, hdeed, _, ho⟩
          cases hdeed
          exact ho
        · exact fun ho => ⟨e, now, rfl, Option.isSome_iff_exists.2 ⟨rule, hrule⟩, ho⟩
      rw [hdue, ← howed, calls_moment_take r w' hrule rfl]
      constructor
      · intro hd
        rw [calls_send_of_unsent r w' hd]
        rfl
      · intro hd
        have hsent : (g.land rule now e).aggregation.dispatch = .sent := by
          cases hs : (g.land rule now e).aggregation.dispatch with
          | sent => rfl
          | unsent => exact absurd hs hd
        rw [send_of_sent r w' hsent]
        rfl
  | announce _ | gauge | reject | replaceRules _ | sweep _ =>
    refine ⟨?_, fun _ => rfl⟩
    rintro ⟨_, _, hdeed, _⟩
    cases hdeed

/-- **When a receiver is called.** A moment of a run calls the receiver once if it is due, and not
at all otherwise. -/
theorem calls_exactly_when_due (r : Receiver σ) (grace : Span) (w : σ) (ops : List Operation) :
    let run := history r (.new grace) w ops
    Effect.calls (performAll r (.new grace) w ops).effects = run.flatMap Moment.calls ∧
    (∀ past m rest, run = past ++ m :: rest →
      (m.IsDue past → m.calls.length = 1) ∧ (¬m.IsDue past → m.calls = [])) ∧
    ∀ past rest f, run = past ++ rest → EndAtFinal (answers f (lifetime f past)) := by
  intro run
  have htrail := trail_history r (.new grace) w ops
  refine ⟨calls_history r _ w ops, ?_, ?_⟩
  · intro past m rest hrun
    obtain ⟨g, w', hpast, hm⟩ := htrail.at_moment hrun
    rw [hm]
    exact hpast.calls_eq m.deed
  · intro past rest f hrun
    obtain ⟨g, w', hpast⟩ := htrail.at_split hrun
    have hlived := hpast.life f
    cases ha : g.table.get? f with
    | none =>
      rw [ha] at hlived
      have hnil : lifetime f past = [] := hlived
      rw [hnil]
      exact endAtFinal_of_retryable fun _ h => absurd h List.not_mem_nil
    | some a =>
      rw [ha] at hlived
      exact Life.endAtFinal hlived

end Alerting.Aggregator
