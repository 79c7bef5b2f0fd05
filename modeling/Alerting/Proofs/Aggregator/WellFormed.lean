import Alerting.Proofs.Aggregator.Membership

/-!
# Well-formed tables

What holds of every entry of a table, whatever an aggregator has been through. No two entries have
the same fingerprint, and each stands under that of its aggregation and of all events that this one
holds. An aggregation without events has sent; one that has not holds an event, and its last answer
asked for another try.

A new aggregation is unsent before anything was answered, so that it is well-formed only once its
first event has called the receiver. A sweep leaves no event that is due and no empty aggregation
that has ended.
-/

namespace Alerting

theorem Table.get?_of_mem {t : Table} (ht : t.Distinct) {f : Fingerprint} {a : Aggregation}
    (h : (f, a) ∈ t) : t.get? f = some a := by
  induction t with
  | nil => exact absurd h List.not_mem_nil
  | cons entry rest ih =>
    obtain ⟨hnew, hrest⟩ := List.nodup_cons.1 ht
    rw [get?_cons]
    rcases List.mem_cons.1 h with rfl | h
    · rw [if_pos rfl]
    · have hf : f ∈ rest.map (·.1) := List.mem_map_of_mem h
      have hne : f ≠ entry.1 := ne_of_mem_of_not_mem hf hnew
      rw [if_neg hne, ih hrest h]

namespace Aggregator

open Aggregation

variable {σ : Type} {r : Receiver σ}

/-- What holds of the aggregation of a fingerprint to which these answers were given. -/
structure SoundEntry (f : Fingerprint) (answers : List Answer) (a : Aggregation) : Prop where
  keyed : a.fingerprint = f
  held : ∀ e ∈ a.events, e.fingerprint = f
  sent_of_empty : a.events = [] → a.dispatch = .sent
  filled_of_unsent : a.dispatch = .unsent → a.events ≠ []
  retryable_of_unsent : a.dispatch = .unsent →
    ∃ answer, answers.getLast? = some answer ∧ IsRetryable answer

/-- What holds of a table after these moments. -/
structure WellFormed (past : List Moment) (t : Table) : Prop where
  distinct : t.Distinct
  entries : ∀ f a, (f, a) ∈ t → SoundEntry f (answers f (lifetime f past)) a

/-- No event of the table is due, and no empty aggregation has ended. -/
structure SweptAt (now : Instant) (t : Table) : Prop where
  events_late : ∀ f a, (f, a) ∈ t → ∀ e ∈ a.events, now < e.createdAt
  ends_late : ∀ f a, (f, a) ∈ t → a.events = [] → now < a.endsAt

/-! ## Entries -/

theorem Life.answers_ne_nil {f : Fingerprint} {life : List Moment} {a : Aggregation}
    (h : Life r f life a) : answers f life ≠ [] := by
  induction h with
  | @opened g w e now rule hrule hf hnone =>
    have hm := calls_moment_take r w hrule (land_eq_of_none hf hnone rule now)
    rw [answers_of_calls (f := f) rfl hm, hm, calls_send_of_unsent r w rfl]
    exact List.cons_ne_nil _ _
  | joined _ _ _ _ ih | swept _ _ _ ih | spared _ _ _ ih =>
    rw [answers_snoc]
    exact List.append_ne_nil_of_left_ne_nil ih _

theorem Life.last_retryable {f : Fingerprint} {life : List Moment} {a : Aggregation}
    (h : Life r f life a) (ha : a.dispatch = .unsent) :
    ∃ answer, (answers f life).getLast? = some answer ∧ IsRetryable answer :=
  ⟨_, List.getLast?_eq_some_getLast h.answers_ne_nil,
    (h.unsent_iff_owed.1 ha).retryable _ (List.getLast_mem _)⟩

theorem Trail.wellFormed {grace : Span} {g : Aggregator} {w w' : σ} {past : List Moment}
    (h : Trail r (.new grace) w past g w') : WellFormed past g.table := by
  have hdistinct := (h.proper Table.proper_nil).distinct
  refine ⟨hdistinct, fun f a hmem => ?_⟩
  have ha := Table.get?_of_mem hdistinct hmem
  have hlife := h.life f
  rw [ha] at hlife
  have hlife : Life r f (lifetime f past) a := hlife
  refine ⟨hlife.fingerprint_eq, fun e he => (h.take_of_mem_events ha he).1, hlife.sent_of_empty,
    fun hunsent hempty => ?_, hlife.last_retryable⟩
  rw [hlife.sent_of_empty hempty] at hunsent
  cases hunsent

/-! ## Sweeps -/

theorem sweptAt_sweptTable (now : Instant) (t : Table) : SweptAt now (sweptTable now t) := by
  have hmem : ∀ f a, (f, a) ∈ sweptTable now t → ¬a.IsExpired now ∧ ∃ b, a = tidy b now := by
    intro f a h
    obtain ⟨hmap, hleft⟩ := List.mem_filter.1 h
    obtain ⟨entry, -, heq⟩ := List.mem_map.1 hmap
    exact ⟨of_decide_eq_true hleft, entry.2, (congrArg Prod.snd heq).symm⟩
  constructor
  · intro f a h e he
    obtain ⟨-, b, rfl⟩ := hmem f a h
    rw [events_tidy] at he
    exact of_decide_eq_true (List.mem_filter.1 he).2
  · intro f a h hempty
    rw [← Decidable.not_not (p := now < a.endsAt), Instant.not_lt]
    exact fun hend => (hmem f a h).1 ⟨hempty, hend⟩

/-- **Well-formed tables.** At any point of a run the table is well-formed, and no sweep leaves
anything that is due. -/
theorem tables_well_formed (r : Receiver σ) (grace : Span) (w : σ) (ops : List Operation) :
    let start := Aggregator.new grace
    let run := history r start w ops
    (performAll r start w ops).aggregator = start.following run ∧
    (∀ past rest, run = past ++ rest → WellFormed past (start.following past).table) ∧
    ∀ now, SweptAt now (performAll r start w (ops ++ [.sweep now])).aggregator.table := by
  intro start run
  have htrail := trail_history r start w ops
  refine ⟨htrail.following_eq.symm, fun past rest hrun => ?_, fun now => ?_⟩
  · obtain ⟨g, w', hpast⟩ := htrail.at_split hrun
    rw [hpast.following_eq]
    exact hpast.wellFormed
  · rw [aggregator_performAll_sweep]
    exact sweptAt_sweptTable now _

end Aggregator

end Alerting
