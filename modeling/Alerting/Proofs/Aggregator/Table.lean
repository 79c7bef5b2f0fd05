import Alerting.Aggregator.Basic
import Mathlib.Data.List.Nodup

/-! # Tables with one aggregation for each fingerprint -/

namespace Alerting

namespace Table

def Distinct (t : Table) : Prop := (t.map (·.1)).Nodup

/-- Each entry stands under the fingerprint of its aggregation. -/
def Keyed (t : Table) : Prop := ∀ entry ∈ t, entry.2.fingerprint = entry.1

/-- What holds of every table that an aggregator comes to have. -/
structure Proper (t : Table) : Prop where
  distinct : t.Distinct
  keyed : t.Keyed

theorem proper_nil : Proper [] := ⟨List.nodup_nil, fun _ h => absurd h List.not_mem_nil⟩

theorem get?_cons (entry : Fingerprint × Aggregation) (rest : Table) (f : Fingerprint) :
    get? (entry :: rest) f = if f = entry.1 then some entry.2 else get? rest f :=
  lookup_cons f entry rest

theorem get?_nil (f : Fingerprint) : get? [] f = none := rfl

theorem get?_eq_none {t : Table} {f : Fingerprint} : t.get? f = none ↔ f ∉ t.map (·.1) := by
  induction t with
  | nil => simp [get?_nil]
  | cons entry rest ih =>
    rw [get?_cons, List.map_cons, List.mem_cons, not_or]
    split
    · rename_i h
      simp [h]
    · rename_i h
      rw [ih]
      simp [h]

theorem mem_of_get? {t : Table} {f : Fingerprint} {a : Aggregation} (h : t.get? f = some a) :
    (f, a) ∈ t := by
  induction t with
  | nil => simp [get?_nil] at h
  | cons entry rest ih =>
    rw [get?_cons] at h
    split at h
    · rename_i hf
      obtain rfl := Option.some.inj h
      exact hf ▸ List.mem_cons_self
    · exact List.mem_cons_of_mem _ (ih h)

theorem map_fst_put (f : Fingerprint) (a : Aggregation) (t : Table) :
    (put f a t).map (·.1) = if f ∈ t.map (·.1) then t.map (·.1) else t.map (·.1) ++ [f] := by
  induction t with
  | nil => simp [put]
  | cons entry rest ih =>
    unfold put
    split
    · rename_i h
      simp [h]
    · rename_i h
      have h' : f ≠ entry.1 := Ne.symm h
      simp only [List.map_cons, ih, List.mem_cons, h', false_or]
      split <;> rfl

theorem distinct_put (f : Fingerprint) (a : Aggregation) {t : Table} (ht : t.Distinct) :
    (put f a t).Distinct := by
  unfold Distinct
  rw [map_fst_put]
  split
  · exact ht
  · rename_i h
    exact ht.append (List.nodup_singleton f) (by simpa using h)

theorem put_put (f : Fingerprint) (a b : Aggregation) (t : Table) :
    put f b (put f a t) = put f b t := by
  induction t with
  | nil => simp [put]
  | cons entry rest ih =>
    by_cases h : entry.1 = f
    · simp [put, h]
    · simp [put, h, ih]

theorem mem_put {f : Fingerprint} {a : Aggregation} {t : Table} {entry : Fingerprint × Aggregation}
    (h : entry ∈ put f a t) : entry = (f, a) ∨ entry ∈ t := by
  induction t with
  | nil => exact .inl (List.mem_singleton.1 h)
  | cons x rest ih =>
    unfold put at h
    split at h
    · rcases List.mem_cons.1 h with h | h
      · exact .inl h
      · exact .inr (List.mem_cons_of_mem _ h)
    · rcases List.mem_cons.1 h with rfl | h
      · exact .inr List.mem_cons_self
      · exact (ih h).imp id (List.mem_cons_of_mem _)

theorem proper_put {f : Fingerprint} {a : Aggregation} {t : Table} (ha : a.fingerprint = f)
    (ht : t.Proper) : (put f a t).Proper := by
  refine ⟨distinct_put f a ht.distinct, fun entry h => ?_⟩
  rcases mem_put h with rfl | h
  · exact ha
  · exact ht.keyed entry h

/-- The events that the aggregation of a fingerprint holds, none if there is no such aggregation. -/
def eventsOf (t : Table) (f : Fingerprint) : List Event := ((t.get? f).map (·.events)).getD []

theorem Proper.fingerprint_eq {t : Table} (ht : t.Proper) {f : Fingerprint} {a : Aggregation}
    (h : t.get? f = some a) : a.fingerprint = f :=
  ht.keyed _ (mem_of_get? h)

end Table

namespace Aggregation

@[simp] theorem fingerprint_tidy (a : Aggregation) (now : Instant) :
    (a.tidy now).fingerprint = a.fingerprint := by
  unfold tidy
  split <;> rfl

@[simp] theorem rule_tidy (a : Aggregation) (now : Instant) : (a.tidy now).rule = a.rule := by
  unfold tidy
  split <;> rfl

theorem events_tidy (a : Aggregation) (now : Instant) :
    (a.tidy now).events = a.events.filter fun e => now < e.createdAt := by
  unfold tidy
  split
  · rename_i h
    rw [List.isEmpty_iff.1 h, List.filter_nil]
  · rfl

end Aggregation

namespace Aggregator

/-- What a sweep leaves of an aggregation. -/
def swept (now : Instant) (a : Aggregation) : Option Aggregation :=
  if (a.tidy now).IsExpired now then none else some (a.tidy now)

theorem sweptTable_cons (now : Instant) (entry : Fingerprint × Aggregation) (rest : Table) :
    sweptTable now (entry :: rest) =
      ((swept now entry.2).map (entry.1, ·)).toList ++ sweptTable now rest := by
  unfold sweptTable swept
  rw [List.map_cons, List.filter_cons]
  by_cases h : (entry.2.tidy now).IsExpired now <;> simp [h]

theorem sublist_sweptTable (now : Instant) (t : Table) :
    ((sweptTable now t).map (·.1)).Sublist (t.map (·.1)) := by
  unfold sweptTable
  have h := (List.filter_sublist (l := t.map fun entry => (entry.1, entry.2.tidy now))
    (p := fun entry => ¬entry.2.IsExpired now)).map (·.1)
  rwa [List.map_map] at h

theorem proper_sweptTable (now : Instant) {t : Table} (ht : t.Proper) :
    (sweptTable now t).Proper := by
  refine ⟨ht.distinct.sublist (sublist_sweptTable now t), fun entry h => ?_⟩
  obtain ⟨x, hx, rfl⟩ := List.mem_map.1 (List.mem_filter.1 h).1
  rw [Aggregation.fingerprint_tidy]
  exact ht.keyed x hx

theorem get?_sweptTable (now : Instant) {t : Table} (ht : t.Distinct) (f : Fingerprint) :
    (sweptTable now t).get? f = (t.get? f).bind (swept now) := by
  induction t with
  | nil => rfl
  | cons entry rest ih =>
    obtain ⟨hnew, hrest⟩ := List.nodup_cons.1 ht
    rw [sweptTable_cons, Table.get?_cons]
    cases h : swept now entry.2 with
    | none =>
      rw [Option.map_none, Option.toList_none, List.nil_append, ih hrest]
      split
      · rename_i hf
        subst hf
        -- The entry is gone, and there is no other for its fingerprint.
        rw [Table.get?_eq_none.2 hnew, Option.bind_none, Option.bind_some, h]
      · rfl
    | some a =>
      rw [Option.map_some, Option.toList_some, List.singleton_append, Table.get?_cons]
      split
      · rw [Option.bind_some, h]
      · exact ih hrest

end Aggregator

end Alerting
