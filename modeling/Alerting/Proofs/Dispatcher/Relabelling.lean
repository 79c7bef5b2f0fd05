import Alerting.Proofs.Dispatcher.Course

/-!
# Calls under other numbers

A dispatcher tells its calls apart by their numbers and does nothing else with them. If the calls get
other numbers, or if some of them are left out where callers are named, everything that happens under
the old numbers happens under the new ones too.
-/

namespace Alerting

/-- New numbers for calls. A call without a new number is left out. -/
abbrev Labelling := Nat → Option Nat

namespace Labelling

variable {β : Type} {g : Labelling} {i k : Nat} {l : List (Nat × β)}

/-- No two calls get the same number. -/
def Separates (g : Labelling) : Prop := ∀ ⦃i j k⦄, g i = some k → g j = some k → i = j

/-- The calls are kept apart, and those that are still to come get the numbers that follow. -/
structure Continues (g : Labelling) (calls : Nat) : Prop where
  separates : g.Separates
  next : ∀ i, calls ≤ i → ∃ k, g i = some k ∧ g (i + 1) = some (k + 1)

/-- What belongs to calls, under their new numbers. -/
def pairs (g : Labelling) (l : List (Nat × β)) : List (Nat × β) :=
  l.filterMap fun e => (g e.1).map (·, e.2)

theorem pairs_append (l₁ l₂ : List (Nat × β)) : g.pairs (l₁ ++ l₂) = g.pairs l₁ ++ g.pairs l₂ :=
  List.filterMap_append

theorem pairs_cons_none {e : Nat × β} (he : g e.1 = none) : g.pairs (e :: l) = g.pairs l :=
  List.filterMap_cons_none (by rw [he, Option.map_none])

theorem pairs_cons_some {e : Nat × β} (he : g e.1 = some k) :
    g.pairs (e :: l) = (k, e.2) :: g.pairs l :=
  List.filterMap_cons_some (by rw [he, Option.map_some])

theorem map_fst_pairs (l : List (Nat × β)) : (g.pairs l).map (·.1) = (l.map (·.1)).filterMap g := by
  rw [pairs, List.map_filterMap, List.filterMap_map]
  congr 1
  funext e
  cases h : g e.1 <;> simp [h]

theorem isEmpty_pairs (h : ∀ call, g call = none → call ∉ l.map (·.1)) :
    (g.pairs l).isEmpty = l.isEmpty := by
  cases l with
  | nil => rfl
  | cons e rest =>
    cases he : g e.1 with
    | none => exact absurd (List.mem_cons_self ..) (h e.1 he)
    | some k => rw [pairs_cons_some he, List.isEmpty_cons, List.isEmpty_cons]

theorem lookup_pairs (hg : g.Separates) (hi : g i = some k) (l : List (Nat × β)) :
    (g.pairs l).lookup k = l.lookup i := by
  induction l with
  | nil => rfl
  | cons e rest ih =>
    rw [List.lookup_cons]
    cases he : g e.1 with
    | none =>
      have hother : i ≠ e.1 := fun h => by simp [← h, hi] at he
      rw [pairs_cons_none he, ih, beq_false_of_ne hother]
    | some k' =>
      rw [pairs_cons_some he, List.lookup_cons, ih]
      by_cases hsame : i = e.1
      · obtain rfl : k = k' := by simpa [← hsame, hi] using he
        simp [hsame]
      · have hother : k ≠ k' := fun h => hsame (hg hi (h ▸ he))
        simp [beq_false_of_ne hsame, beq_false_of_ne hother]

theorem filter_pairs (hg : g.Separates) (hi : g i = some k) (l : List (Nat × β)) :
    (g.pairs l).filter (·.1 ≠ k) = g.pairs (l.filter (·.1 ≠ i)) := by
  induction l with
  | nil => rfl
  | cons e rest ih =>
    cases he : g e.1 with
    | none =>
      have hother : e.1 ≠ i := fun h => by simp [h, hi] at he
      rw [pairs_cons_none he, ih, List.filter_cons_of_pos (by simpa using hother), pairs_cons_none he]
    | some k' =>
      rw [pairs_cons_some he]
      by_cases hsame : e.1 = i
      · obtain rfl : k = k' := by simpa [hsame, hi] using he
        simpa [hsame] using ih
      · have hother : k' ≠ k := fun h => hsame (hg (h ▸ he) hi)
        rw [List.filter_cons_of_pos (by simpa using hother),
          List.filter_cons_of_pos (by simpa using hsame), pairs_cons_some he, ih]

end Labelling

namespace Channel

variable {α : Type} {g : Labelling} {c : Channel α} {i k : Nat}

/-- A channel with its calls under new numbers. Requests whose calls are left out stay in the queue. -/
def relabel (g : Labelling) (c : Channel α) : Channel α :=
  { c with
    waiting := g.pairs c.waiting
    queue := c.queue.map fun q => (q.1.bind g, q.2) }

theorem join_relabel (hi : g i = some k) (x : α) :
    (c.relabel g).join k x = (c.join i x).relabel g := by
  simp [relabel, join, Labelling.pairs, hi]

theorem accept?_relabel (hg : g.Separates) (hi : g i = some k) (capacity : Nat) :
    (c.relabel g).accept? capacity k = (c.accept? capacity i).map (relabel g) := by
  unfold accept?
  rw [relabel, List.length_map]
  split
  · rw [Labelling.lookup_pairs hg hi, Option.map_map]
    congr 1
    funext x
    simp only [Function.comp_apply, relabel, List.map_append, List.map_cons, List.map_nil,
      Option.bind_some, hi]
    rw [Labelling.filter_pairs hg hi]
  · rfl

theorem abandon_relabel (hg : g.Separates) (hi : g i = some k) :
    (c.relabel g).abandon k = (c.abandon i).relabel g := by
  unfold abandon relabel
  simp only [Labelling.filter_pairs hg hi, List.map_map]
  congr 2
  funext q
  obtain ⟨caller, x⟩ := q
  cases caller with
  | none => rfl
  | some j =>
    by_cases hj : j = i
    · simp [hj, hi]
    · have hother : g j ≠ some k := fun h => hj (hg h hi)
      simp [hj, hother]

theorem calls_relabel : (c.relabel g).calls = c.calls.filterMap g := by
  unfold calls relabel
  rw [List.filterMap_append, Labelling.map_fst_pairs, List.filterMap_map, List.filterMap_filterMap]
  rw [List.filterMap_map]
  rfl

end Channel

/-- An action with its call under its new number. Nothing is left of an action of a call that is left
out. -/
def Action.relabel (g : Labelling) : Action → Option Action
  | .accept n => (g n).map .accept
  | .abandon n => (g n).map .abandon
  | .finish n => (g n).map .finish
  | a => some a

namespace Dispatcher

variable {σ : Type} {r : Receiver σ} {g : Labelling} {d d' : Dispatcher σ} {a a' : Action}
  {effects : List Effect} {i k : Nat}

def relabel (g : Labelling) (d : Dispatcher σ) : Dispatcher σ :=
  { d with
    calls := (g d.calls).getD d.calls
    batches := d.batches.relabel g
    ruleLists := d.ruleLists.relabel g
    answered := g.pairs d.answered }

theorem begin_relabel (hcalls : g d.calls = some k) (hnext : g (d.calls + 1) = some (k + 1))
    (request : Request) : (d.relabel g).begin request = (d.begin request).relabel g := by
  have hk : (d.relabel g).calls = k := by simp [relabel, hcalls]
  unfold begin
  rw [hk]
  by_cases halive : d.IsAlive
  · have halive' : (d.relabel g).IsAlive := halive
    rw [if_pos halive, if_pos halive']
    cases request <;> simp [relabel, hnext, Channel.join_relabel hcalls]
  · have halive' : ¬(d.relabel g).IsAlive := halive
    rw [if_neg halive, if_neg halive']
    simp [relabel, hnext, Labelling.pairs, hcalls]

theorem accept?_relabel (hg : g.Separates) (hi : g i = some k) :
    (d.relabel g).accept? k = (d.accept? i).map (relabel g) := by
  unfold accept?
  simp only [relabel, Channel.accept?_relabel hg hi]
  cases d.batches.accept? d.capacity i with
  | some batches => rfl
  | none => cases d.ruleLists.accept? d.capacity i <;> rfl

theorem abandon_relabel (hg : g.Separates) (hi : g i = some k) :
    (d.relabel g).abandon k = (d.abandon i).relabel g := by
  simp only [abandon, relabel, Channel.abandon_relabel hg hi, Labelling.filter_pairs hg hi]

theorem kill_relabel : (d.relabel g).kill = d.kill.relabel g := by
  have hlost (l : List Nat) : (l.filterMap g).map (fun call => (call, Except.error Rejection.closed)) =
      g.pairs (l.map fun call => ((call, .error .closed) : Nat × Reply)) := by
    simp [Labelling.pairs, List.map_filterMap, List.filterMap_map]
  simp only [kill, relabel, Channel.calls_relabel, ← List.filterMap_append, Labelling.pairs_append,
    hlost]
  rfl

theorem carryOut_relabel (caller : Option Nat) (op : Operation) :
    (d.relabel g).carryOut r (caller.bind g) op =
      ((d.carryOut r caller op).1.relabel g, (d.carryOut r caller op).2) := by
  have hsame : (d.relabel g).aggregator.perform r (d.relabel g).receiver op =
      d.aggregator.perform r d.receiver op := rfl
  simp only [carryOut, hsame]
  cases (d.aggregator.perform r d.receiver op).result with
  | swept evicted => cases caller <;> simp [relabel]
  | replied reply =>
    cases caller with
    | none => simp [relabel]
    | some j => cases hj : g j <;> simp [relabel, Labelling.pairs, hj]

/-- What happens under the old numbers happens under the new ones; closing needs every caller that
waits to have a number. -/
theorem act?_relabel (hg : g.Continues d.calls) (ha : a.relabel g = some a')
    (hclose : a = .close → ∀ call, g call = none →
      call ∉ d.batches.waiting.map (·.1) ∧ call ∉ d.ruleLists.waiting.map (·.1)) :
    (d.relabel g).act? r a' = (d.act? r a).map fun next => (next.1.relabel g, next.2) := by
  obtain ⟨hsep, hnext⟩ := hg
  cases a with
  | call request =>
    obtain rfl := Option.some.inj ha
    obtain ⟨k, hcalls, hnext⟩ := hnext d.calls (Nat.le_refl _)
    simp only [act?, begin_relabel hcalls hnext, apply_ite (Option.map _), Option.map_some,
      Option.map_none]
    rfl
  | accept n =>
    obtain ⟨k, hk, rfl⟩ := Option.map_eq_some_iff.1 ha
    simp only [act?, accept?_relabel hsep hk, apply_ite (Option.map _), Option.map_map,
      Option.map_none]
    rfl
  | abandon n =>
    obtain ⟨k, hk, rfl⟩ := Option.map_eq_some_iff.1 ha
    simp only [act?, abandon_relabel hsep hk, Option.map_some]
  | finish n =>
    obtain ⟨k, hk, rfl⟩ := Option.map_eq_some_iff.1 ha
    simp only [act?, relabel, Labelling.lookup_pairs hsep hk, Labelling.filter_pairs hsep hk,
      Option.map_map]
    rfl
  | close =>
    obtain rfl := Option.some.inj ha
    -- the only action that asks whether anybody waits for room
    have hbatches := Labelling.isEmpty_pairs fun call h => (hclose rfl call h).1
    have hruleLists := Labelling.isEmpty_pairs fun call h => (hclose rfl call h).2
    simp only [act?, relabel, Channel.relabel, hbatches, hruleLists, apply_ite (Option.map _),
      Option.map_some, Option.map_none]
  | kill =>
    obtain rfl := Option.some.inj ha
    simp only [act?, kill_relabel, apply_ite (Option.map _), Option.map_some, Option.map_none]
    rfl
  | serveBatch now =>
    obtain rfl := Option.some.inj ha
    have hqueue' : (d.relabel g).batches.queue =
        d.batches.queue.map fun q => (q.1.bind g, q.2) := rfl
    cases hqueue : d.batches.queue with
    | nil => simp only [act?, hqueue', hqueue, List.map_nil, Option.map_none]
    | cons entry rest =>
      simp only [act?, hqueue', hqueue, List.map_cons, apply_ite (Option.map _), Option.map_some,
        Option.map_none, ← carryOut_relabel]
      rfl
  | serveRules =>
    obtain rfl := Option.some.inj ha
    have hqueue' : (d.relabel g).ruleLists.queue =
        d.ruleLists.queue.map fun q => (q.1.bind g, q.2) := rfl
    cases hqueue : d.ruleLists.queue with
    | nil => simp only [act?, hqueue', hqueue, List.map_nil, Option.map_none]
    | cons entry rest =>
      simp only [act?, hqueue', hqueue, List.map_cons, apply_ite (Option.map _), Option.map_some,
        Option.map_none, ← carryOut_relabel]
      rfl
  | sweep now =>
    obtain rfl := Option.some.inj ha
    simp only [act?, apply_ite (Option.map _), Option.map_some, Option.map_none, ← carryOut_relabel]
    rfl
  | leaveBatches | leaveRules =>
    obtain rfl := Option.some.inj ha
    simp only [act?, relabel, Channel.relabel, List.isEmpty_map, apply_ite (Option.map _),
      Option.map_some, Option.map_none]
  | start | stop =>
    obtain rfl := Option.some.inj ha
    simp only [act?, apply_ite (Option.map _), Option.map_some, Option.map_none]
    rfl

theorem told_relabel (hg : g.Separates) (ha : a.relabel g = some a') :
    (d.relabel g).told a' = g.pairs (d.told a) := by
  cases a with
  | finish n =>
    obtain ⟨k, hk, rfl⟩ := Option.map_eq_some_iff.1 ha
    simp only [told, relabel, Labelling.lookup_pairs hg hk]
    cases d.answered.lookup n <;> simp [Labelling.pairs, hk]
  | accept n | abandon n =>
    obtain ⟨k, hk, rfl⟩ := Option.map_eq_some_iff.1 ha
    rfl
  | _ =>
    obtain rfl := Option.some.inj ha
    rfl

def Course.relabel (g : Labelling) (c : Course σ) : Course σ :=
  ⟨c.dispatcher.relabel g, c.effects, g.pairs c.replies⟩

theorem Course.act?_relabel {c c' : Course σ} (hg : g.Continues c.dispatcher.calls)
    (ha : a.relabel g = some a') (hact : c.act? r a = some c') :
    (c.relabel g).act? r a' = some (c'.relabel g) := by
  obtain ⟨⟨d', effects⟩, hd', rfl⟩ := Option.map_eq_some_iff.1 hact
  have hclose : a = .close → ∀ call, g call = none →
      call ∉ c.dispatcher.batches.waiting.map (·.1) ∧
        call ∉ c.dispatcher.ruleLists.waiting.map (·.1) := by
    rintro rfl call -
    obtain ⟨⟨-, hbatches, hruleLists⟩, -⟩ := Option.ite_none_right_eq_some.1 hd'
    simp [List.isEmpty_iff.1 hbatches, List.isEmpty_iff.1 hruleLists]
  rw [Course.act?, Course.relabel, Dispatcher.act?_relabel hg ha hclose, hd']
  simp only [Option.map_some, Course.relabel, told_relabel hg.separates ha, Labelling.pairs_append]

end Dispatcher

end Alerting
