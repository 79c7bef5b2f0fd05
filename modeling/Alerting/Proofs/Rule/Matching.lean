import Alerting.Proofs.Pattern.Whole
import Alerting.Rule.Basic
import Mathlib.Order.Bounds.Basic

/-!
# Which rule claims an event

A rule claims the events whose labels its patterns match as a whole, and the first such rule of a list
owns the event.
-/

namespace Alerting

open Pattern

/-- The event has the label, and the pattern by itself matches the whole of its text. -/
def Filter.Passes (f : Filter) (e : Event) : Prop :=
  ∃ value, e.label? f.name = some value ∧ MatchesWhole f.pattern value

theorem Filter.handles_iff {f : Filter} (hf : IsRegex f.pattern.toList) (e : Event) :
    f.handles e ↔ f.Passes e := by
  unfold Filter.handles Filter.Passes
  cases e.label? f.name with
  | none => simp
  | some value => simpa using matchesIn_iff_matchesWhole hf f.regex_eq value

namespace Rule

/-- Every pattern of the rule is a regular expression by itself. -/
def IsSound (r : Rule) : Prop := ∀ f ∈ r.filters, IsRegex f.pattern.toList

instance : DecidablePred IsSound := fun r => inferInstanceAs (Decidable (∀ f ∈ r.filters, _))

def Claims (r : Rule) (e : Event) : Prop := ∀ f ∈ r.filters, f.Passes e

theorem handles_iff {r : Rule} (hr : r.IsSound) (e : Event) : r.handles e ↔ r.Claims e := by
  unfold handles Claims
  rw [List.all_eq_true]
  exact forall₂_congr fun f hf => Filter.handles_iff (hr f hf) e

end Rule

namespace SharedRule

variable {rules : List SharedRule} {e : Event}

/-- The places of the rules that claim the event. -/
def claimants (rules : List SharedRule) (e : Event) : Set Nat :=
  {i | ∃ s, rules[i]? = some s ∧ s.rule.Claims e}

theorem mem_claimants_iff (hrules : ∀ s ∈ rules, s.rule.IsSound) {i : Nat} :
    i ∈ claimants rules e ↔ ∃ h : i < rules.length, rules[i].rule.handles e := by
  constructor
  · rintro ⟨s, hs, hclaims⟩
    obtain ⟨hi, rfl⟩ := List.getElem?_eq_some_iff.1 hs
    exact ⟨hi, (Rule.handles_iff (hrules _ (List.getElem_mem hi)) e).2 hclaims⟩
  · rintro ⟨hi, hhandles⟩
    refine ⟨rules[i], List.getElem?_eq_getElem hi, ?_⟩
    exact (Rule.handles_iff (hrules _ (List.getElem_mem hi)) e).1 hhandles

theorem findIdx?_eq_some_iff (hrules : ∀ s ∈ rules, s.rule.IsSound) {i : Nat} :
    rules.findIdx? (·.rule.handles e) = some i ↔ IsLeast (claimants rules e) i := by
  rw [List.findIdx?_eq_some_iff_getElem]
  constructor
  · rintro ⟨hi, hhandles, hbefore⟩
    refine ⟨(mem_claimants_iff hrules).2 ⟨hi, hhandles⟩, fun j hj => Nat.not_lt.1 fun hlt => ?_⟩
    obtain ⟨_, hearlier⟩ := (mem_claimants_iff hrules).1 hj
    exact hbefore j hlt hearlier
  · rintro ⟨hmem, hleast⟩
    obtain ⟨hi, hhandles⟩ := (mem_claimants_iff hrules).1 hmem
    refine ⟨hi, hhandles, fun j hj hbefore => Nat.not_le.2 hj (hleast ?_)⟩
    exact (mem_claimants_iff hrules).2 ⟨hj.trans hi, hbefore⟩

theorem findIdx?_eq_none_iff (hrules : ∀ s ∈ rules, s.rule.IsSound) :
    rules.findIdx? (·.rule.handles e) = none ↔ claimants rules e = ∅ := by
  rw [List.findIdx?_eq_none_iff, Set.eq_empty_iff_forall_notMem]
  constructor
  · intro hnone i hi
    obtain ⟨hi, hhandles⟩ := (mem_claimants_iff hrules).1 hi
    simp [hnone _ (List.getElem_mem hi)] at hhandles
  · intro hempty s hs
    obtain ⟨i, hi, rfl⟩ := List.getElem_of_mem hs
    rw [← Bool.not_eq_true]
    exact fun hhandles => hempty i ((mem_claimants_iff hrules).2 ⟨hi, hhandles⟩)

/-- **The first rule wins.** An event is owned by the first rule whose patterns, each by itself,
match the whole texts of its labels. -/
theorem firstMatch_least (rules : List SharedRule) (e : Event)
    (hrules : ∀ s ∈ rules, s.rule.IsSound) :
    (∀ i, Rule.firstIndex? (rules.map (·.rule)) e = some i ↔ IsLeast (claimants rules e) i) ∧
    (∀ s, firstMatch? rules e = some s ↔ ∃ i, IsLeast (claimants rules e) i ∧ rules[i]? = some s) ∧
    (firstMatch? rules e = none ↔ claimants rules e = ∅) := by
  have hindex : Rule.firstIndex? (rules.map (·.rule)) e = rules.findIdx? (·.rule.handles e) :=
    List.findIdx?_map
  refine ⟨fun i => ?_, fun s => ?_, ?_⟩
  · rw [hindex]
    exact findIdx?_eq_some_iff hrules
  · rw [firstMatch?, List.find?_eq_bind_findIdx?_getElem?, Option.bind_eq_some_iff]
    simp only [findIdx?_eq_some_iff hrules]
  · rw [firstMatch?, ← findIdx?_eq_none_iff hrules, List.find?_eq_none, List.findIdx?_eq_none_iff]
    simp only [Bool.not_eq_true]

/-- A lazy repetition matches the whole of a text, and a line of a text is not enough. -/
theorem firstMatch_least_lines :
    let filter : Filter := (Filter.of "service" "(?m)db$|ca(?:che)??").toOption.get (by decide +kernel)
    let rules : List SharedRule := [⟨0, { filters := [filter] }⟩, ⟨1, .catchAll⟩]
    let event (service : String) : Event :=
      { labels := (∅ : TextMap).insert "service" service, createdAt := .epoch }
    (∀ s ∈ rules, s.rule.IsSound) ∧ IsLeast (claimants rules (event "cache")) 0 ∧
      IsLeast (claimants rules (event "db\nweb")) 1 := by
  intro filter rules event
  have hrules : ∀ s ∈ rules, s.rule.IsSound := by decide +kernel
  have hwhole := (firstMatch_least rules (event "cache") hrules).1 0
  have hline := (firstMatch_least rules (event "db\nweb") hrules).1 1
  exact ⟨hrules, hwhole.1 (by decide +kernel), hline.1 (by decide +kernel)⟩

end SharedRule

end Alerting
