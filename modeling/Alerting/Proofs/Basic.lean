import Mathlib.Data.List.Count
import Mathlib.Data.List.Perm.Basic

/-!
# Outcomes and lists

Facts about refusals, searches and permutations that have nothing to do with alerts.
-/

namespace Alerting

/-! ## Outcomes -/

section Outcomes

variable {ε α β γ : Type} {r : Except ε α} {b : β}

theorem map_eq_ok_iff {f : α → β} : r.map f = .ok b ↔ ∃ a, r = .ok a ∧ b = f a := by
  cases r with
  | error e => simp [Except.map]
  | ok a => simp [Except.map, eq_comm]

theorem bind_eq_ok_iff {f : α → Except ε β} : r >>= f = .ok b ↔ ∃ a, r = .ok a ∧ f a = .ok b := by
  cases r with
  | error e => simp [bind, Except.bind]
  | ok a => simp [bind, Except.bind]

theorem map_map (r : Except ε α) (f : α → β) (g : β → γ) :
    (r.map f).map g = r.map fun a => g (f a) := by
  cases r <;> rfl

end Outcomes

/-! ## Lists -/

variable {α β κ : Type} {l l' : List α}

theorem mem_of_lookup [BEq α] [LawfulBEq α] {pairs : List (α × β)} {a : α} {b : β}
    (h : pairs.lookup a = some b) : (a, b) ∈ pairs := by
  obtain ⟨l₁, l₂, rfl, -⟩ := List.lookup_eq_some_iff.1 h
  exact List.mem_append_cons_self

theorem getLast?_filter {p : α → Bool} {x : α} (hlast : l.getLast? = some x) (hx : p x) :
    (l.filter p).getLast? = some x := by
  obtain ⟨rest, rfl⟩ := List.getLast?_eq_some_iff.1 hlast
  rw [List.filter_append, List.filter_singleton, hx]
  exact List.getLast?_concat

/-- Two lists that agree on each class of their elements are permutations of each other. -/
theorem perm_of_projections [DecidableEq κ] (key : α → κ)
    (h : ∀ k, l.filter (key · = k) = l'.filter (key · = k)) : l.Perm l' := by
  classical
  rw [List.perm_iff_count]
  intro a
  have ha : decide (key a = key a) = true := decide_eq_true rfl
  rw [← List.count_filter (p := (key · = key a)) ha, h,
    List.count_filter (p := (key · = key a)) ha]

end Alerting
