import Alerting.Json.Fault
import Alerting.Json.Shape
import Alerting.Proofs.Basic

/-!
# Outcomes

Reading and fitting either refuse or come to something. They agree if both refuse or both come to the
same.
-/

namespace Alerting.Json

/-- Reading comes to what fitting comes to, and leaves `rest`; either both refuse or neither does. -/
def Agrees {α : Type} (read : Except Fault (α × List Char)) (rest : List Char)
    (fitted : Except Misfit α) : Prop :=
  ∀ a rest', read = .ok (a, rest') ↔ fitted = .ok a ∧ rest' = rest

namespace Agrees

variable {α β : Type} {read : Except Fault (α × List Char)} {rest : List Char}
  {fitted : Except Misfit α}

theorem found (a : α) : Agrees (.ok (a, rest)) rest (.ok a) := by
  intro b rest'
  simp [eq_comm]

theorem refused (hread : ∀ r, read ≠ .ok r) (hfit : ∀ a, fitted ≠ .ok a) :
    Agrees read rest fitted :=
  fun a _ => iff_of_false (hread _) fun h => hfit a h.1

theorem misfit (e : Misfit) (hread : ∀ r, read ≠ .ok r) : Agrees read rest (.error e) :=
  refused hread nofun

theorem errors (fault : Fault) (e : Misfit) :
    Agrees (.error fault : Except Fault (α × List Char)) rest (.error e) :=
  misfit e nofun

theorem eq_ok (h : Agrees read rest fitted) {a : α} (hfit : fitted = .ok a) :
    read = .ok (a, rest) :=
  (h a rest).2 ⟨hfit, rfl⟩

theorem ne_ok (h : Agrees read rest fitted) {e : Misfit} (hfit : fitted = .error e)
    (r : α × List Char) : read ≠ .ok r := by
  intro hread
  obtain ⟨hok, -⟩ := (h r.1 r.2).1 hread
  rw [hfit] at hok
  cases hok

theorem map (h : Agrees read rest fitted) (f : α → β) :
    Agrees (read.map fun r => (f r.1, r.2)) rest (fitted.map f) := by
  cases hfit : fitted with
  | ok a =>
    rw [h.eq_ok hfit]
    exact found (f a)
  | error e =>
    refine misfit e fun r hr => ?_
    obtain ⟨a, hread, -⟩ := map_eq_ok_iff.1 hr
    exact h.ne_ok hfit a hread

end Agrees

end Alerting.Json
