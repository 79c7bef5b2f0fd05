import Alerting.Pattern.Parser
import Alerting.Pattern.Search
import Alerting.Pattern.Size

/-!
# Patterns for whole texts

A pattern is put between `^(?:` and `)$` as it is written, and what results is read as one regular
expression.
-/

namespace Alerting.Pattern

inductive Refusal where
  /-- It is not written as a regular expression. -/
  | malformed
  | tooLarge
  deriving DecidableEq

def Regex.ofChars (cs : List Char) : Except Refusal Regex :=
  match (Expr.ofChars? cs).bind (·.settle? {}) with
  | none => .error .malformed
  | some (r, _) => if r.IsTooLarge then .error .tooLarge else .ok r

theorem Expr.ofChars?_eq_some_iff {cs : List Char} {e : Expr} :
    Expr.ofChars? cs = some e ↔
      (∃ mode, reading? cs = some ((e, mode), [])) ∧ e.depth ≤ depthLimit := by
  unfold Expr.ofChars?
  split
  · rename_i e' mode h
    simp only [h]
    grind
  · rename_i h
    have hreading : ¬∃ mode, reading? cs = some ((e, mode), []) := fun ⟨mode, hr⟩ => h e mode hr
    simp [hreading]

theorem Regex.ofChars_eq_ok_iff {cs : List Char} {r : Regex} :
    Regex.ofChars cs = .ok r ↔
      ∃ e flags, Expr.ofChars? cs = some e ∧ e.settle? {} = some (r, flags) ∧ ¬r.IsTooLarge := by
  unfold Regex.ofChars
  cases Expr.ofChars? cs with
  | none => simp
  | some e =>
    cases hsettle : e.settle? {} with
    | none => simp [hsettle]
    | some s => by_cases hsize : s.1.IsTooLarge <;> grind

/-- A pattern between the anchors of a whole text. -/
def anchored (pattern : String) : List Char := "^(?:".toList ++ pattern.toList ++ ")$".toList

/-- The regular expression for the texts that match a pattern as a whole. -/
def Regex.ofPattern (pattern : String) : Except Refusal Regex :=
  Regex.ofChars (anchored pattern)

end Alerting.Pattern
