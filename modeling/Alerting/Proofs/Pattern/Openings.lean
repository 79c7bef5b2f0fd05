import Alerting.Proofs.Pattern.Agreement

/-!
# Openings of groups and what stands behind

A group that is cut short where it opens fails, or takes the parenthesis as its own.
-/

namespace Alerting.Pattern

variable {t u : List Char} {bound : Nat}

theorem agrees_flagChange? (ht : Tail t) (on off : List Flag) (hyphen last : Bool) (u : List Char) :
    Agrees t (t.length + 1) (flagChange? on off hyphen last u)
      (flagChange? on off hyphen last (u ++ t)) := by
  induction u generalizing on off hyphen last with
  | nil =>
    cases ht with
    | nothing => exact .fails _ _
    | frame =>
      refine .stuck fun f r h => ?_
      exact Nat.lt_succ_of_le (flagChange?_suffix h).length_le
  | cons c u ih =>
    simp only [List.cons_append, flagChange?]
    split
    · split
      · exact .fails t _
      · exact .same t _ _ (c :: u)
    · split
      · split
        · exact .fails t _
        · exact ih on off true true
      · split
        · exact .fails t _
        · split
          · exact .fails t _
          · split
            · exact ih _ _ true false
            · exact ih _ _ false false

theorem agrees_flagsEnd? (t : List Char) (f : FlagChange) (u : List Char) :
    Agrees t t.length (flagsEnd? f u) (flagsEnd? f (u ++ t)) := by
  cases u with
  | nil =>
    refine .stuck fun o r h => ?_
    obtain ⟨c, hc⟩ := flagsEnd?_suffix h
    rw [← List.nil_append t, hc]
    exact Nat.lt_succ_self _
  | cons c u =>
    simp only [List.cons_append, flagsEnd?]
    split
    · split
      · exact .fails t _
      · exact .same t _ _ u
    · exact .same t _ _ u

/-- What follows the flags takes a character, so it takes the parenthesis if the flags end there. -/
theorem agrees_flagged? (ht : Tail t) (u : List Char) :
    Agrees t t.length (flagged? u) (flagged? (u ++ t)) := by
  unfold flagged?
  rcases agrees_flagChange? ht [] [] false false u with ⟨f, r, h₁, h₂⟩ | ⟨f, h₁, h₂⟩ | ⟨h₁, hlong⟩
  · rw [h₁, h₂]
    exact agrees_flagsEnd? t f r
  · rw [h₁, h₂]
    exact .fails t _
  · rw [h₁]
    refine .stuck fun o r h => ?_
    obtain ⟨⟨f, left⟩, hf, h⟩ := Option.bind_eq_some_iff.1 h
    obtain ⟨c, rfl⟩ := flagsEnd?_suffix h
    exact Nat.lt_of_succ_lt_succ (hlong f _ hf)

theorem agrees_groupName? (ht : Tail t) (u : List Char) :
    Agrees t bound (groupName? u) (groupName? (u ++ t)) := by
  unfold groupName?
  cases hdrop : u.dropWhile (· != '>') with
  | nil =>
    -- the name does not end in the text, so it does not end at all
    have htail : t.dropWhile (· != '>') = [] := by cases ht <;> rfl
    simpa [List.dropWhile_append, hdrop, htail] using Agrees.fails t bound
  | cons d rest =>
    obtain ⟨htake, hlong⟩ := while_append hdrop t
    rw [htake, hlong]
    cases u.takeWhile (· != '>') with
    | nil => exact .fails t bound
    | cons first more =>
      dsimp only
      split
      · exact .same t bound _ rest
      · exact .fails t bound

theorem head?_append_eq_iff (ht : Tail t) {c : Char} (hc : c ≠ ')') (u : List Char) :
    (u ++ t).head? = some c ↔ u.head? = some c := by
  cases u with
  | nil =>
    cases ht with
    | nothing => exact Iff.rfl
    | frame => simp [hc.symm]
  | cons d u => exact Iff.rfl

theorem isLookMark_append (ht : Tail t) (u : List Char) :
    isLookMark (u ++ t).head? = isLookMark u.head? := by
  cases u with
  | nil => cases ht <;> rfl
  | cons d u => rfl

theorem looksAround_append (ht : Tail t) (u : List Char) : looksAround (u ++ t) = looksAround u := by
  cases u with
  | nil => cases ht <;> rfl
  | cons c u =>
    simp only [looksAround, List.cons_append, List.head?_cons, List.tail_cons, isLookMark_append ht]

theorem nameMark?_append (ht : Tail t) (u : List Char) :
    nameMark? (u ++ t) = (nameMark? u).map (· ++ t) := by
  cases u with
  | nil => cases ht <;> rfl
  | cons c u =>
    by_cases hangle : c = '<'
    · simp [nameMark?, hangle]
    · by_cases hname : c = 'P' ∧ u.head? = some '<'
      · cases u with
        | nil => cases hname.2
        | cons d u => simp_all [nameMark?]
      · have hlong : ¬(c = 'P' ∧ (u ++ t).head? = some '<') := by
          rwa [head?_append_eq_iff ht (by decide)]
        rw [List.cons_append]
        simp only [nameMark?, List.head?_cons, List.tail_cons, Option.some.injEq, hangle, hname, hlong,
          if_false, Option.map_none]

theorem agrees_opening? (ht : Tail t) (verbose : Bool) (u : List Char) :
    Agrees t t.length (opening? verbose u) (opening? verbose (u ++ t)) := by
  unfold opening?
  rcases skip_append ht verbose u with h | ⟨h₁, h₂⟩
  · rw [h]
    cases skip verbose u with
    | nil => cases ht <;> exact .same _ _ _ []
    | cons c u =>
      by_cases hc : c = '?'
      · subst hc
        simp only [List.cons_append, looksAround_append ht, nameMark?_append ht]
        split
        · exact .fails t _
        · cases nameMark? u with
          | none => exact agrees_flagged? ht u
          | some name =>
            exact (agrees_groupName? ht name).map fun name => Opening.group .keep true (some name)
      · simpa [hc] using Agrees.same t t.length (Opening.group .keep true none) (c :: u)
  · rw [h₁, h₂]
    exact .swallowed t _ _

end Alerting.Pattern
