import Alerting.Proofs.Pattern.Agreement

/-!
# Escapes and what stands behind

An escape that is cut short fails, or takes the parenthesis. A word boundary in front of an open
brace is special: without the tail it fails, and with it the brace is left to be read as a count, which
fails in turn.
-/

namespace Alerting.Pattern

open Text

variable {t u : List Char} {bound : Nat}

theorem agrees_hexFixed? (ht : Tail t) (verbose : Bool) (count : Nat) (read : List Nat)
    (u : List Char) :
    Agrees t bound (hexFixed? verbose count read u) (hexFixed? verbose count read (u ++ t)) := by
  induction count generalizing read u with
  | zero => exact .same t bound _ u
  | succ count ih =>
    cases u with
    | nil => cases ht <;> exact .fails _ bound
    | cons c u =>
      simp only [List.cons_append, hexFixed?]
      split
      · refine .skip ht verbose u (fun r _ => ih _ r) ?_
        cases count with
        | zero => exact .swallowed t bound _
        | succ count => exact .fails t bound
      · exact .fails t bound

theorem hexBraced?_nil (verbose : Bool) (fuel : Nat) (read : List Nat) :
    hexBraced? verbose fuel read [] = none := by
  cases fuel <;> rfl

theorem agrees_hexBraced? (ht : Tail t) (verbose : Bool) {fuel₁ fuel₂ : Nat} (read : List Nat)
    (h₁ : u.length < fuel₁) (h₂ : (u ++ t).length < fuel₂) :
    Agrees t bound (hexBraced? verbose fuel₁ read u) (hexBraced? verbose fuel₂ read (u ++ t)) := by
  induction fuel₁ generalizing fuel₂ read u with
  | zero => exact absurd h₁ (Nat.not_lt_zero _)
  | succ fuel₁ ih =>
    obtain ⟨fuel₂, rfl⟩ := Nat.exists_eq_add_one.2 (Nat.lt_of_le_of_lt (Nat.zero_le _) h₂)
    cases u with
    | nil => cases ht <;> exact .fails _ bound
    | cons c u =>
      simp only [List.cons_append, List.length_cons, Nat.add_lt_add_iff_right] at h₁ h₂
      simp only [List.cons_append, hexBraced?]
      split
      · split
        · exact .fails t bound
        · exact .same t bound _ u
      · split
        · refine .skip ht verbose u (fun r hr => ih _ ?_ ?_) ?_
          · exact Nat.lt_of_le_of_lt hr.length_le h₁
          · exact Nat.lt_of_le_of_lt (length_append_le hr t) h₂
          · rw [hexBraced?_nil, hexBraced?_nil]
            exact .fails t bound
        · exact .fails t bound

theorem agrees_hexDigits? (ht : Tail t) (verbose : Bool) (digits : Nat) (u : List Char) :
    Agrees t bound (hexDigits? verbose digits u) (hexDigits? verbose digits (u ++ t)) := by
  have hfixed := (agrees_hexFixed? ht verbose digits [] u : Agrees t bound _ _).map
    (·, decide (digits = 2))
  cases u with
  | nil => cases ht <;> exact hfixed
  | cons c u =>
    by_cases hc : c = '\x7b'
    · subst hc
      have hlt : ∀ r, r <:+ u → (r ++ t).length < (u ++ t).length + 1 :=
        fun r hr => Nat.lt_succ_of_le (length_append_le hr t)
      refine (Agrees.skip ht verbose u (fun r hr => ?_) ?_).map (·, false)
      · exact agrees_hexBraced? ht verbose [] (Nat.lt_succ_of_le hr.length_le) (hlt r hr)
      · exact .fails t bound
    · simpa [hexDigits?, hc] using hfixed

theorem agrees_hexEscape? (ht : Tail t) (verbose : Bool) (digits : Nat) (u : List Char) :
    Agrees t bound (hexEscape? verbose digits u) (hexEscape? verbose digits (u ++ t)) := by
  have hdigits : Agrees t 0 (hexDigits? verbose digits (skip verbose u))
      (hexDigits? verbose digits (skip verbose (u ++ t))) := by
    refine .skip ht verbose u (fun r _ => agrees_hexDigits? ht verbose digits r) ?_
    exact .of_nil fun _ _ h => hexDigits?_suffix h
  refine hdigits.bind_exact (fun n r => ?_) fun n => ?_
  · cases scalar? n.1 with
    | none => exact .fails t bound
    | some c => exact .same t bound _ r
  · cases scalar? n.1 with
    | none => exact .fails t bound
    | some c => exact .swallowed t bound _

theorem braced?_nil (verbose : Bool) (fuel : Nat) (read : List Char) :
    braced? verbose fuel read [] = none := by
  cases fuel <;> rfl

theorem braced?_frame (verbose : Bool) (fuel : Nat) (read : List Char) :
    braced? verbose fuel read [')', '$'] = none := by
  cases verbose <;> rcases fuel with _ | _ | _ | fuel <;> rfl

theorem agrees_braced? (ht : Tail t) (verbose : Bool) {fuel₁ fuel₂ : Nat} (read : List Char)
    (h₁ : u.length < fuel₁) (h₂ : (u ++ t).length < fuel₂) :
    Agrees t bound (braced? verbose fuel₁ read u) (braced? verbose fuel₂ read (u ++ t)) := by
  induction fuel₁ generalizing fuel₂ read u with
  | zero => exact absurd h₁ (Nat.not_lt_zero _)
  | succ fuel₁ ih =>
    obtain ⟨fuel₂, rfl⟩ := Nat.exists_eq_add_one.2 (Nat.lt_of_le_of_lt (Nat.zero_le _) h₂)
    cases u with
    | nil =>
      cases ht with
      | nothing => exact .fails _ bound
      | frame =>
        rw [List.nil_append, braced?_frame]
        exact .fails _ bound
    | cons c u =>
      simp only [List.cons_append, List.length_cons, Nat.add_lt_add_iff_right] at h₁ h₂
      simp only [List.cons_append, braced?]
      split
      · exact .same t bound _ u
      · refine .skip ht verbose u (fun r hr => ih _ ?_ ?_) ?_
        · exact Nat.lt_of_le_of_lt hr.length_le h₁
        · exact Nat.lt_of_le_of_lt (length_append_le hr t) h₂
        · rw [braced?_nil, braced?_nil]
          exact .fails t bound

theorem agrees_propertyName? (ht : Tail t) (verbose negated : Bool) (u : List Char) :
    Agrees t t.length (propertyName? verbose negated u) (propertyName? verbose negated (u ++ t)) := by
  cases u with
  | nil =>
    cases ht with
    | nothing => exact .fails _ _
    | frame =>
      refine .stuck fun s r h => ?_
      obtain ⟨-, rfl⟩ := Prod.mk.inj (Option.some.inj h)
      decide
  | cons c u =>
    by_cases hc : c = '\x7b'
    · subst hc
      refine (Agrees.skip ht verbose u (fun r hr => ?_) ?_).map (propertyOf negated)
      · exact agrees_braced? ht verbose [] (Nat.lt_succ_of_le hr.length_le)
          (Nat.lt_succ_of_le (length_append_le hr t))
      · exact .fails t _
    · by_cases hbackslash : c = '\\'
      · subst hbackslash
        exact .fails t _
      · simpa [propertyName?, hc, hbackslash] using Agrees.same t _ _ u

theorem agrees_property? (ht : Tail t) (verbose negated : Bool) (u : List Char) :
    Agrees t t.length (property? verbose negated u) (property? verbose negated (u ++ t)) :=
  .skip ht verbose u (fun r _ => agrees_propertyName? ht verbose negated r) (.fails t _)

/-! ## Word boundaries -/

theorem agrees_namedBoundary? (ht : Tail t) (verbose : Bool) (u : List Char) :
    Agrees t bound (namedBoundary? verbose u) (namedBoundary? verbose (u ++ t)) := by
  have hname : Agrees t 0 (braced? verbose (u.length + 1) [] u)
      (braced? verbose ((u ++ t).length + 1) [] (u ++ t)) :=
    agrees_braced? ht verbose [] (Nat.lt_succ_self _) (Nat.lt_succ_self _)
  refine hname.bind_exact (fun name r => ?_) fun name => ?_
  · repeat' split
    all_goals first | exact .same t bound _ r | exact .fails t bound
  · repeat' split
    all_goals first | exact .swallowed t bound _ | exact .fails t bound

/-- A brace is left in which there is no number. -/
def IsVainBrace (verbose : Bool) (cs : List Char) : Prop :=
  ∃ inside, cs = '\x7b' :: inside ∧ number? verbose (skip verbose inside) = none

theorem agrees_wordBoundary? (ht : Tail t) (verbose : Bool) (u : List Char) :
    Agrees t t.length (wordBoundary? verbose u) (wordBoundary? verbose (u ++ t)) ∨
      wordBoundary? verbose u = none ∧
        ∃ r, wordBoundary? verbose (u ++ t) = some (.wordBoundary, r) ∧ IsVainBrace verbose r := by
  cases u with
  | nil =>
    left
    cases ht <;> exact .same _ _ Anchor.wordBoundary []
  | cons c u =>
    by_cases hc : c = '\x7b'
    · subst hc
      simp only [List.cons_append, wordBoundary?]
      rcases skip_append ht verbose u with h | ⟨h₁, h₂⟩
      · rw [h]
        cases hinside : skip verbose u with
        | nil =>
          cases ht with
          | nothing => exact .inl (.fails _ _)
          | frame =>
            refine .inr ⟨rfl, _, rfl, _, rfl, ?_⟩
            rw [h, hinside]
            rfl
        | cons d inside =>
          left
          simp only [List.cons_append]
          split
          · exact agrees_namedBoundary? ht verbose (d :: inside)
          · exact .same t _ Anchor.wordBoundary ('\x7b' :: u)
      · rw [h₁, h₂]
        exact .inl (.fails t _)
    · left
      simpa [wordBoundary?, hc] using Agrees.same t t.length Anchor.wordBoundary (c :: u)

theorem agrees_escape? (ht : Tail t) (verbose : Bool) (u : List Char) :
    Agrees t t.length (escape? verbose u) (escape? verbose (u ++ t)) ∨
      escape? verbose u = none ∧
        ∃ r, escape? verbose (u ++ t) = some (.anchor .wordBoundary, r) ∧ IsVainBrace verbose r := by
  cases u with
  | nil =>
    left
    cases ht with
    | nothing => exact .fails _ _
    | frame =>
      refine .stuck fun e r h => ?_
      have hr := (escape?_suffix h).length_le
      exact Nat.lt_succ_of_le hr
  | cons c u =>
    simp only [List.cons_append, escape?]
    cases EscapeForm.ofChar? c with
    | none => exact .inl (.fails t _)
    | some form =>
      cases form with
      | plain e => exact .inl (.same t _ e u)
      | hex digits => exact .inl ((agrees_hexEscape? ht verbose digits u).map Escape.char)
      | property negated => exact .inl ((agrees_property? ht verbose negated u).map Escape.set)
      | wordBoundary =>
        rcases agrees_wordBoundary? ht verbose u with h | ⟨h, r, hr, hvain⟩
        · exact .inl (h.map Escape.anchor)
        · refine .inr ⟨?_, r, ?_, hvain⟩
          · simp [EscapeForm.read?, h]
          · simp [EscapeForm.read?, hr]

end Alerting.Pattern
