import Alerting.Json.Parser
import Alerting.Proofs.Json.Outcome
import Mathlib.Order.Basic

/-!
# Words, numbers and texts that were read

A scalar is known by its first character. What could be read of it can be skipped, and something is
taken from the text.
-/

namespace Alerting.Json

open Text

theorem word_eq_ok {w cs rest : List Char} {u : Unit} (h : word w cs = .ok (u, rest)) :
    cs = w ++ rest := by
  induction w generalizing cs with
  | nil => cases h; rfl
  | cons c w ih =>
    cases cs with
    | nil => cases h
    | cons d cs =>
      rw [word] at h
      split at h
      · rename_i hc
        rw [hc, ih h, List.cons_append]
      · cases h

/-! ## Texts -/

theorem length_codeUnit {cs rest : List Char} {n : Nat} (h : codeUnit cs = .ok (n, rest)) :
    rest.length < cs.length := by
  unfold codeUnit at h
  dsimp only at h
  split at h
  · cases h
  split at h
  · split at h
    · cases h
      simp only [List.length_cons]
      omega
    · cases h
  · cases h

theorem skipEscaped_of_escaped {cs rest : List Char} {c : Char} (h : escaped cs = .ok (c, rest)) :
    skipEscaped cs = .ok ((), rest) ∨
      ∃ mid, skipEscaped cs = .ok ((), '\\' :: mid) ∧ skipEscaped mid = .ok ((), rest) := by
  have hunit : ∀ {cs rest : List Char} {n : Nat}, codeUnit cs = .ok (n, rest) →
      skipEscaped ('u' :: cs) = .ok ((), rest) := by
    intro cs rest n h
    rw [skipEscaped, if_pos rfl, h]
    rfl
  cases cs with
  | nil => cases h
  | cons letter cs =>
    rw [escaped] at h
    split at h
    · rename_i hu
      rw [hu]
      obtain ⟨⟨high, cs₁⟩, hhigh, h⟩ := bind_eq_ok_iff.1 h
      dsimp only at h
      split at h
      · cases h
      split at h
      · split at h
        · rename_i mid
          obtain ⟨⟨low, cs₂⟩, hlow, h⟩ := bind_eq_ok_iff.1 h
          dsimp only at h
          split at h
          · simp only [Except.ok.injEq, Prod.mk.injEq] at h
            obtain ⟨-, rfl⟩ := h
            exact .inr ⟨_, hunit hhigh, hunit hlow⟩
          · cases h
        all_goals cases h
      · simp only [Except.ok.injEq, Prod.mk.injEq] at h
        obtain ⟨-, rfl⟩ := h
        exact .inl (hunit hhigh)
    · rename_i hu
      split at h
      · rename_i d hshort
        simp only [Except.ok.injEq, Prod.mk.injEq] at h
        obtain ⟨-, rfl⟩ := h
        left
        rw [skipEscaped, if_neg hu, hshort]
        rfl
      · cases h

theorem length_skipEscaped {cs rest : List Char} (h : skipEscaped cs = .ok ((), rest)) :
    rest.length < cs.length := by
  cases cs with
  | nil => cases h
  | cons letter cs =>
    rw [skipEscaped] at h
    split at h
    · obtain ⟨⟨n, _⟩, hunit, heq⟩ := map_eq_ok_iff.1 h
      cases heq
      exact Nat.lt_succ_of_lt (length_codeUnit hunit)
    split at h
    · cases h
      exact Nat.lt_succ_self _
    · cases h

theorem skipQuotedRest_backslash {fuel : Nat} {cs rest : List Char}
    (h : skipEscaped cs = .ok ((), rest)) :
    skipQuotedRest (fuel + 1) ('\\' :: cs) = skipQuotedRest fuel rest := by
  rw [skipQuotedRest, if_neg (by decide), if_pos rfl, h]

theorem quotedChar_eq_none {cs rest : List Char} (h : quotedChar cs = .ok (none, rest)) :
    cs = '"' :: rest := by
  cases cs with
  | nil => cases h
  | cons c cs =>
    rw [quotedChar] at h
    split at h
    · rename_i hquote
      cases h
      rw [hquote]
    split at h
    · obtain ⟨⟨d, _⟩, -, heq⟩ := bind_eq_ok_iff.1 h
      cases heq
    split at h
    · cases h
    · cases h

theorem quotedChar_eq_some {cs rest : List Char} {c : Char} (h : quotedChar cs = .ok (some c, rest)) :
    (cs = c :: rest ∧ c ≠ '"' ∧ c ≠ '\\' ∧ ¬c.toNat < 0x20) ∨
      ∃ cs', cs = '\\' :: cs' ∧ escaped cs' = .ok (c, rest) := by
  cases cs with
  | nil => cases h
  | cons d cs =>
    rw [quotedChar] at h
    split at h
    · cases h
    rename_i hquote
    split at h
    · rename_i hbackslash
      obtain ⟨⟨e, _⟩, hescaped, heq⟩ := bind_eq_ok_iff.1 h
      cases heq
      exact .inr ⟨cs, by rw [hbackslash], hescaped⟩
    rename_i hbackslash
    split at h
    · cases h
    · rename_i hcontrol
      cases h
      exact .inl ⟨rfl, hquote, hbackslash, hcontrol⟩

theorem skipQuotedRest_of_quotedRest {fuel fuel' : Nat} {read cs rest : List Char} {s : String}
    (h : quotedRest fuel read cs = .ok (s, rest)) (hfuel : cs.length < fuel') :
    skipQuotedRest fuel' cs = .ok ((), rest) ∧ rest.length < cs.length := by
  induction fuel generalizing read cs fuel' with
  | zero => cases h
  | succ fuel ih =>
    obtain ⟨fuel', rfl⟩ := Nat.exists_eq_add_one.2 (Nat.zero_lt_of_lt hfuel)
    unfold quotedRest at h
    split at h
    · cases h
    · rename_i hnone
      cases h
      rw [quotedChar_eq_none hnone, skipQuotedRest, if_pos rfl]
      exact ⟨rfl, Nat.lt_succ_self _⟩
    · rename_i c cs₁ hsome
      obtain ⟨rfl, hquote, hbackslash, hcontrol⟩ | ⟨cs', rfl, hescaped⟩ := quotedChar_eq_some hsome
      · rw [skipQuotedRest, if_neg hquote, if_neg hbackslash, if_neg hcontrol]
        obtain ⟨hskip, hlength⟩ := ih h (Nat.lt_of_succ_lt_succ hfuel)
        exact ⟨hskip, Nat.lt_succ_of_lt hlength⟩
      · rw [List.length_cons] at hfuel ⊢
        obtain hone | ⟨mid, hhigh, hlow⟩ := skipEscaped_of_escaped hescaped
        · have hshort := length_skipEscaped hone
          obtain ⟨hskip, hlength⟩ := ih h (show cs₁.length < fuel' by omega)
          rw [skipQuotedRest_backslash hone]
          exact ⟨hskip, by omega⟩
        · -- A pair of surrogates is skipped in two steps.
          have hshort := length_skipEscaped hhigh
          have hshort' := length_skipEscaped hlow
          rw [List.length_cons] at hshort
          obtain ⟨fuel', rfl⟩ := Nat.exists_eq_add_one.2 (show 0 < fuel' by omega)
          obtain ⟨hskip, hlength⟩ := ih h (show cs₁.length < fuel' by omega)
          rw [skipQuotedRest_backslash hhigh, skipQuotedRest_backslash hlow]
          exact ⟨hskip, by omega⟩

/-! ## Numbers -/

theorem length_dropDigits_le (cs : List Char) : (cs.dropWhile Char.isDigit).length ≤ cs.length :=
  (List.dropWhile_sublist Char.isDigit).length_le

theorem length_wholeDigits {cs rest digits : List Char} (h : wholeDigits cs = .ok (digits, rest)) :
    rest.length < cs.length := by
  unfold wholeDigits at h
  split at h
  · cases h
  rename_i c cs
  split at h
  · split at h
    · split at h
      · cases h
      · cases h
        exact Nat.lt_succ_self _
    · cases h
      exact Nat.lt_succ_self _
  split at h
  · cases h
    exact Nat.lt_succ_of_le (length_dropDigits_le cs)
  · cases h

theorem length_fractionDigits {cs rest : List Char} {digits : Option (List Char)}
    (h : fractionDigits cs = .ok (digits, rest)) : rest.length ≤ cs.length := by
  unfold fractionDigits at h
  split at h
  · split at h
    · cases h
    split at h
    · cases h
      exact Nat.le_succ_of_le (length_dropDigits_le _)
    · cases h
  · cases h
    exact Nat.le_refl _

theorem length_exponentDigits {negative : Bool} {cs rest : List Char}
    {exponent : Option (Bool × List Char)}
    (h : exponentDigits negative cs = .ok (exponent, rest)) : rest.length ≤ cs.length := by
  unfold exponentDigits at h
  split at h
  · cases h
  split at h
  · cases h
    exact Nat.le_succ_of_le (length_dropDigits_le _)
  · cases h

theorem length_exponentPart {cs rest : List Char} {exponent : Option (Bool × List Char)}
    (h : exponentPart cs = .ok (exponent, rest)) : rest.length ≤ cs.length := by
  unfold exponentPart at h
  split at h
  case h_7 =>
    cases h
    exact Nat.le_refl _
  all_goals
    have hlength := length_exponentDigits h
    simp only [List.length_cons]
    omega

theorem length_unsigned {negative : Bool} {cs rest : List Char} {n : Numeral}
    (h : unsigned negative cs = .ok (n, rest)) : rest.length < cs.length := by
  obtain ⟨⟨whole, cs₁⟩, hwhole, h⟩ := bind_eq_ok_iff.1 h
  obtain ⟨⟨fraction, cs₂⟩, hfraction, h⟩ := bind_eq_ok_iff.1 h
  obtain ⟨⟨exponent, cs₃⟩, hexponent, h⟩ := bind_eq_ok_iff.1 h
  cases h
  have h₁ := length_wholeDigits hwhole
  have h₂ := length_fractionDigits hfraction
  have h₃ := length_exponentPart hexponent
  omega

theorem skipNumber_of_readNumber {cs rest : List Char} {n : Number}
    (h : readNumber cs = .ok (n, rest)) : skipNumber cs = .ok ((), rest) ∧ rest.length < cs.length := by
  unfold readNumber at h
  unfold skipNumber
  split at h
  · obtain ⟨⟨numeral, rest'⟩, hread, h⟩ := bind_eq_ok_iff.1 h
    dsimp only at h ⊢
    split at h
    · cases h
      rw [hread]
      exact ⟨rfl, Nat.lt_succ_of_lt (length_unsigned hread)⟩
    · cases h
  · obtain ⟨⟨numeral, rest'⟩, hread, h⟩ := bind_eq_ok_iff.1 h
    dsimp only at h ⊢
    split at h
    · cases h
      rw [hread]
      exact ⟨rfl, length_unsigned hread⟩
    · cases h

/-! ## Words, numbers and texts -/

/-- A word, a number or a text in front of a text, and what is left behind it. -/
inductive Scalar (fuel : Nat) : List Char → Json → List Char → Prop
  | null {cs rest : List Char} (h : word "ull".toList cs = .ok ((), rest)) :
    Scalar fuel ('n' :: cs) .null rest
  | true {cs rest : List Char} (h : word "rue".toList cs = .ok ((), rest)) :
    Scalar fuel ('t' :: cs) (.bool true) rest
  | false {cs rest : List Char} (h : word "alse".toList cs = .ok ((), rest)) :
    Scalar fuel ('f' :: cs) (.bool false) rest
  | text {cs rest : List Char} {s : String} (h : quotedText fuel cs = .ok (s, rest)) :
    Scalar fuel ('"' :: cs) (.text s) rest
  | number {c : Char} {cs rest : List Char} {n : Number} (hc : c = '-' ∨ c.isDigit = true)
    (h : readNumber (c :: cs) = .ok (n, rest)) : Scalar fuel (c :: cs) (.number n) rest

theorem scalar_of_ok {fuel : Nat} {cs rest : List Char} {j : Json}
    (h : scalar fuel cs = .ok (j, rest)) : Scalar fuel cs j rest := by
  cases cs with
  | nil => cases h
  | cons c cs =>
    rw [scalar] at h
    split at h
    · rename_i hc
      obtain ⟨⟨_, _⟩, hread, heq⟩ := map_eq_ok_iff.1 h
      cases heq
      exact hc ▸ .null hread
    split at h
    · rename_i hc
      obtain ⟨⟨_, _⟩, hread, heq⟩ := map_eq_ok_iff.1 h
      cases heq
      exact hc ▸ .true hread
    split at h
    · rename_i hc
      obtain ⟨⟨_, _⟩, hread, heq⟩ := map_eq_ok_iff.1 h
      cases heq
      exact hc ▸ .false hread
    split at h
    · rename_i hc
      obtain ⟨⟨_, _⟩, hread, heq⟩ := map_eq_ok_iff.1 h
      cases heq
      exact hc ▸ .text hread
    split at h
    · rename_i hc
      obtain ⟨⟨_, _⟩, hread, heq⟩ := map_eq_ok_iff.1 h
      cases heq
      exact .number hc hread
    · cases h

theorem ne_of_opens_number {c d : Char} (hc : c = '-' ∨ c.isDigit = true)
    (hd : d ≠ '-' ∧ d.isDigit = false) : c ≠ d := by
  rintro rfl
  rcases hc with rfl | hc
  · exact hd.1 rfl
  · rw [hd.2] at hc
    cases hc

theorem Scalar.ne_cons {fuel : Nat} {cs rest : List Char} {j : Json} (h : Scalar fuel cs j rest)
    (inner : List Char) : cs ≠ '[' :: inner ∧ cs ≠ '\x7b' :: inner := by
  cases h with
  | number hc _ =>
    exact ⟨fun h => ne_of_opens_number hc (by decide) (List.cons.inj h).1,
      fun h => ne_of_opens_number hc (by decide) (List.cons.inj h).1⟩
  | null _ | true _ | false _ | text _ => exact ⟨nofun, nofun⟩

theorem Scalar.ne_object {fuel : Nat} {cs rest : List Char} {j : Json} (h : Scalar fuel cs j rest)
    (members : List (String × Json)) : j ≠ .object members := by
  cases h <;> exact nofun

theorem Scalar.skips {fuel : Nat} {cs rest : List Char} {j : Json} (h : Scalar fuel cs j rest)
    (hfuel : cs.length ≤ fuel) : skipScalar fuel cs = .ok ((), rest) ∧ rest.length < cs.length := by
  have hword : ∀ {w cs : List Char}, word w cs = .ok ((), rest) → rest.length < cs.length + 1 := by
    intro w cs h
    rw [word_eq_ok h, List.length_append]
    omega
  cases h with
  | null h | true h | false h => exact ⟨h, hword h⟩
  | text h =>
    obtain ⟨hskip, hshort⟩ := skipQuotedRest_of_quotedRest h hfuel
    exact ⟨hskip, Nat.lt_succ_of_lt hshort⟩
  | @number c _ _ _ hc h =>
    have hn : c ≠ 'n' := ne_of_opens_number hc (by decide)
    have ht : c ≠ 't' := ne_of_opens_number hc (by decide)
    have hf : c ≠ 'f' := ne_of_opens_number hc (by decide)
    have hquote : c ≠ '"' := ne_of_opens_number hc (by decide)
    rw [skipScalar, if_neg hn, if_neg ht, if_neg hf, if_neg hquote, if_pos hc]
    exact skipNumber_of_readNumber h

end Alerting.Json
