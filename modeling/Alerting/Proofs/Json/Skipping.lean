import Alerting.Proofs.Json.Reading

/-!
# What can be read can be skipped

Skipping ends where reading ends. It goes through a value step by step with the open brackets on a
stack, in less than two steps for each character.
-/

namespace Alerting.Json

/-! ## Steps of skipping -/

section Steps

variable {fuel m : Nat} {cs rest : List Char} {open' : List Bracket} {b : Bracket}

def Bracket.opening : Bracket → Char
  | .list => '['
  | .object => '\x7b'

/-- What stands behind a bracket and behind a comma. -/
def Bracket.next : Bracket → Skipping
  | .list => .value
  | .object => .member

theorem skipFrom_skipSpace (fuel m : Nat) (open' : List Bracket) (cs : List Char) :
    skipFrom fuel m .value open' (skipSpace cs) = skipFrom fuel m .value open' cs := by
  cases m with
  | zero => rfl
  | succ m => simp only [skipFrom, skipSpace_skipSpace]

theorem skipFrom_scalar {j : Json} (h : Scalar fuel (skipSpace cs) j rest)
    (hfuel : cs.length ≤ fuel) :
    skipFrom fuel (m + 2) .value open' cs = skipFrom fuel (m + 1) (.inside true) open' rest := by
  obtain ⟨hskip, -⟩ := h.skips ((length_skipSpace_le cs).trans hfuel)
  rw [skipFrom]
  split
  · exact absurd ‹_› (h.ne_cons _).1
  · exact absurd ‹_› (h.ne_cons _).2
  · rw [hskip]
    cases open' <;> rfl

theorem skipFrom_opening (h : skipSpace cs = b.opening :: rest) :
    skipFrom fuel (m + 1) .value open' cs = skipFrom fuel m (.inside false) (b :: open') rest := by
  cases b <;> simp only [skipFrom, h, Bracket.opening]

theorem skipFrom_closing {comma : Bool} (h : skipSpace cs = b.closing :: rest) :
    skipFrom fuel (m + 2) (.inside comma) (b :: open') cs =
      skipFrom fuel (m + 1) (.inside true) open' rest := by
  have hcomma : b.closing ≠ ',' := by cases b <;> decide
  rw [skipFrom, h]
  simp only [hcomma, and_false, if_false, if_true]
  cases open' <;> rfl

theorem skipFrom_first {c : Char} (h : skipSpace cs = c :: rest) (hc : c ≠ b.closing) :
    skipFrom fuel (m + 1) (.inside false) (b :: open') cs =
      skipFrom fuel m b.next (b :: open') (c :: rest) := by
  rw [skipFrom, h]
  simp only [Bool.false_eq_true, false_and, if_false, hc]
  cases b <;> rfl

theorem skipFrom_comma (h : skipSpace cs = ',' :: rest) :
    skipFrom fuel (m + 1) (.inside true) (b :: open') cs =
      skipFrom fuel m b.next (b :: open') rest := by
  rw [skipFrom, h]
  simp only [true_and, if_true]
  cases b <;> rfl

theorem skipFrom_member {cs₁ cs₂ : List Char} (h : skipSpace cs = '"' :: cs₁)
    (hname : skipQuotedRest fuel cs₁ = .ok ((), cs₂)) (hcolon : colon cs₂ = .ok ((), rest)) :
    skipFrom fuel (m + 1) .member open' cs = skipFrom fuel m .value open' rest := by
  rw [skipFrom, skipName, h]
  simp only [if_true, hname, hcolon]

end Steps

/-! ## Values -/

/-- Skipping from here comes to stand behind the value in less than two steps for each character. -/
structure Skips (fuel : Nat) (state : Skipping) (opened : List Bracket) (cs rest : List Char) :
    Prop where
  shorter : rest.length < cs.length
  reaches : ∃ n < 2 * (cs.length - rest.length), ∀ k open',
    skipFrom fuel (n + (k + 1)) state (opened ++ open') cs =
      skipFrom fuel (k + 1) (.inside true) open' rest

namespace Skips

variable {fuel : Nat} {cs cs₁ cs₂ rest : List Char} {b : Bracket}

theorem scalar {j : Json} (h : Scalar fuel (skipSpace cs) j rest) (hfuel : cs.length < fuel) :
    Skips fuel .value [] cs rest := by
  have hlength := length_skipSpace_le cs
  obtain ⟨-, hshort⟩ := h.skips (by omega)
  refine ⟨by omega, 1, by omega, fun k open' => ?_⟩
  rw [Nat.add_comm]
  exact skipFrom_scalar h hfuel.le

theorem closing {comma : Bool} (h : skipSpace cs = b.closing :: rest) :
    Skips fuel (.inside comma) [b] cs rest := by
  have hlength := length_skipSpace_le cs
  rw [h, List.length_cons] at hlength
  refine ⟨hlength, 1, by omega, fun k open' => ?_⟩
  rw [Nat.add_comm]
  exact skipFrom_closing h

theorem opening (hopen : skipSpace cs = b.opening :: cs₁)
    (h : Skips fuel (.inside false) [b] cs₁ rest) : Skips fuel .value [] cs rest := by
  have hlength := length_skipSpace_le cs
  rw [hopen, List.length_cons] at hlength
  obtain ⟨hshort, n, hn, hinner⟩ := h
  refine ⟨by omega, n + 1, by omega, fun k open' => ?_⟩
  rw [Nat.add_right_comm, List.nil_append, skipFrom_opening hopen]
  exact hinner k open'

theorem append {state : Skipping} {p : Nat}
    (hfront : ∀ m open', skipFrom fuel (m + p) state (b :: open') cs =
      skipFrom fuel m .value (b :: open') cs₁) (hle : cs₁.length ≤ cs.length)
    (hp : p ≤ 2 * (cs.length - cs₁.length) + 1) (hvalue : Skips fuel .value [] cs₁ cs₂)
    (hlater : Skips fuel (.inside true) [b] cs₂ rest) : Skips fuel state [b] cs rest := by
  obtain ⟨hshort, n, hn, hvalue⟩ := hvalue
  obtain ⟨hshort', n', hn', hlater⟩ := hlater
  refine ⟨by omega, n + n' + p, by omega, fun k open' => ?_⟩
  have hcount : n + n' + p + (k + 1) = n + (n' + k + 1) + p := by omega
  have hcount' : n' + k + 1 = n' + (k + 1) := by omega
  calc skipFrom fuel (n + n' + p + (k + 1)) state ([b] ++ open') cs
      = skipFrom fuel (n + (n' + k + 1)) .value (b :: open') cs₁ := by
        rw [hcount, List.singleton_append, hfront]
    _ = skipFrom fuel (n' + (k + 1)) (.inside true) (b :: open') cs₂ := by
        rw [← hcount']
        exact hvalue (n' + k) (b :: open')
    _ = skipFrom fuel (k + 1) (.inside true) open' rest := hlater k open'

end Skips

theorem Items.skips {item : Reader Json} {fuel : Nat} {first : Bool} {cs rest : List Char}
    {items : List Json} (h : Items item first cs items rest)
    (hitem : ∀ cs j rest, item cs = .ok (j, rest) → cs.length < fuel → Skips fuel .value [] cs rest)
    (hfuel : cs.length < fuel) : Skips fuel (.inside !first) [.list] cs rest := by
  induction h with
  | @done first cs cs₁ rest hnext hend =>
    obtain ⟨rest', hspace, rfl⟩ := nextItem_eq_false hnext
    cases hend
    exact .closing hspace
  | @more first cs cs₁ cs₂ rest j items hnext hj hlater ih =>
    have hlength := length_skipSpace_le cs
    -- One step leads in front of the item.
    have hstep : cs₁.length ≤ cs.length ∧ ∀ m open',
        skipFrom fuel (m + 1) (.inside !first) (.list :: open') cs =
          skipFrom fuel m .value (.list :: open') cs₁ := by
      obtain ⟨rfl, c, rest', hspace, hc, rfl⟩ | ⟨rfl, rest', hspace, rfl⟩ := nextItem_eq_true hnext
      · rw [hspace] at hlength
        exact ⟨hlength, fun m open' => skipFrom_first (b := .list) hspace hc⟩
      · have hlength' := length_skipSpace_le rest'
        rw [hspace, List.length_cons] at hlength
        refine ⟨by omega, fun m open' => ?_⟩
        rw [skipFrom_skipSpace]
        exact skipFrom_comma (b := .list) hspace
    obtain ⟨hle, hfront⟩ := hstep
    have hvalue := hitem cs₁ j cs₂ hj (by omega)
    have hshort := hvalue.shorter
    exact .append hfront hle (by omega) hvalue (ih (by omega))

theorem Members.skips {value : Reader Json} {fuel : Nat} {first : Bool} {cs rest : List Char}
    {members : List (String × Json)} (h : Members value fuel first cs members rest)
    (hvalue : ∀ cs j rest, value cs = .ok (j, rest) → cs.length < fuel → Skips fuel .value [] cs rest)
    (hfuel : cs.length < fuel) : Skips fuel (.inside !first) [.object] cs rest := by
  induction h with
  | @done first cs rest hnext =>
    obtain ⟨-, hspace⟩ | ⟨⟨⟩, -⟩ | ⟨⟨⟩, -⟩ := nextMember_eq_ok hnext
    exact .closing hspace
  | @more first cs cs₁ cs₂ cs₃ cs₄ rest name j members hnext hname hcolon hj hlater ih =>
    have hlength := length_skipSpace_le cs
    have hshort₁ := length_nextMember hnext
    obtain ⟨hskip, hshort₂⟩ :=
      skipQuotedRest_of_quotedRest hname (show cs₁.length < fuel by omega)
    have hshort₃ := length_colon hcolon
    -- One step leads in front of the name, and another one behind its colon.
    have hfront : ∀ m open', skipFrom fuel (m + 2) (.inside !first) (.object :: open') cs =
        skipFrom fuel m .value (.object :: open') cs₃ := by
      intro m open'
      obtain ⟨⟨⟩, -⟩ | ⟨-, rfl, hspace⟩ | ⟨-, rfl, cs', hspace, hspace'⟩ := nextMember_eq_ok hnext
      · exact (skipFrom_first (b := .object) hspace (by decide)).trans
          (skipFrom_member rfl hskip hcolon)
      · exact (skipFrom_comma (b := .object) hspace).trans (skipFrom_member hspace' hskip hcolon)
    have hvalue := hvalue cs₃ j cs₄ hj (by omega)
    have hshort₄ := hvalue.shorter
    exact .append hfront (by omega) (by omega) hvalue (ih (by omega))

/-- What is read as a value is skipped as one, however deep it is nested. -/
theorem skips_of_anyValue {fuel depth : Nat} {cs rest : List Char} {j : Json}
    (h : anyValue fuel depth cs = .ok (j, rest)) (hfuel : cs.length < fuel) :
    Skips fuel .value [] cs rest := by
  induction depth generalizing cs j rest with
  | zero =>
    cases begins_of_anyValue h with
    | scalar h => exact .scalar h hfuel
  | succ depth ih =>
    have hlength := length_skipSpace_le cs
    cases begins_of_anyValue h with
    | scalar h => exact .scalar h hfuel
    | @list _ _ inner _ items hopen h =>
      rw [hopen, List.length_cons] at hlength
      exact .opening (b := .list) hopen (h.skips (fun cs j rest => ih) (by omega))
    | @object _ _ inner _ members hopen hfew h =>
      rw [hopen, List.length_cons] at hlength
      exact .opening (b := .object) hopen (h.skips (fun cs j rest => ih) (by omega))

theorem skipValue_of_anyValue {fuel depth : Nat} {cs rest : List Char} {j : Json}
    (h : anyValue fuel depth cs = .ok (j, rest)) (hfuel : cs.length < fuel) :
    skipValue fuel cs = .ok ((), rest) := by
  obtain ⟨hshort, n, hn, hskip⟩ := skips_of_anyValue h hfuel
  obtain ⟨k, hk⟩ := Nat.exists_eq_add_of_lt (show n < 2 * fuel + 2 by omega)
  rw [skipValue, hk, Nat.add_assoc]
  exact hskip k []

end Alerting.Json
